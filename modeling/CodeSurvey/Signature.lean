import CodeSurvey.Language
import CodeSurvey.Text.Pattern

/-! What the text of a program gives away about its language. -/
namespace CodeSurvey

open Text.Pattern in
/-- For each language the patterns that speak for it, in the order in which ties are decided. -/
def signatures : List (Language × List Text.Pattern) :=
  [(.python,
    [text "#!/usr/bin/env python",
     text "#!/usr/bin/python",
     text "# -*- coding: utf-8 -*-",
     inOrder [text "from", gap, name, gap, text "import"],
     inOrder [text "import", gap, name],
     inOrder [text "def", gap, name, space, text "("],
     inOrder [text "class", gap, name, space, text "("],
     inOrder [text "if", gap, text "__name__", space, text "==", space, choice "\"'",
       text "__main__", choice "\"'"]]),
   (.javaScript,
    [inOrder [text "function", gap, name, space, text "("],
     inOrder [text "var", gap, name, space, text "="],
     inOrder [text "let", gap, name, space, text "="],
     inOrder [text "const", gap, name, space, text "="],
     inOrder [text "require", space, text "("],
     text "module.exports",
     inOrder [text "export", gap, text "default"],
     inOrder [text "import", gap, stretch, gap, text "from"]]),
   (.java,
    [inOrder [text "public", gap, text "class", gap, name],
     inOrder [text "private", gap, name, gap, name],
     inOrder [text "public", gap, text "static", gap, text "void", gap, text "main"],
     inOrder [text "import", gap, text "java."],
     inOrder [text "package", gap, name],
     text "@Override",
     text "System.out.println"]),
   (.c,
    [inOrder [text "#include", space, text "<", stretch, text ">"],
     inOrder [text "#include", space, text "\"", stretch, text "\""],
     inOrder [text "int", gap, text "main", space, text "("],
     inOrder [text "printf", space, text "("],
     inOrder [text "malloc", space, text "("],
     inOrder [text "free", space, text "("]]),
   (.cpp,
    [inOrder [text "#include", space, text "<iostream>"],
     inOrder [text "#include", space, text "<vector>"],
     text "std::",
     inOrder [text "using", gap, text "namespace", gap, text "std"],
     inOrder [text "cout", space, text "<<"],
     inOrder [text "cin", space, text ">>"],
     inOrder [text "class", gap, name, space, text "\x7b"]]),
   (.go,
    [inOrder [lineStart, text "package", gap, name, space, lineEnd],
     inOrder [text "func", gap, name, space, text "("],
     inOrder [text "func", space, text "(", name, gap, optional (text "*"), name, text ")"],
     inOrder [text "import", space, text "("],
     inOrder [name, space, text ":="],
     inOrder [text "fmt.", name, text "("]]),
   (.rust,
    [inOrder [text "fn", gap, name, space, choice "<("],
     inOrder [text "let", gap, text "mut", gap],
     inOrder [text "use", gap, name, plus (inOrder [text "::", name])],
     inOrder [text "impl", optional (inOrder [text "<", stretch, text ">"]), gap, name],
     inOrder [text "pub", gap, anyOf (["fn", "struct", "enum", "mod", "trait"].map text),
       one .blank],
     text "#[derive(",
     text "println!("])]

end CodeSurvey
