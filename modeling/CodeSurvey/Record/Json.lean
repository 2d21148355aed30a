import CodeSurvey.Declaration.Json
import CodeSurvey.Record

/-! The record of a file as JSON. -/
namespace CodeSurvey

def Import.toJson (i : Import) : Json :=
  .obj ([("module", .str i.modulePath)] ++
    Json.optional "imported_name" (i.importedName.map .str) ++
    Json.optional "alias" (i.boundAs.map .str) ++
    [("line", .nat i.line), ("is_relative", .bool i.isRelative)])

def ParseErrorKind.tag : ParseErrorKind → String
  | syntactic => "syntax"
  | internal => "internal"

def ParseError.toJson (e : ParseError) : Json :=
  .obj ([("kind", .str e.kind.tag), ("message", .str e.message)] ++
    Json.optional "line" (e.line.map .nat) ++ Json.optional "column" (e.column.map .nat))

mutual

def Outline.toJson : Outline → Json
  | .node kind startLine endLine children =>
    .obj ([("kind", .str kind), ("start_line", .nat startLine), ("end_line", .nat endLine)] ++
      if children.isEmpty then [] else [("children", .arr (Outline.listJson children))])

def Outline.listJson : List Outline → List Json
  | [] => []
  | o :: os => o.toJson :: Outline.listJson os

end

/-- The time that parsing took is not part of the record, and is written as zero. -/
def FileRecord.toJson (r : FileRecord) : Json :=
  .obj ([("path", .str r.path), ("language", .str r.language.tag),
     ("language_confidence", .float r.confidence), ("line_count", .nat r.lineCount),
     ("byte_size", .nat r.byteSize)] ++
    Json.optional "module_docstring" (r.moduleDocstring.map .str) ++
    [("declarations", .arr (r.declarations.map Declaration.toJson)),
     ("imports", .arr (r.imports.map Import.toJson)),
     ("variables", .arr (r.globals.map Variable.toJson)),
     ("metrics", r.metrics.toJson)] ++
    Json.optional "semantic" (r.symbols.map Symbols.toJson) ++
    Json.optional "ast" (r.outline.map Outline.toJson) ++
    [("parse_errors", .arr (r.parseErrors.map ParseError.toJson)),
     ("parse_duration_ms", .float 0)])

end CodeSurvey
