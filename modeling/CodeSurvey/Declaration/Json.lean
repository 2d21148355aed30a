import CodeSurvey.Declaration
import CodeSurvey.Json.Read

/-! Declarations and variables as JSON. -/
namespace CodeSurvey

namespace Parameter

def toJson (p : Parameter) : Json :=
  .obj (("name", .str p.name) :: Json.optional "type_annotation" (p.typeName.map .str) ++
    Json.optional "default" (p.default.map .str))

def ofJson? (j : Json) : Option Parameter := do
  let r ← j.asRecord? ["name", "type_annotation", "default"]
  return {
    name := ← Json.required r "name" Json.asStr?
    typeName := ← Json.possible r "type_annotation" Json.asStr?
    default := ← Json.possible r "default" Json.asStr? }

end Parameter

def NameSet.toJson (s : NameSet) : Json := .strs s.names

def NameSet.ofJson? (j : Json) : Option NameSet := j.asStrs?.map .ofList

namespace FunctionDecl

def members (f : FunctionDecl) : List (String × Json) :=
  [("name", .str f.name), ("line_start", .nat f.lineStart), ("line_end", .nat f.lineEnd),
   ("parameters", .arr (f.parameters.map Parameter.toJson))] ++
  Json.optional "annotated_return" (f.annotatedReturn.map .str) ++
  [("is_async", .bool f.isAsync), ("is_method", .bool f.isMethod),
   ("decorators", f.decorators.toJson)] ++
  Json.optional "docstring" (f.docstring.map .str) ++
  [("cyclomatic_complexity", .nat f.cyclomaticComplexity.toNat),
   ("nesting_depth", .nat f.nestingDepth.toNat)]

def toJson (f : FunctionDecl) : Json := .obj f.members

def memberNames : List String :=
  ["name", "line_start", "line_end", "parameters", "annotated_return", "is_async", "is_method",
   "decorators", "docstring", "cyclomatic_complexity", "nesting_depth"]

def ofJson? (j : Json) : Option FunctionDecl := do
  let r ← j.asRecord? memberNames
  return {
    name := ← Json.required r "name" Json.asStr?
    lineStart := ← Json.required r "line_start" Json.asWord?
    lineEnd := ← Json.required r "line_end" Json.asWord?
    parameters := ← Json.required r "parameters" (Json.asList? Parameter.ofJson?)
    annotatedReturn := ← Json.possible r "annotated_return" Json.asStr?
    isAsync := ← Json.required r "is_async" Json.asBool?
    isMethod := ← Json.required r "is_method" Json.asBool?
    decorators := ← Json.required r "decorators" NameSet.ofJson?
    docstring := ← Json.possible r "docstring" Json.asStr?
    cyclomaticComplexity := ← Json.required r "cyclomatic_complexity" Json.asUInt32?
    nestingDepth := ← Json.required r "nesting_depth" Json.asUInt32? }

end FunctionDecl

namespace ClassDecl

def members (c : ClassDecl) : List (String × Json) :=
  [("name", .str c.name), ("line_start", .nat c.lineStart), ("line_end", .nat c.lineEnd),
   ("base_names", .strs c.baseNames), ("methods", .arr (c.methods.map FunctionDecl.toJson)),
   ("fields", .strs c.fields)] ++
  Json.optional "docstring" (c.docstring.map .str) ++
  [("is_abstract", .bool c.isAbstract), ("decorators", c.decorators.toJson)]

def memberNames : List String :=
  ["name", "line_start", "line_end", "base_names", "methods", "fields", "docstring",
   "is_abstract", "decorators"]

def ofJson? (j : Json) : Option ClassDecl := do
  let r ← j.asRecord? memberNames
  return {
    name := ← Json.required r "name" Json.asStr?
    lineStart := ← Json.required r "line_start" Json.asWord?
    lineEnd := ← Json.required r "line_end" Json.asWord?
    baseNames := ← Json.required r "base_names" Json.asStrs?
    methods := ← Json.required r "methods" (Json.asList? FunctionDecl.ofJson?)
    fields := ← Json.required r "fields" Json.asStrs?
    docstring := ← Json.possible r "docstring" Json.asStr?
    isAbstract := ← Json.required r "is_abstract" Json.asBool?
    decorators := ← Json.required r "decorators" NameSet.ofJson? }

end ClassDecl

namespace Declaration

/-- The kind of a declaration stands first, under `type`. -/
def toJson (d : Declaration) : Json :=
  .obj (("type", .str d.kind) :: match d with
    | function f => f.members
    | classLike c => c.members)

/-- The kind and what is left: the member `type`, or the first item of an array. -/
def splitKind? : Json → Option (String × Json)
  | .obj members => do
    let kind ← Json.required members "type" Json.asStr?
    return (kind, .obj (members.filter (·.1 != "type")))
  | .arr (.str kind :: rest) => some (kind, .arr rest)
  | _ => none

def ofJson? (j : Json) : Option Declaration := do
  let (kind, rest) ← splitKind? j
  match kind with
  | "function" => return function (← FunctionDecl.ofJson? rest)
  | "class" => return classLike (← ClassDecl.ofJson? rest)
  | _ => none

end Declaration

namespace VariableKind

def tag : VariableKind → String
  | assignment => "assignment"
  | annotated => "annotated"

def ofTag? : String → Option VariableKind
  | "assignment" => some assignment
  | "annotated" => some annotated
  | _ => none

/-- A tag, or an object whose one member is a tag with nothing to add. -/
def ofJson? : Json → Option VariableKind
  | .str s => ofTag? s
  | .obj [(s, .null)] => ofTag? s
  | _ => none

end VariableKind

namespace Variable

def toJson (v : Variable) : Json :=
  .obj ([("name", .str v.name), ("line", .nat v.line), ("kind", .str v.kind.tag)] ++
    Json.optional "type_annotation" (v.typeName.map .str))

def ofJson? (j : Json) : Option Variable := do
  let r ← j.asRecord? ["name", "line", "kind", "type_annotation"]
  return {
    name := ← Json.required r "name" Json.asStr?
    line := ← Json.required r "line" Json.asWord?
    kind := ← Json.required r "kind" VariableKind.ofJson?
    typeName := ← Json.possible r "type_annotation" Json.asStr? }

end Variable

end CodeSurvey
