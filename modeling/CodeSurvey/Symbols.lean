import CodeSurvey.Declaration
import CodeSurvey.Json

/-! The names a file binds, and the calls it makes. -/
namespace CodeSurvey

inductive SymbolKind where
  | function | method | classLike | value
  deriving DecidableEq, Repr

def SymbolKind.tag : SymbolKind → String
  | function => "function"
  | method => "method"
  | classLike => "class"
  | value => "variable"

structure SymbolEntry where
  kind : SymbolKind
  line : Nat
  deriving DecidableEq, Repr

/-- A name bound to an entry. -/
abbrev Binding := String × SymbolEntry

def methodKey (owner name : String) : String := owner ++ "." ++ name

/-- What a declaration binds; methods go by the name of their class and their own. -/
def Declaration.bindings : Declaration → List Binding
  | function f => [(f.name, ⟨if f.isMethod then .method else .function, f.lineStart⟩)]
  | classLike c =>
    (c.name, ⟨.classLike, c.lineStart⟩) ::
      c.methods.map fun m => (methodKey c.name m.name, ⟨.method, m.lineStart⟩)

def Variable.binding (v : Variable) : Binding := (v.name, ⟨.value, v.line⟩)

/-- Binds a name in a table sorted by names; a name that is bound gets the new entry. -/
def bindName (b : Binding) : List Binding → List Binding
  | [] => [b]
  | x :: xs =>
    if b.1 < x.1 then b :: x :: xs else if x.1 < b.1 then x :: bindName b xs else b :: xs

/-- The symbol table, sorted by names, and the calls in their order. -/
structure Symbols where
  table : List Binding
  calls : List CallSite

namespace Symbols

/-- Every binding, declarations before variables. -/
def bindings (declarations : List Declaration) (globals : List Variable) : List Binding :=
  declarations.flatMap Declaration.bindings ++ globals.map Variable.binding

/-- Bindings take effect from the first line to the last, and the later one of a name stays. -/
def ofBindings (bs : List Binding) : List Binding :=
  (bs.mergeSort fun a b => decide (a.2.line ≤ b.2.line)).foldl (fun table b => bindName b table) []

def of (declarations : List Declaration) (globals : List Variable) (calls : List CallSite) :
    Symbols :=
  ⟨ofBindings (bindings declarations globals), calls⟩

def lookup (s : Symbols) (name : String) : Option SymbolEntry := s.table.lookup name

def callsFrom (s : Symbols) (caller : String) : List CallSite :=
  s.calls.filter fun c => c.caller == some caller

end Symbols

def SymbolEntry.toJson (e : SymbolEntry) : Json :=
  .obj [("kind", .str e.kind.tag), ("line", .nat e.line)]

def CallSite.toJson (c : CallSite) : Json :=
  .obj ([("caller_line", .nat c.line), ("callee_name", .str c.callee)] ++
    Json.optional "caller" (c.caller.map .str) ++
    [("args_count", .nat c.argsCount), ("kwargs_count", .nat c.kwargsCount)])

def Symbols.toJson (s : Symbols) : Json :=
  .obj [("symbol_table", .obj (s.table.map fun b => (b.1, b.2.toJson))),
    ("call_references", .arr (s.calls.map CallSite.toJson))]

end CodeSurvey
