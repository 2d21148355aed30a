import CodeSurvey.Failure

/-! The files of a codebase and where their content comes from. -/
namespace CodeSurvey

/-- One file of a listing. The path is for reports and globs, the id for fetching. -/
structure Entry where
  path : String
  id : String
  size : Nat
  languageHint : Option String := none
  /-- Why a file that was seen could not be read. -/
  listingError : Option String := none
  deriving DecidableEq, Repr

def Entry.toJson (e : Entry) : Json :=
  .obj ([("path", .str e.path), ("id", .str e.id), ("size_bytes", .nat e.size),
    ("language_hint", Json.orNull (e.languageHint.map .str))] ++
    Json.optional "listing_error" (e.listingError.map .str))

/-- Gives the content of a file by its id. -/
abbrev Fetch := String → Except ContentError ByteArray

/-- Contents by id. -/
abbrev Store := List (String × ByteArray)

namespace Store

/-- Stores a content; the last one of an id stays. -/
def insert (store : Store) (id : String) (content : ByteArray) : Store :=
  (id, content) :: store.filter (·.1 != id)

def fetch (store : Store) : Fetch := fun id =>
  match store.lookup id with
  | some content => .ok content
  | none => .error (.notFound id)

/-- Every stored file under its id, sorted. -/
def listing (store : Store) : List Entry :=
  (store.map fun (id, content) => { path := id, id, size := content.size : Entry }).mergeSort
    fun a b => decide (a.path ≤ b.path)

end Store

end CodeSurvey
