import ClusterControl.Decimal.Text

/-!
Documents: the written form of what a cluster keeps and exchanges.
-/

namespace ClusterControl

inductive Document
  | null
  | bool (b : Bool)
  | int (n : Int)
  | decimal (x : Float)
  | text (s : String)
  | list (items : List Document)
  | record (fields : List (String × Document))

namespace Document

instance : Inhabited Document := ⟨null⟩

def nat (n : Nat) : Document := .int n

/-- The field of that name. -/
def field? (d : Document) (name : String) : Option Document :=
  match d with
  | .record fields => (fields.find? fun field => field.1 = name).map Prod.snd
  | _ => none

def asBool? : Document → Option Bool
  | .bool b => some b
  | _ => none

def asText? : Document → Option String
  | .text s => some s
  | _ => none

/-- A natural number below the limit. -/
def asNat? (limit : Nat) : Document → Option Nat
  | .int (.ofNat n) => if n < limit then some n else none
  | _ => none

/-- The nearest double. -/
def asFloat? : Document → Option Float
  | .int n => some (Double.ofRat n)
  | .decimal x => some x
  | _ => none

def asList? : Document → Option (List Document)
  | .list items => some items
  | _ => none

def asRecord? : Document → Option (List (String × Document))
  | .record fields => some fields
  | _ => none

/-- The parts of a record by their names; a list of exactly as many parts has them by place. -/
def parts? (names : List String) : Document → Option (List (Option Document))
  | .record fields => some (names.map (field? (.record fields)))
  | .list items => if items.length = names.length then some (items.map some) else none
  | _ => none

/-- A case by name with what it holds; the name alone holds nothing. -/
def case? : Document → Option (String × Document)
  | .text name => some (name, .null)
  | .record [(name, content)] => some (name, content)
  | _ => none

/-- A case that holds nothing. -/
def plainCase? (d : Document) : Option String :=
  match d.case? with
  | some (name, .null) => some name
  | _ => none

end Document

/-- A type with a written form. -/
class Documented (α : Type) where
  toDocument : α → Document
  ofDocument? : Document → Option α

export Documented (toDocument)

namespace Documented

variable {α : Type} [Documented α]

/-- A part that has to be there. -/
def required (part : Option Document) : Option α :=
  part.bind ofDocument?

/-- A part that may be missing or null. -/
def optional : Option Document → Option (Option α)
  | none => some none
  | some .null => some none
  | some d => (ofDocument? d).map some

instance : Documented Bool := ⟨.bool, Document.asBool?⟩

instance : Documented String := ⟨.text, Document.asText?⟩

instance : Documented (Option α) where
  toDocument
    | some a => toDocument a
    | none => .null
  ofDocument? d := optional (some d)

instance : Documented (List α) where
  toDocument as := .list (as.map toDocument)
  ofDocument? d := d.asList?.bind (List.mapM ofDocument?)

end Documented

/-- Reads a document as a value and writes it again, in the one form that this value has. -/
def Document.normalizeAs? (α : Type) [Documented α] (d : Document) : Option Document :=
  (Documented.ofDocument? (α := α) d).map toDocument

end ClusterControl
