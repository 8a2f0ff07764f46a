/-!
Settings that take one of a few named values.
-/

namespace ClusterControl

class Choice (α : Type) where
  options : List α
  name : α → String

namespace Choice

variable {α : Type} [Choice α]

/-- The option of exactly that name. -/
def ofName? (s : String) : Option α :=
  options.find? fun a => name a = s

/-- Names are compared in lower case. -/
def read? (s : String) : Option α :=
  ofName? s.toLower

def names (α : Type) [Choice α] : List String :=
  (options (α := α)).map name

end Choice

/-- Which shard copies may be allocated. -/
inductive EnableAllocation
  | all
  | primaries
  | newPrimaries
  | none
  deriving DecidableEq, Repr

instance : Choice EnableAllocation where
  options := [.all, .primaries, .newPrimaries, .none]
  name
    | .all => "all"
    | .primaries => "primaries"
    | .newPrimaries => "new_primaries"
    | .none => "none"

/-- Which shard copies may be moved for balance. -/
inductive EnableRebalance
  | all
  | primaries
  | replicas
  | none
  deriving DecidableEq, Repr

instance : Choice EnableRebalance where
  options := [.all, .primaries, .replicas, .none]
  name
    | .all => "all"
    | .primaries => "primaries"
    | .replicas => "replicas"
    | .none => "none"

/-- What must be active before shards are moved for balance. -/
inductive AllowRebalance
  | always
  | indicesPrimariesActive
  | indicesAllActive
  deriving DecidableEq, Repr

instance : Choice AllowRebalance where
  options := [.always, .indicesPrimariesActive, .indicesAllActive]
  name
    | .always => "always"
    | .indicesPrimariesActive => "indices_primaries_active"
    | .indicesAllActive => "indices_all_active"

end ClusterControl
