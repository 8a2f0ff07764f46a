import ClusterControl.Text.Split

/-!
Semantic versions: reading, writing and their order. Build metadata, which precedence leaves out,
decides between versions of equal precedence.
-/

namespace ClusterControl

structure Version where
  major : Nat
  minor : Nat
  patch : Nat
  prerelease : List String
  build : List String
  deriving DecidableEq, Repr

namespace Version

def initial : Version := ⟨1, 0, 0, [], []⟩

/-- The greatest number of a version core. -/
def maxNumber : Nat := UInt64.size - 1

def isIdentifierChar (c : Char) : Bool :=
  c.isAlphanum || c = '-'

def isNumeric (identifier : String) : Bool :=
  identifier.toList.all Char.isDigit

def decimal (cs : List Char) : Nat :=
  cs.foldl (fun n c => n * 10 + (c.toNat - '0'.toNat)) 0

/-- A number of the version core: digits without a leading zero. -/
def number? (cs : List Char) : Option Nat :=
  if cs.isEmpty || !cs.all Char.isDigit || (cs.head? = some '0' && 1 < cs.length) then none
  else if decimal cs ≤ maxNumber then some (decimal cs) else none

/-- Identifiers separated by dots, each of them allowed. -/
def identifiers? (allowed : List Char → Bool) (cs : List Char) : Option (List String) :=
  let pieces := Text.split '.' cs
  if pieces.all fun piece => !piece.isEmpty && piece.all isIdentifierChar && allowed piece then
    some (pieces.map String.ofList)
  else none

/-- Identifiers behind a mark, or none where there is nothing. -/
def marked? (allowed : List Char → Bool) : Option (List Char) → Option (List String)
  | none => some []
  | some cs => identifiers? allowed cs

def prereleaseAllowed (cs : List Char) : Bool :=
  !(cs.all Char.isDigit && cs.head? = some '0' && 1 < cs.length)

/-- The part before the first separator, and the part behind it if there is one. -/
def cut (sep : Char) (cs : List Char) : List Char × Option (List Char) :=
  match Text.splitOnce sep cs with
  | some (l, r) => (l, some r)
  | none => (cs, none)

def parse? (s : String) : Option Version := do
  let (rest, build) := cut '+' s.toList
  let (core, prerelease) := cut '-' rest
  let prerelease ← marked? prereleaseAllowed prerelease
  let build ← marked? (fun _ => true) build
  match Text.split '.' core with
  | [major, minor, patch] =>
    return ⟨← number? major, ← number? minor, ← number? patch, prerelease, build⟩
  | _ => none

def render (v : Version) : String :=
  let behind (mark : String) (identifiers : List String) :=
    if identifiers.isEmpty then "" else mark ++ ".".intercalate identifiers
  s!"{v.major}.{v.minor}.{v.patch}" ++ behind "-" v.prerelease ++ behind "+" v.build

/-- Numeric identifiers come first and go by value, then by length; the others go by their text. -/
def compareIdentifiers (a b : String) : Ordering :=
  match isNumeric a, isNumeric b with
  | true, true => (compare (decimal a.toList) (decimal b.toList)).then (compare a.length b.length)
  | true, false => .lt
  | false, true => .gt
  | false, false => compare a b

/-- The first difference decides; of a list and its continuation the list is lower. -/
def compareLists : List String → List String → Ordering
  | [], [] => .eq
  | [], _ :: _ => .lt
  | _ :: _, [] => .gt
  | a :: as, b :: bs => (compareIdentifiers a b).then (compareLists as bs)

/-- A version without a prerelease is above those with one. -/
def comparePrereleases : List String → List String → Ordering
  | [], [] => .eq
  | [], _ :: _ => .gt
  | _ :: _, [] => .lt
  | a, b => compareLists a b

/-- The order of versions. -/
def order (v w : Version) : Ordering :=
  (compare v.major w.major).then <| (compare v.minor w.minor).then <|
    (compare v.patch w.patch).then <| (comparePrereleases v.prerelease w.prerelease).then <|
      compareLists v.build w.build

end Version

end ClusterControl
