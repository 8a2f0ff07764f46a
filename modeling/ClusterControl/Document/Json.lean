import ClusterControl.Document.Basic
import ClusterControl.Text.Blank

/-!
Documents as JSON text. A number is an integer if it is written as one; the negative zero is not.
-/

namespace ClusterControl.Document

def skipSpace (cs : List Char) : List Char :=
  cs.dropWhile fun c => c = ' ' || c = '\t' || c = '\n' || c = '\r'

def hexValue? (c : Char) : Option Nat :=
  if c.isDigit then some (c.toNat - '0'.toNat)
  else if 'a' ≤ c ∧ c ≤ 'f' then some (c.toNat - 'a'.toNat + 10)
  else if 'A' ≤ c ∧ c ≤ 'F' then some (c.toNat - 'A'.toNat + 10)
  else none

/-- Four hexadecimal digits. -/
def unit? : List Char → Option (Nat × List Char)
  | a :: b :: c :: d :: rest => do
    let digits ← [a, b, c, d].mapM hexValue?
    return (digits.foldl (fun n digit => n * 16 + digit) 0, rest)
  | _ => none

/-- The character behind an escape for a code unit: two units in a row may stand for one. -/
def escapedUnit? (cs : List Char) : Option (Char × List Char) := do
  let (high, rest) ← unit? cs
  if 0xd800 ≤ high ∧ high < 0xdc00 then
    match rest with
    | '\\' :: 'u' :: rest =>
      let (low, rest) ← unit? rest
      if 0xdc00 ≤ low ∧ low < 0xe000 then
        return (Char.ofNat (0x10000 + (high - 0xd800) * 0x400 + (low - 0xdc00)), rest)
      else none
    | _ => none
  else if 0xdc00 ≤ high ∧ high < 0xe000 then none
  else return (Char.ofNat high, rest)

def escaped? : List Char → Option (Char × List Char)
  | '"' :: rest => some ('"', rest)
  | '\\' :: rest => some ('\\', rest)
  | '/' :: rest => some ('/', rest)
  | 'b' :: rest => some ('\x08', rest)
  | 'f' :: rest => some ('\x0c', rest)
  | 'n' :: rest => some ('\n', rest)
  | 'r' :: rest => some ('\r', rest)
  | 't' :: rest => some ('\t', rest)
  | 'u' :: rest => escapedUnit? rest
  | _ => none

/-- The rest of a string behind its opening quote; `seen` holds what was read, last first. -/
def stringBody? (seen : List Char) : Nat → List Char → Option (String × List Char)
  | _, '"' :: rest => some (String.ofList seen.reverse, rest)
  | fuel + 1, '\\' :: rest => do
    let (c, rest) ← escaped? rest
    stringBody? (c :: seen) fuel rest
  | fuel + 1, c :: rest => stringBody? (c :: seen) fuel rest
  | _, _ => none

def isNumberChar (c : Char) : Bool :=
  c.isDigit || c = '-' || c = '+' || c = '.' || c = 'e' || c = 'E'

def ofNumber? (cs : List Char) : Option Document :=
  let digits (cs : List Char) := !cs.isEmpty && cs.all Char.isDigit
  match cs with
  | ['-', '0'] => some (.decimal (-0))
  | '-' :: rest =>
    if digits rest then some (.int (-(Decimal.value rest : Int)))
    else (Decimal.read cs).toOption.map .decimal
  | _ =>
    if digits cs then some (.int (Decimal.value cs)) else (Decimal.read cs).toOption.map .decimal

mutual

def value? : Nat → List Char → Option (Document × List Char)
  | 0, _ => none
  | fuel + 1, cs =>
    match skipSpace cs with
    | 'n' :: 'u' :: 'l' :: 'l' :: rest => some (.null, rest)
    | 't' :: 'r' :: 'u' :: 'e' :: rest => some (.bool true, rest)
    | 'f' :: 'a' :: 'l' :: 's' :: 'e' :: rest => some (.bool false, rest)
    | '"' :: rest => do
      let (s, rest) ← stringBody? [] rest.length rest
      return (.text s, rest)
    | '[' :: rest =>
      match skipSpace rest with
      | ']' :: rest => some (.list [], rest)
      | rest => do
        let (items, rest) ← items? fuel rest
        return (.list items, rest)
    | '\x7b' :: rest =>
      match skipSpace rest with
      | '\x7d' :: rest => some (.record [], rest)
      | rest => do
        let (fields, rest) ← fields? fuel rest
        return (.record fields, rest)
    | rest => do
      let d ← ofNumber? (rest.takeWhile isNumberChar)
      return (d, rest.dropWhile isNumberChar)

def items? : Nat → List Char → Option (List Document × List Char)
  | 0, _ => none
  | fuel + 1, cs => do
    let (item, rest) ← value? fuel cs
    match skipSpace rest with
    | ']' :: rest => return ([item], rest)
    | ',' :: rest =>
      let (items, rest) ← items? fuel rest
      return (item :: items, rest)
    | _ => none

def fields? : Nat → List Char → Option (List (String × Document) × List Char)
  | 0, _ => none
  | fuel + 1, cs =>
    match skipSpace cs with
    | '"' :: rest => do
      let (name, rest) ← stringBody? [] rest.length rest
      match skipSpace rest with
      | ':' :: rest =>
        let (content, rest) ← value? fuel rest
        match skipSpace rest with
        | '\x7d' :: rest => return ([(name, content)], rest)
        | ',' :: rest =>
          let (fields, rest) ← fields? fuel rest
          return ((name, content) :: fields, rest)
        | _ => none
      | _ => none
    | _ => none

end

def ofJson? (s : String) : Option Document :=
  let cs := s.toList
  match value? (cs.length + 1) cs with
  | some (d, rest) => if (skipSpace rest).isEmpty then some d else none
  | none => none

def escapeJson (c : Char) : List Char :=
  if c = '"' then ['\\', '"']
  else if c = '\\' then ['\\', '\\']
  else if c.toNat < 0x20 then
    ['\\', 'u', '0', '0', Nat.digitChar (c.toNat / 16), Nat.digitChar (c.toNat % 16)]
  else [c]

def jsonText (s : String) : String :=
  String.ofList ('"' :: s.toList.flatMap escapeJson ++ ['"'])

mutual

def toJson : Document → String
  | .null => "null"
  | .bool b => if b then "true" else "false"
  | .int n => toString n
  | .decimal x => Decimal.plain x
  | .text s => jsonText s
  | .list items => "[" ++ ",".intercalate (itemsToJson items) ++ "]"
  | .record fields => "\x7b" ++ ",".intercalate (fieldsToJson fields) ++ "\x7d"

def itemsToJson : List Document → List String
  | [] => []
  | d :: ds => d.toJson :: itemsToJson ds

def fieldsToJson : List (String × Document) → List String
  | [] => []
  | (name, d) :: rest => (jsonText name ++ ":" ++ d.toJson) :: fieldsToJson rest

end

end ClusterControl.Document
