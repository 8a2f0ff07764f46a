import ClusterControl.Text.Split

/-!
Patterns in which a star stands for any sequence of characters, the empty one included, and every
other character for itself.
-/

namespace ClusterControl.Wildcard

/-- What follows the leftmost occurrence of `piece`. -/
def after? (piece : List Char) : List Char → Option (List Char)
  | [] => if piece.isEmpty then some [] else none
  | c :: cs =>
    if piece.isPrefixOf (c :: cs) then some ((c :: cs).drop piece.length) else after? piece cs

/-- Whether the pieces occur in order without overlap, the last one at the end. -/
def endsWithPieces : List (List Char) → List Char → Bool
  | [], _ => false
  | [piece], cs => piece.isSuffixOf cs
  | piece :: pieces, cs =>
    match after? piece cs with
    | some rest => endsWithPieces pieces rest
    | none => false

/-- Tries the literal pieces between the stars from the left, each at its first place. -/
def acceptsChars (pattern value : List Char) : Bool :=
  match Text.split '*' pattern with
  | [] => false
  | [literal] => literal = value
  | first :: pieces =>
    first.isPrefixOf value && endsWithPieces pieces (value.drop first.length)

def accepts (pattern value : String) : Bool :=
  acceptsChars pattern.toList value.toList

def isPattern (text : String) : Bool :=
  text.toList.contains '*'

end ClusterControl.Wildcard
