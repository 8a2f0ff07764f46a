import ClusterControl.Decimal.Double

/-!
Decimal texts of doubles: the fewest digits that read back, a fixed number of places, and reading.
-/

namespace ClusterControl.Decimal

open Double (Parts hiddenBit)

/-- The decimal number `digits · 10 ^ exponent`. -/
structure Grid where
  digits : Nat
  exponent : Int
  deriving DecidableEq, Repr

def Grid.toRat (g : Grid) : Rat :=
  g.digits * 10 ^ g.exponent

/-- Whether `r` rounds to the double with these parts: it lies within half a place of it, on the
edges only if the mantissa is even. Below a power of two the places are half as wide. -/
def roundsTo (p : Parts) (r : Rat) : Bool :=
  let place : Rat := 2 ^ p.exponent
  let below := if p.mantissa = hiddenBit ∧ -1074 < p.exponent then place / 4 else place / 2
  let low := p.magnitude - below
  let high := p.magnitude + place / 2
  if p.mantissa % 2 = 0 then low ≤ r && r ≤ high else low < r && r < high

/-- Of the two neighbours of a double on the grid of one exponent the one that reads back; of two
the nearer, and the upper one of two equally near ones. -/
def onGrid? (p : Parts) (exponent : Int) : Option Grid :=
  let low : Grid := ⟨(p.magnitude / 10 ^ exponent).floor.toNat, exponent⟩
  let high : Grid := ⟨low.digits + 1, exponent⟩
  match roundsTo p low.toRat, roundsTo p high.toRat with
  | true, true =>
    some (if p.magnitude - low.toRat < high.toRat - p.magnitude then low else high)
  | true, false => some low
  | false, true => some high
  | false, false => none

/-- The exponents of the grids to try: from one too coarse down to the finest place of a double. -/
def gridExponents (p : Parts) : List Int :=
  let top := (toString p.magnitude.floor).length
  (List.range (top + 1100)).map fun i => (top : Int) - (i : Nat)

/-- The number with the fewest digits that reads back as the double. -/
def shortest (p : Parts) : Grid :=
  if p.mantissa = 0 then ⟨0, 0⟩ else ((gridExponents p).findSome? (onGrid? p)).getD ⟨0, 0⟩

/-- Positional notation: no exponent, and a point only before digits. -/
def Grid.positional (g : Grid) : String :=
  let digits := toString g.digits
  if 0 ≤ g.exponent then digits ++ String.ofList (List.replicate g.exponent.toNat '0')
  else
    let places := (-g.exponent).toNat
    let padded := List.replicate (places + 1 - digits.length) '0' ++ digits.toList
    let whole := padded.take (padded.length - places)
    String.ofList (whole ++ '.' :: padded.drop (padded.length - places))

/-- `body` for a finite double, with its sign in front. -/
def signed (x : Float) (body : Parts → String) : String :=
  match Double.parts? x with
  | some p => if p.negative then "-" ++ body p else body p
  | none => if x.isNaN then "NaN" else if x < 0 then "-inf" else "inf"

/-- The fewest digits that read back, in positional notation. -/
def plain (x : Float) : String :=
  signed x fun p => (shortest p).positional

/-- One place behind the point, a tie going to the even digit. -/
def onePlace (x : Float) : String :=
  signed x fun p => Grid.positional ⟨(Double.roundHalfEven (p.magnitude * 10)).toNat, -1⟩

inductive Fault
  | empty
  | invalid
  deriving DecidableEq, Repr

def Fault.message : Fault → String
  | empty => "cannot parse float from empty string"
  | invalid => "invalid float literal"

/-- The digits a text starts with, and the rest. -/
def takeDigits (cs : List Char) : List Char × List Char :=
  (cs.takeWhile Char.isDigit, cs.dropWhile Char.isDigit)

def value (digits : List Char) : Nat :=
  digits.foldl (fun n c => n * 10 + (c.toNat - '0'.toNat)) 0

/-- The exponent behind an `e`: a sign or none, and at least one digit. -/
def exponent? (cs : List Char) : Option Int :=
  let (negative, cs) := match cs with
    | '-' :: cs => (true, cs)
    | '+' :: cs => (false, cs)
    | cs => (false, cs)
  if cs.isEmpty ∨ !cs.all Char.isDigit then none
  else some (if negative then -(value cs : Int) else value cs)

/-- The double nearest to `mantissa · 10 ^ exponent`. Beyond the range of doubles no power is
computed. -/
def nearest (mantissa : Nat) (exponent : Int) : Float :=
  let top := (toString mantissa).length + exponent
  if mantissa = 0 ∨ top < -400 then 0
  else if 400 < top then Float.ofBits 0x7ff0000000000000
  else Double.ofRat (mantissa * 10 ^ exponent)

/-- Digits with a point anywhere among them or none, then an exponent or none. -/
def number? (cs : List Char) : Option Float :=
  let (whole, rest) := takeDigits cs
  let (fraction, rest) := match rest with
    | '.' :: rest => takeDigits rest
    | rest => ([], rest)
  if whole.isEmpty && fraction.isEmpty then none
  else
    let mantissa := value (whole ++ fraction)
    match rest with
    | [] => some (nearest mantissa (-fraction.length))
    | e :: rest =>
      if e = 'e' ∨ e = 'E' then
        (exponent? rest).map fun exponent => nearest mantissa (exponent - fraction.length)
      else none

/-- A number without its sign, or the name of an infinity or of no number in letters of any case. -/
def unsigned? (cs : List Char) : Option Float :=
  let name := String.ofList (cs.map Char.toLower)
  if name = "inf" ∨ name = "infinity" then some (Float.ofBits 0x7ff0000000000000)
  else if name = "nan" then some (Float.ofBits 0x7ff8000000000000)
  else number? cs

def read (cs : List Char) : Except Fault Float :=
  match cs with
  | [] => .error .empty
  | '-' :: cs => ((unsigned? cs).map (-·)).elim (.error .invalid) .ok
  | '+' :: cs => (unsigned? cs).elim (.error .invalid) .ok
  | cs => (unsigned? cs).elim (.error .invalid) .ok

end ClusterControl.Decimal
