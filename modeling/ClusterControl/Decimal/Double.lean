/-!
Doubles as exact numbers: what a double stands for, the double nearest to a rational number, and
the order of their bit patterns.
-/

namespace ClusterControl.Double

/-- A finite double is `± mantissa · 2 ^ exponent`. -/
structure Parts where
  negative : Bool
  mantissa : Nat
  exponent : Int
  deriving DecidableEq, Repr

/-- The leading bit of a normal mantissa, which is not written. -/
def hiddenBit : Nat := 1 <<< 52

def signBit : Nat := 1 <<< 63

/-- The parts of a finite double. -/
def parts? (x : Float) : Option Parts :=
  let bits := x.toBits.toNat
  let biased : Nat := bits / hiddenBit % 2048
  let fraction := bits % hiddenBit
  let negative := bits / signBit = 1
  if biased = 2047 then none
  else if biased = 0 then some ⟨negative, fraction, -1074⟩
  else some ⟨negative, fraction + hiddenBit, (biased : Int) - 1075⟩

def Parts.magnitude (p : Parts) : Rat :=
  p.mantissa * 2 ^ p.exponent

def Parts.toRat (p : Parts) : Rat :=
  if p.negative then -p.magnitude else p.magnitude

/-- The nearest integer; of two equally near ones the even one. -/
def roundHalfEven (r : Rat) : Int :=
  let low := r.floor
  let rest := r - low
  if rest < 1 / 2 then low
  else if 1 / 2 < rest then low + 1
  else if low % 2 = 0 then low else low + 1

/-- The exponent of the last binary place of a double near `r`, for `0 < r`. -/
def lastPlace (r : Rat) : Int :=
  let guess := (r.num.toNat.log2 : Int) - r.den.log2
  let top := if r < 2 ^ guess then guess - 1 else guess
  max (top - 52) (-1074)

/-- The double nearest to a positive `r`; of two equally near ones the one with an even mantissa. A
mantissa that rounds up to the next power of two carries into the exponent field. -/
def ofPositive (r : Rat) : Float :=
  let e := lastPlace r
  let bits := (e + 1074) * hiddenBit + roundHalfEven (r / 2 ^ e)
  Float.ofBits (UInt64.ofNat (min bits.toNat (2047 * hiddenBit)))

/-- The double nearest to `r`, the positive zero for zero. -/
def ofRat (r : Rat) : Float :=
  if 0 < r then ofPositive r else if r < 0 then -ofPositive (-r) else 0

/-- The product and sum `a * b + c`, rounded once. -/
def fusedSum (a b c : Float) : Float :=
  match parts? a, parts? b, parts? c with
  | some pa, some pb, some pc =>
    let product := pa.toRat * pb.toRat
    if product = 0 ∧ pc.toRat = 0 then a * b + c else ofRat (product + pc.toRat)
  | some _, some _, none => c
  | _, _, _ => a * b + c

/-- The place of a double in the order of all bit patterns: it agrees with the order of numbers,
puts the negative zero before the positive one and the patterns that are no numbers at both ends. -/
def rank (x : Float) : Int :=
  let bits := x.toBits.toNat
  if bits < signBit then bits else (signBit : Int) - 1 - bits

end ClusterControl.Double
