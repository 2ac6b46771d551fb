/-!
# Numbers of the 64-bit binary format

A number is kept as its bit pattern, so that equality of numbers is equality of patterns and every
operation is exact arithmetic on naturals. `ofRatio` rounds a quotient to the nearest number, a tie
to the even neighbour; the other operations are built from it.
-/
namespace Gleaner

/-- A number of the 64-bit binary format, kept as its bit pattern. -/
structure Binary64 where
  bits : UInt64
  deriving DecidableEq, Repr, Inhabited

namespace Binary64

def exponentField (x : Binary64) : Nat := ((x.bits >>> 52) &&& 0x7FF).toNat

def fractionField (x : Binary64) : Nat := (x.bits &&& 0xFFFFFFFFFFFFF).toNat

def isNegative (x : Binary64) : Bool := x.bits >>> 63 == 1

def isNaN (x : Binary64) : Bool := x.exponentField == 0x7FF && x.fractionField != 0

def isFinite (x : Binary64) : Bool := x.exponentField != 0x7FF

def isZero (x : Binary64) : Bool := x.exponentField == 0 && x.fractionField == 0

/-- Equality of numbers: the two zeros are equal, and a NaN equals nothing. -/
def numEq (x y : Binary64) : Bool :=
  !x.isNaN && !y.isNaN && (x.bits == y.bits || (x.isZero && y.isZero))

def neg (x : Binary64) : Binary64 := ⟨x.bits ^^^ 0x8000000000000000⟩

def infinity : Binary64 := ⟨0x7FF0000000000000⟩

def nan : Binary64 := ⟨0x7FF8000000000000⟩

/-- The magnitude of a finite number is `significand * 2 ^ scale`. -/
def significand (x : Binary64) : Nat :=
  if x.exponentField = 0 then x.fractionField else x.fractionField + 0x10000000000000

def scale (x : Binary64) : Int := (max x.exponentField 1 : Nat) - 1075

/-- Two to an integer power, as a numerator and a denominator. -/
def powTwo (e : Int) : Nat × Nat := (Nat.pow 2 e.toNat, Nat.pow 2 (-e).toNat)

/-- The magnitude of a finite number, as a numerator and a denominator. -/
def ratio (x : Binary64) : Nat × Nat :=
  let (p, q) := powTwo x.scale
  (x.significand * p, q)

/-- A quotient rounded to the nearest natural number, a half to the even neighbour. -/
def roundDiv (num den : Nat) : Nat :=
  let q := num / den
  let r := num % den
  if 2 * r < den ∨ (2 * r = den ∧ q % 2 = 0) then q else q + 1

/-- The power of two at which the quotient `num / den` is rounded: fifty-three bits are kept, fewer
where the format has no smaller exponent. -/
def roundingScale (num den : Nat) : Int :=
  let guess : Int := (num.log2 : Int) - den.log2 - 52
  let (p, q) := powTwo guess
  let e := if num * q < 0x10000000000000 * (den * p) then guess - 1 else guess
  max e (-1074)

/-- The number nearest to `num / den`, a tie going to the even significand. A quotient past the
largest number gives infinity. -/
def ofRatio (num den : Nat) : Binary64 :=
  if num = 0 then ⟨0⟩
  else
    let e := roundingScale num den
    let (p, q) := powTwo e
    let bits := (e + 1074).toNat * 0x10000000000000 + roundDiv (num * q) (den * p)
    if bits < 0x7FF0000000000000 then ⟨UInt64.ofNat bits⟩ else infinity

def ofNat (n : Nat) : Binary64 := ofRatio n 1

def ofInt (i : Int) : Binary64 :=
  if i < 0 then (ofNat i.natAbs).neg else ofNat i.natAbs

def mulMagnitude (x y : Binary64) : Binary64 :=
  let (a, b) := x.ratio
  let (c, d) := y.ratio
  ofRatio (a * c) (b * d)

def divMagnitude (x y : Binary64) : Binary64 :=
  let (a, b) := x.ratio
  let (c, d) := y.ratio
  ofRatio (a * d) (b * c)

def ofDecimal (digits : Nat) (exponent : Int) : Binary64 :=
  if digits = 0 then ⟨0⟩
  else if exponent > 400 then infinity
  else if exponent + digits.log2 < -1500 then ⟨0⟩
  else ofRatio (digits * Nat.pow 10 exponent.toNat) (Nat.pow 10 (-exponent).toNat)

end Binary64

end Gleaner
