import Gleaner.Number.Binary64
/-!
# Shortest decimals

`Binary64.shortest` gives the decimal with the fewest digits that reads back as the number, the
nearest one if several have that many. `Binary64.render` writes it: positionally while the leading
digit stands for a power of ten from -5 to 15, and with a signed exponent otherwise.
-/
namespace Gleaner

structure Decimal where
  digits : Nat
  exponent : Int
  deriving DecidableEq, Repr

namespace Binary64

/-- The power of ten of the leading digit of a positive quotient. -/
def leadingPower (num den : Nat) : Int :=
  if den ≤ num then ((Nat.toDigits 10 (num / den)).length : Int) - 1
  else
    match (List.range 400).find? (fun t => den ≤ num * Nat.pow 10 (t + 1)) with
    | some t => -((t : Int) + 1)
    | none => -400

/-- Whether `d * 10 ^ k` lies among the reals that round to `x`; the ends of that interval count
when the significand is even. -/
def readsBack (x : Binary64) (d : Nat) (k : Int) : Bool :=
  let m := x.significand
  let (p, q) := powTwo (x.scale - 2)
  let lower := 4 * m - (if x.fractionField = 0 ∧ 1 < x.exponentField then 1 else 2)
  let upper := 4 * m + 2
  let value := d * Nat.pow 10 k.toNat * q
  let unit := Nat.pow 10 (-k).toNat * p
  if m % 2 = 0 then lower * unit ≤ value && value ≤ upper * unit
  else lower * unit < value && value < upper * unit

/-- The candidates on the grid `10 ^ k`: the two neighbours of the value, the nearer one first and
of two equally near the even one. -/
def gridNeighbours (num den : Nat) (k : Int) : List Nat :=
  let a := num * Nat.pow 10 (-k).toNat
  let b := den * Nat.pow 10 k.toNat
  let below := a / b
  if roundDiv a b = below then [below, below + 1] else [below + 1, below]

/-- The decimal of fewest digits that reads back as a finite number other than zero. -/
def shortest (x : Binary64) : Decimal :=
  let (num, den) := x.ratio
  let top := leadingPower num den
  let onGrid (n : Nat) : Option Decimal :=
    let k := top - n
    ((gridNeighbours num den k).find? (x.readsBack · k)).map (⟨·, k⟩)
  ((List.range 17).findSome? onGrid).getD ⟨num / den, 0⟩

def trimZeros : Nat → Decimal → Decimal
  | 0, d => d
  | fuel + 1, d =>
    if d.digits ≠ 0 ∧ d.digits % 10 = 0 then trimZeros fuel ⟨d.digits / 10, d.exponent + 1⟩ else d

def renderExponent (e : Int) : String :=
  (if e < 0 then "-" else "+") ++ toString e.natAbs

def renderDecimal (d : Decimal) : String :=
  let ds := Nat.toDigits 10 d.digits
  let top : Int := d.exponent + ds.length - 1
  if top < -5 ∨ 15 < top then
    let mantissa := match ds with
      | [] => "0"
      | [c] => String.singleton c
      | c :: rest => String.singleton c ++ "." ++ String.ofList rest
    mantissa ++ "e" ++ renderExponent top
  else if top < 0 then
    "0." ++ String.ofList (List.replicate (-top - 1).toNat '0' ++ ds)
  else if 0 ≤ d.exponent then
    String.ofList (ds ++ List.replicate d.exponent.toNat '0') ++ ".0"
  else
    let whole := (top + 1).toNat
    String.ofList (ds.take whole) ++ "." ++ String.ofList (ds.drop whole)

/-- The shortest text that reads back as the number. A whole number keeps one decimal place. -/
def render (x : Binary64) : String :=
  if x.isNaN then "NaN"
  else
    let body :=
      if !x.isFinite then "inf"
      else if x.isZero then "0.0"
      else renderDecimal (trimZeros 400 x.shortest)
    if x.isNegative then "-" ++ body else body

end Binary64

end Gleaner
