import QmlExport.Decimal.Numeral

/-!
# Reading numerals

The number that a numeral stands for. As a natural number a numeral counts only if it is written
without sign, fraction and exponent and fits 64 bits. As a double, its leading digits are gathered
into a significand of at most 64 bits, further digits only move the point, and the significand is
then multiplied or divided by a power of ten; a numeral too great for a double has no value. The
two steps round separately, so the result may differ from the nearest double in its last bit.
-/

namespace QmlExport.Decimal

/-- The bound of a significand. -/
def significandBound : Nat := 0x10000000000000000

/-- The value of a digit. -/
def digitValue (c : Char) : Nat := c.toNat - 48

/-- The value of a row of digits. -/
def valueOf (ds : List Char) : Nat := ds.foldl (fun n d => n * 10 + digitValue d) 0

/-- Append digits to a significand while it stays below the bound. Returns the digits left over. -/
def gather (n : Nat) : List Char → Nat × List Char
  | [] => (n, [])
  | d :: ds =>
    let next := n * 10 + digitValue d
    if next < significandBound then gather next ds else (n, d :: ds)

/-- The power of ten as a double. -/
def tenPower (n : Nat) : Float := Float.ofScientific 1 false n

/-- The double `f · 10 ^ exponent`, by powers that a double can hold. -/
def scaleBy (f : Float) (exponent : Int) : Option Float :=
  if exponent.natAbs ≤ 308 then
    if 0 ≤ exponent then
      let r := f * tenPower exponent.natAbs
      if r.isInf then none else some r
    else some (f / tenPower exponent.natAbs)
  else if f == 0 then some f
  else if 0 ≤ exponent then none
  else scaleBy (f / tenPower 308) (exponent + 308)
termination_by exponent.natAbs
decreasing_by omega

/-- The greatest exponent that is still added up; beyond it only its sign matters. -/
def exponentBound : Nat := 2147483647

/-- The magnitude of a numeral as a double. -/
def Numeral.magnitude? (n : Numeral) : Option Float :=
  let (whole, surplus) := gather 0 n.whole
  let (significand, shift) :=
    match n.fraction with
    | none => (whole, (surplus.length : Int))
    | some ds =>
      let (all, unread) := gather whole ds
      (all, (surplus.length : Int) - ((ds.length : Int) - unread.length))
  match n.exponent with
  | none => scaleBy (Float.ofNat significand) shift
  | some e =>
    let size := valueOf e.digits
    if exponentBound < size then
      if significand ≠ 0 && e.sign != .minus then none else some 0
    else
      scaleBy (Float.ofNat significand) (if e.sign == .minus then shift - size else shift + size)

/-- The numeral as a double. -/
def Numeral.float? (n : Numeral) : Option Float :=
  n.magnitude?.map fun f => if n.negative then -f else f

/-- The numeral as a natural number below `2 ^ 64`. -/
def Numeral.nat? (n : Numeral) : Option Nat :=
  if n.negative || n.fraction.isSome || n.exponent.isSome then none
  else
    let v := valueOf n.whole
    if v < significandBound then some v else none

end QmlExport.Decimal
