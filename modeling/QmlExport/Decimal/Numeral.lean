import QmlExport.Decimal.Shortest

/-!
# Numerals

A numeral is the written form of a number: an optional minus sign, whole digits, and perhaps a
fraction and an exponent. `Numeral.render` writes it down. Two layouts turn a double into a
numeral: `plain` never has an exponent and drops a zero fraction, `scientific` always shows a point
or an exponent and keeps within 16 whole digits.
-/

namespace QmlExport.Decimal

/-- The sign written in front of an exponent. -/
inductive ExponentSign
  | unsigned
  | plus
  | minus
  deriving DecidableEq, Repr

/-- The exponent of a numeral. -/
structure Exponent where
  sign : ExponentSign
  digits : List Char
  deriving DecidableEq, Repr

/-- The written form of a number. -/
structure Numeral where
  negative : Bool
  whole : List Char
  fraction : Option (List Char)
  exponent : Option Exponent
  deriving DecidableEq, Repr

/-- The decimal digits of a natural number. -/
def digitsOf (n : Nat) : List Char := Nat.toDigits 10 n

/-- The text of an exponent. -/
def Exponent.render (e : Exponent) : List Char :=
  match e.sign with
  | .unsigned => 'e' :: e.digits
  | .plus => 'e' :: '+' :: e.digits
  | .minus => 'e' :: '-' :: e.digits

/-- The text of a numeral. -/
def Numeral.render (n : Numeral) : List Char :=
  (if n.negative then ['-'] else []) ++ n.whole ++
    (match n.fraction with
      | none => []
      | some ds => '.' :: ds) ++
    (match n.exponent with
      | none => []
      | some e => e.render)

/-- The numeral of a natural number. -/
def Numeral.ofNat (n : Nat) : Numeral := ⟨false, digitsOf n, none, none⟩

/-- The numeral of an integer. -/
def Numeral.ofInt (n : Int) : Numeral := ⟨decide (n < 0), digitsOf n.natAbs, none, none⟩

/-- A decimal written without exponent: the whole digits and the digits behind the point. -/
def Scaled.positional (d : Scaled) : List Char × List Char :=
  let ds := digitsOf d.digits
  if 0 ≤ d.place then (ds ++ List.replicate d.place.toNat '0', [])
  else
    let behind := d.place.natAbs
    if ds.length ≤ behind then (['0'], List.replicate (behind - ds.length) '0' ++ ds)
    else (ds.take (ds.length - behind), ds.drop (ds.length - behind))

/-- The layout without exponents, for finite doubles. Of two equally near shortest decimals the
greater is written. -/
def Numeral.plain (x : Float) : Numeral :=
  let (whole, behind) := (shortest x .up).positional
  ⟨isNegative x, whole, if behind.isEmpty then none else some behind, none⟩

/-- The layout of numbers in records, for finite doubles: positional while the point stands within
16 digits behind the first or five zeros before it, else one digit before the point and a signed
exponent when positive. Whole values end in `.0`. -/
def Numeral.scientific (x : Float) : Numeral :=
  let d := shortest x .even
  let ds := digitsOf d.digits
  let point := (ds.length : Int) + d.place
  if d.digits = 0 || (-5 < point && point ≤ 16) then
    let (whole, behind) := d.positional
    ⟨isNegative x, whole, some (if behind.isEmpty then ['0'] else behind), none⟩
  else
    let behind := ds.drop 1
    let e := point - 1
    ⟨isNegative x, ds.take 1, if behind.isEmpty then none else some behind,
      some ⟨if e < 0 then .minus else .plus, digitsOf e.natAbs⟩⟩

/-- The text of any double in the plain layout. -/
def plainText (x : Float) : String :=
  if x.isNaN then "NaN"
  else if x.isInf then if isNegative x then "-inf" else "inf"
  else String.ofList (Numeral.plain x).render

/-- The text of a number in generated code: whole numbers below `10 ^ 15` as integers, without a
sign on zero, everything else in the plain layout. -/
def codeText (x : Float) : String :=
  if x.isFinite && x.floor == x && x.abs < 1e15 then
    let d := shortest x .up
    if d.digits = 0 then "0" else String.ofList (Numeral.plain x).render
  else plainText x

end QmlExport.Decimal
