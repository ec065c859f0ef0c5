/-!
# The shortest decimal

A finite double stands for every real that rounds to it. `shortest` picks, among the decimals in
that interval, one with the fewest digits, and of those the one nearest to the double.

The double is taken apart into `m · 2 ^ q` (`Binary`), the interval is scaled to natural numbers
over one denominator (`Interval`), and for `n = 1, 2, … 17` digits the two neighbours of the value
on the grid of `n`-digit decimals are tested: the first grid with a hit wins. A grid point lies in
the interval only if one of these two neighbours does.
-/

namespace QmlExport.Decimal

/-- A positive number `m · 2 ^ q`. `narrow` tells that its lower neighbour is half as far away as
its upper one. -/
structure Binary where
  m : Nat
  q : Int
  narrow : Bool
  deriving DecidableEq, Repr

/-- The magnitude of a finite double. -/
def Binary.ofFloat (x : Float) : Binary :=
  let bits : Nat := x.toBits.toNat
  let biased : Nat := bits / 0x10000000000000 % 0x800
  let frac : Nat := bits % 0x10000000000000
  if biased = 0 then ⟨frac, -1074, false⟩
  else ⟨frac + 0x10000000000000, (biased : Int) - 1075, frac == 0 && biased > 1⟩

/-- Whether the sign bit is set. -/
def isNegative (x : Float) : Bool := x.toBits.toNat / 0x8000000000000000 == 1

/-- An interval `[low, high] / den` around `mid / den`; `closed` tells whether its ends belong. -/
structure Interval where
  low : Nat
  mid : Nat
  high : Nat
  den : Nat
  closed : Bool
  deriving DecidableEq, Repr

/-- The reals that round to a number: half way to its neighbours, ends included for even `m`. -/
def Binary.interval (b : Binary) : Interval :=
  let low := if b.narrow then 4 * b.m - 1 else 4 * b.m - 2
  let up := Nat.pow 2 (b.q - 2).toNat
  ⟨low * up, 4 * b.m * up, (4 * b.m + 2) * up, Nat.pow 2 (2 - b.q).toNat, b.m % 2 == 0⟩

/-- The same interval counted in units of `10 ^ place`. -/
def Interval.scale (i : Interval) (place : Int) : Interval :=
  let up := Nat.pow 10 (-place).toNat
  { i with
    low := i.low * up, mid := i.mid * up, high := i.high * up,
    den := i.den * Nat.pow 10 place.toNat }

/-- Whether a whole number of units lies in the interval. -/
def Interval.holds (i : Interval) (c : Nat) : Bool :=
  if i.closed then i.low ≤ c * i.den && c * i.den ≤ i.high
  else i.low < c * i.den && c * i.den < i.high

/-- The number of decimal digits of a positive number. -/
def digitCount (n : Nat) : Nat := (Nat.toDigits 10 n).length

/-- The place of the leading digit: `10 ^ e ≤ mid / den < 10 ^ (e + 1)`. -/
def Interval.leadingPlace (i : Interval) : Int :=
  if i.den ≤ i.mid then (digitCount (i.mid / i.den) : Int) - 1
  else -(digitCount ((i.den - 1) / i.mid) : Int)

/-- The value `digits · 10 ^ place`. -/
structure Scaled where
  digits : Nat
  place : Int
  deriving DecidableEq, Repr

/-- Which neighbour wins when the value lies half way between two. -/
inductive Tie
  | up
  | even
  deriving DecidableEq, Repr

/-- The grid point nearest to the value, of the two beside it that lie in the interval. -/
def Interval.nearest? (i : Interval) (tie : Tie) : Option Nat :=
  let c := i.mid / i.den
  let above := 2 * (i.mid - c * i.den)
  match i.holds c, i.holds (c + 1) with
  | true, true =>
    if above < i.den then some c
    else if i.den < above then some (c + 1)
    else
      match tie with
      | .up => some (c + 1)
      | .even => some (if c % 2 = 0 then c else c + 1)
  | true, false => some c
  | false, true => some (c + 1)
  | false, false => none

/-- Drop zeros at the end of the digits. The fuel bounds the number of digits. -/
def Scaled.normalize : Nat → Scaled → Scaled
  | 0, d => d
  | fuel + 1, d =>
    if d.digits ≠ 0 ∧ d.digits % 10 = 0 then normalize fuel ⟨d.digits / 10, d.place + 1⟩ else d

/-- The shortest decimal in an interval. -/
def Interval.shortest (i : Interval) (tie : Tie) : Scaled :=
  let e := i.leadingPlace
  let grid (n : Nat) : Option Scaled :=
    let place := e - n
    ((i.scale place).nearest? tie).map (⟨·, place⟩)
  match (List.range 17).findSome? grid with
  | some d => d.normalize 20
  | none => ⟨i.mid / i.den, 0⟩

/-- The shortest decimal that stands for the magnitude of a finite double; zero is `0 · 10 ^ 0`. -/
def shortest (x : Float) (tie : Tie) : Scaled :=
  let b := Binary.ofFloat x
  if b.m = 0 then ⟨0, 0⟩ else b.interval.shortest tie

end QmlExport.Decimal
