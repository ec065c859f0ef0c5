import QmlExport.Decimal.Numeral
import QmlExport.Text.Blank

/-!
# Durations

A duration is written as numbers with units, `1h 30min`, `1.5s` or `2days`, and is the sum of its
parts. Blanks may stand anywhere but within a unit. Everything is counted in seconds and
nanoseconds within 64 bits; parts that do not fit are refused.
-/

namespace QmlExport.Settings

/-- A span of time. -/
structure Duration where
  seconds : Nat
  nanos : Nat
  deriving DecidableEq, Repr

namespace Duration

/-- Units of time. -/
inductive Unit
  /-- So many nanoseconds. -/
  | small (nanos : Nat)
  /-- So many seconds. -/
  | large (seconds : Nat)
  deriving DecidableEq, Repr

/-- A minute in nanoseconds. -/
def minuteInNanos : Nat := 60000000000

/-- The names of units. -/
def unitNames : List (List String × Unit) :=
  [(["nanos", "nsec", "ns"], .small 1), (["usec", "us", "µs"], .small 1000),
    (["millis", "msec", "ms"], .small 1000000),
    (["seconds", "second", "secs", "sec", "s"], .large 1),
    (["minutes", "minute", "min", "mins", "m"], .large 60),
    (["hours", "hour", "hrs", "hr", "h"], .large 3600),
    (["days", "day", "d"], .large 86400),
    (["weeks", "week", "wk", "wks", "w"], .large 604800),
    (["months", "month", "M"], .large 2630016),
    (["years", "year", "yr", "yrs", "y"], .large 31557600)]

/-- The unit with a name. -/
def unit? (name : List Char) : Option Unit :=
  let name := String.ofList name
  (unitNames.find? fun u => u.1.contains name).map (·.2)

/-- The numbers of 64 bits are below this. -/
def bound : Nat := 18446744073709551616

/-- A number that fits into 64 bits. -/
def fit? (n : Nat) : Option Nat := if n < bound then some n else none

/-- The digits behind the point, as a fraction. -/
structure Fraction where
  numerator : Nat
  denominator : Nat
  deriving DecidableEq, Repr

/-- Add seconds and nanoseconds. -/
def add? (d : Duration) (seconds nanos : Nat) : Option Duration := do
  let nanos ← fit? (d.nanos + nanos)
  let seconds ← fit? (d.seconds + seconds + nanos / 1000000000)
  some ⟨seconds, nanos % 1000000000⟩

/-- A fraction of `n`, which has to be a whole number. -/
def Fraction.of? (f : Fraction) (n : Nat) : Option Nat := do
  let m ← fit? (f.numerator * n)
  if m % f.denominator = 0 then some (m / f.denominator) else none

/-- Add a fraction of a unit. Fractions of units up to the minute are whole nanoseconds, those of
longer units whole seconds. -/
def addFraction? (d : Duration) (f : Fraction) : Unit → Option Duration
  | .small 1 => none
  | .small n => do d.add? 0 (← f.of? n)
  | .large n => do
    if n ≤ 60 then d.add? 0 (← f.of? (n * 1000000000)) else d.add? (← f.of? n) 0

/-- Add a number of units with a fraction of one more. -/
def addPart? (d : Duration) (n : Nat) (f : Option Fraction) (u : Unit) : Option Duration := do
  let d ←
    match u with
    | .small k => do d.add? 0 (← fit? (n * k))
    | .large k => do d.add? (← fit? (n * k)) 0
  match f with
  | none => some d
  | some f => d.addFraction? f u

/-- Letters of units. -/
def isUnitChar (c : Char) : Bool := c.isAlpha || c == 'µ'

/-- The digits of a number, with blanks between them, and what follows. -/
def digits (cs : List Char) : List Char × List Char :=
  let isPart (c : Char) := c.isDigit || Text.isBlank c
  ((cs.takeWhile isPart).filter Char.isDigit, cs.dropWhile isPart)

/-- The value of decimal digits. -/
def value (ds : List Char) : Nat := ds.foldl (fun n d => n * 10 + (d.toNat - 48)) 0

/-- The fraction behind a number, if there is one, and what follows. -/
def fraction? (cs : List Char) : Option (Option Fraction × List Char) :=
  match cs with
  | '.' :: cs => do
    let (ds, rest) := digits cs
    let denominator ← fit? (Nat.pow 10 ds.length)
    if ds.isEmpty then none else some (some ⟨value ds, denominator⟩, rest)
  | cs => some (none, cs)

/-- Add all parts. `fuel` bounds their number. -/
def parts? : (fuel : Nat) → Duration → List Char → Option Duration
  | 0, _, _ => none
  | fuel + 1, d, cs => do
    let cs := Text.trimStart cs
    if (cs.head?.map Char.isDigit).getD false then
      let (ds, cs) := digits cs
      let n ← fit? (value ds)
      let (f, cs) ← fraction? cs
      let u ← unit? (cs.takeWhile isUnitChar)
      let d ← d.addPart? n f u
      match cs.dropWhile isUnitChar with
      | [] => some d
      | c :: cs =>
        if Text.isBlank c then
          if cs.all Text.isBlank then some d else parts? fuel d cs
        else parts? fuel d (c :: cs)
    else none

/-- Read a duration. -/
def parse? (s : String) : Option Duration :=
  let cs := s.toList
  if cs = ['0'] then some ⟨0, 0⟩ else parts? (cs.length + 1) ⟨0, 0⟩ cs

/-- A number with a unit, unless it is zero. -/
def item (n : Nat) (unit : String) : List String :=
  if n = 0 then [] else [String.ofList (Decimal.digitsOf n) ++ unit]

/-- A number with a unit that has a plural, unless it is zero. -/
def pluralItem (n : Nat) (unit : String) : List String :=
  item n (if n = 1 then unit else unit ++ "s")

/-- The text of a duration. -/
def text (d : Duration) : String :=
  let ofYear := d.seconds % 31557600
  let ofMonth := ofYear % 2630016
  let ofDay := ofMonth % 86400
  let items := pluralItem (d.seconds / 31557600) "year" ++ pluralItem (ofYear / 2630016) "month" ++
    pluralItem (ofMonth / 86400) "day" ++ item (ofDay / 3600) "h" ++
    item (ofDay % 3600 / 60) "m" ++ item (ofDay % 60) "s" ++ item (d.nanos / 1000000) "ms" ++
    item (d.nanos / 1000 % 1000) "us" ++ item (d.nanos % 1000) "ns"
  if items.isEmpty then "0s" else Text.join " " items

/-- Whether no time passes. -/
def isZero (d : Duration) : Bool := d.seconds == 0 && d.nanos == 0

end Duration

end QmlExport.Settings
