import QmlExport.Text.Numeral

/-!
# Labels in ASCII characters

A label with other characters can be written in ASCII characters alone: first its ASCII characters,
then, behind a hyphen, where the other ones go, in the order of their code points. Each is given by
how many places further on it goes, counted through the whole label for each code point on the way.

Numbers are written in digits of base thirty-six, the lowest first. Which digit is the last of a
number depends on a threshold for its place, and the thresholds follow the size of the numbers
before. Every number uses up digits (`length_number_lt`), by which reading ends.
-/

namespace QmlExport.Host.Punycode

open Text

/-- The base of the digits. -/
def base : Nat := 36

/-- The greatest number that counts. -/
def limit : Nat := 0xFFFFFFFF

/-- A number, if it counts. -/
def within? (n : Nat) : Option Nat := if n ≤ limit then some n else none

/-- The value of a digit: letters come before the decimal digits. -/
def digit? (c : Char) : Option Nat :=
  if 'a' ≤ c && c ≤ 'z' then some (c.toNat - 'a'.toNat)
  else if c.isDigit then some (c.toNat - '0'.toNat + 26)
  else none

/-- The threshold of the digits at a place. -/
def threshold (place bias : Nat) : Nat :=
  if place ≤ bias then 1 else if bias + 26 ≤ place then 26 else place - bias

/-- Read a number: `sum` is its value so far and `weight` the weight of the next digit, whose place
is told in steps of the base. -/
def number? (bias : Nat) : (place weight sum : Nat) → List Char → Option (Nat × List Char)
  | _, _, _, [] => none
  | place, weight, sum, c :: cs => do
    let d ← digit? c
    let sum ← within? (sum + (← within? (d * weight)))
    let t := threshold place bias
    if d < t then some (sum, cs)
    else number? bias (place + base) (← within? (weight * (base - t))) sum cs

theorem length_number_lt {bias place weight sum value : Nat} {cs rest : List Char}
    (h : number? bias place weight sum cs = some (value, rest)) : rest.length < cs.length := by
  induction cs generalizing place weight sum with
  | nil => simp [number?] at h
  | cons c cs ih =>
    simp only [number?, Option.bind_eq_bind, Option.bind_eq_some_iff] at h
    obtain ⟨d, -, product, -, sum', -, h⟩ := h
    split at h
    · simp at h; simp [h.2]
    · obtain ⟨weight', -, h⟩ := Option.bind_eq_some_iff.1 h
      have := ih h
      simp; omega

/-- What is left of a number when it is divided until it is small, and how often that is. -/
def shrink (delta divisions : Nat) : Nat × Nat :=
  if 455 < delta then shrink (delta / 35) (divisions + 1) else (delta, divisions)
termination_by delta
decreasing_by exact Nat.div_lt_self (by omega) (by omega)

/-- The bias after a number, with the length of the label so far. -/
def adapt (delta length : Nat) (isFirst : Bool) : Nat :=
  let delta := if isFirst then delta / 700 else delta / 2
  let (delta, divisions) := shrink (delta + delta / length) 0
  base * divisions + base * delta / (delta + 38)

/-- A label on its way: its characters, the code point and the place of the last one that went in,
and the bias. -/
structure Progress where
  label : List Char
  point : Nat
  place : Nat
  bias : Nat

/-- Put in a character. -/
def Progress.insert? (p : Progress) (delta : Nat) : Option Progress := do
  let length := p.label.length + 1
  let point ← within? (p.point + (p.place + delta) / length)
  let place := (p.place + delta) % length
  if point < 0xD800 || (0xDFFF < point && point < 0x110000) then
    some ⟨p.label.take place ++ Char.ofNat point :: p.label.drop place, point, place + 1,
      adapt delta length (p.place == 0)⟩
  else none

/-- Put in the characters that are left to read. -/
def insertAll? (p : Progress) : List Char → Option Progress
  | [] => some p
  | c :: cs =>
    match _h : number? p.bias base 1 p.place (c :: cs) with
    | none => none
    | some (sum, rest) =>
      match p.insert? (sum - p.place) with
      | none => none
      | some p => insertAll? p rest
termination_by cs => cs.length
decreasing_by exact length_number_lt ‹_›

/-- The ASCII characters in front of the last hyphen, and what follows it. A hyphen at the very
beginning is no such hyphen. -/
def cutAtHyphen (cs : List Char) : List Char × List Char :=
  let rest := (cs.reverse.takeWhile (· != '-')).reverse
  let front := cs.take (cs.length - rest.length - 1)
  if front.isEmpty then ([], cs) else (front, rest)

/-- The label that ASCII characters stand for. -/
def decode? (cs : List Char) : Option (List Char) := do
  let (front, rest) := cutAtHyphen cs
  if front.any fun c => 0x80 ≤ c.toNat then none
  else (← insertAll? ⟨front, 0x80, 0, 72⟩ rest).label

end QmlExport.Host.Punycode
