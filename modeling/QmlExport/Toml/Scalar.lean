/-!
# TOML scalars

Values that are written as one word: truth values, integers, floats, dates and times. `ofWord?`
decides what a word is. Integers are kept within 64 bits; of floats, dates and times only the form
is checked, since nobody reads them.
-/

namespace QmlExport.Toml

/-- What a word says. -/
inductive Scalar
  | boolean (b : Bool)
  | integer (n : Int)
  | float
  | moment
  deriving DecidableEq, Repr

/-! ### Digits -/

/-- Digits with single underscores between them; the underscores are dropped. `seen` tells that the
character before was a digit. -/
def grouped? (isDigit : Char → Bool) (seen : Bool) : List Char → Option (List Char)
  | [] => if seen then some [] else none
  | '_' :: cs => if seen then (grouped? isDigit false cs) else none
  | c :: cs => if isDigit c then (grouped? isDigit true cs).map (c :: ·) else none

/-- The value of a digit in any base up to sixteen. -/
def digitValue (c : Char) : Nat :=
  if c.isDigit then c.toNat - 48 else c.toLower.toNat - 87

/-- The value of digits. -/
def valueIn (base : Nat) (ds : List Char) : Nat :=
  ds.foldl (fun n d => n * base + digitValue d) 0

/-- A hexadecimal digit. -/
def isHexDigit (c : Char) : Bool :=
  c.isDigit || ('a' ≤ c && c ≤ 'f') || ('A' ≤ c && c ≤ 'F')

/-- An octal digit. -/
def isOctalDigit (c : Char) : Bool := '0' ≤ c && c ≤ '7'

/-- A binary digit. -/
def isBinaryDigit (c : Char) : Bool := c == '0' || c == '1'

/-- Whole digits of a decimal number: no zero in front of others. -/
def whole? (cs : List Char) : Option (List Char) :=
  match cs with
  | '0' :: _ :: _ => none
  | cs => grouped? Char.isDigit false cs

/-- The sign in front of a number, and the rest. -/
def signed : List Char → Bool × List Char
  | '+' :: cs => (false, cs)
  | '-' :: cs => (true, cs)
  | cs => (false, cs)

/-! ### Integers -/

/-- An integer that fits into 64 bits. -/
def inRange? (n : Int) : Option Int :=
  if -9223372036854775808 ≤ n ∧ n ≤ 9223372036854775807 then some n else none

/-- An integer, in any base. -/
def integer? (cs : List Char) : Option Int :=
  match cs with
  | '0' :: 'x' :: ds => (grouped? isHexDigit false ds).bind fun ds => inRange? (valueIn 16 ds)
  | '0' :: 'o' :: ds => (grouped? isOctalDigit false ds).bind fun ds => inRange? (valueIn 8 ds)
  | '0' :: 'b' :: ds => (grouped? isBinaryDigit false ds).bind fun ds => inRange? (valueIn 2 ds)
  | cs =>
    let (negative, ds) := signed cs
    (whole? ds).bind fun ds =>
      inRange? (if negative then -(valueIn 10 ds : Int) else valueIn 10 ds)

/-! ### Floats -/

/-- What stands before the first of some characters, and what stands behind it if there is one. -/
def cutAt (isCut : Char → Bool) (cs : List Char) : List Char × Option (List Char) :=
  match cs.dropWhile fun c => !isCut c with
  | [] => (cs, none)
  | _ :: rest => (cs.takeWhile fun c => !isCut c, some rest)

/-- An exponent, which may be absent. -/
def isExponent : Option (List Char) → Bool
  | none => true
  | some cs => (grouped? Char.isDigit false (signed cs).2).isSome

/-- A float. -/
def isFloat (cs : List Char) : Bool :=
  let (_, cs) := signed cs
  if cs == ['i', 'n', 'f'] || cs == ['n', 'a', 'n'] then true
  else
    let (mantissa, exponent) := cutAt (fun c => c == 'e' || c == 'E') cs
    let (ds, fraction) := cutAt (· == '.') mantissa
    (whole? ds).isSome && isExponent exponent && (exponent.isSome || fraction.isSome) &&
      (match fraction with
        | none => true
        | some fs => (grouped? Char.isDigit false fs).isSome)

/-! ### Dates and times -/

/-- A number of two digits, at most so great. -/
def twoDigits (most : Nat) (a b : Char) : Bool :=
  a.isDigit && b.isDigit && valueIn 10 [a, b] ≤ most

/-- The number of days of a month. -/
def daysOf (year month : Nat) : Nat :=
  if month = 2 then
    if year % 4 = 0 ∧ (year % 100 ≠ 0 ∨ year % 400 = 0) then 29 else 28
  else if month = 4 ∨ month = 6 ∨ month = 9 ∨ month = 11 then 30
  else 31

/-- The date at the start, and what follows it. -/
def date? : List Char → Option (List Char)
  | y₁ :: y₂ :: y₃ :: y₄ :: '-' :: m₁ :: m₂ :: '-' :: d₁ :: d₂ :: rest =>
    let month := valueIn 10 [m₁, m₂]
    let day := valueIn 10 [d₁, d₂]
    if [y₁, y₂, y₃, y₄].all Char.isDigit && twoDigits 12 m₁ m₂ && twoDigits 31 d₁ d₂ &&
        1 ≤ month && 1 ≤ day && day ≤ daysOf (valueIn 10 [y₁, y₂, y₃, y₄]) month then some rest
    else none
  | _ => none

/-- The time at the start, and what follows it. -/
def time? : List Char → Option (List Char)
  | h₁ :: h₂ :: ':' :: m₁ :: m₂ :: ':' :: s₁ :: s₂ :: rest =>
    if twoDigits 23 h₁ h₂ && twoDigits 59 m₁ m₂ && twoDigits 60 s₁ s₂ then
      match rest with
      | '.' :: fs =>
        if (fs.takeWhile Char.isDigit).isEmpty then none else some (fs.dropWhile Char.isDigit)
      | rest => some rest
    else none
  | _ => none

/-- The distance from universal time, which may be absent. -/
def isOffset : List Char → Bool
  | [] => true
  | ['Z'] => true
  | ['z'] => true
  | [s, h₁, h₂, ':', m₁, m₂] => (s == '+' || s == '-') && twoDigits 23 h₁ h₂ && twoDigits 59 m₁ m₂
  | _ => false

/-- A date, a time, or both. -/
def isMoment (cs : List Char) : Bool :=
  match date? cs with
  | some [] => true
  | some (c :: rest) =>
    (c == 'T' || c == 't' || c == ' ') &&
      (match time? rest with
        | some offset => isOffset offset
        | none => false)
  | none => time? cs == some []

/-! ### Words -/

/-- What a word says. -/
def Scalar.ofWord? (cs : List Char) : Option Scalar :=
  if cs = ['t', 'r', 'u', 'e'] then some (.boolean true)
  else if cs = ['f', 'a', 'l', 's', 'e'] then some (.boolean false)
  else if isMoment cs then some .moment
  else if isFloat cs then some .float
  else (integer? cs).map .integer

/-- Characters of words. -/
def isWordChar (c : Char) : Bool :=
  c.isAlphanum || c == '+' || c == '-' || c == '_' || c == '.' || c == ':'

/-- The word at the start, and what follows it. A single blank between a date and a digit belongs to
the word. -/
def word (cs : List Char) : List Char × List Char :=
  let w := cs.takeWhile isWordChar
  match date? w, cs.dropWhile isWordChar with
  | some [], ' ' :: d :: rest =>
    if d.isDigit then
      (w ++ ' ' :: (d :: rest).takeWhile isWordChar, (d :: rest).dropWhile isWordChar)
    else (w, ' ' :: d :: rest)
  | _, rest => (w, rest)

end QmlExport.Toml
