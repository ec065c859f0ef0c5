/-!
# UTF-8

Texts as octets and back. Decoding never fails: an octet that belongs to no well-formed sequence
stands for itself as a gap (`none`), and decoding goes on behind it. A sequence of octets is a text
when its decoding has no gap.
-/

namespace QmlExport.Text

/-- A sequence of octets. -/
abbrev Bytes := List UInt8

namespace Utf8

/-- The octets of a character. -/
def encodeChar (c : Char) : Bytes :=
  let n := c.toNat
  if n < 0x80 then [.ofNat n]
  else if n < 0x800 then [.ofNat (0xC0 + n / 0x40), .ofNat (0x80 + n % 0x40)]
  else if n < 0x10000 then
    [.ofNat (0xE0 + n / 0x1000), .ofNat (0x80 + n / 0x40 % 0x40), .ofNat (0x80 + n % 0x40)]
  else
    [.ofNat (0xF0 + n / 0x40000), .ofNat (0x80 + n / 0x1000 % 0x40),
      .ofNat (0x80 + n / 0x40 % 0x40), .ofNat (0x80 + n % 0x40)]

/-- The octets of a text. -/
def encode (s : String) : Bytes := s.toList.flatMap encodeChar

/-- The six bits that a continuation octet carries. -/
def tailBits (b : UInt8) : Option Nat :=
  if 0x80 ≤ b && b < 0xC0 then some (b.toNat - 0x80) else none

/-- The character with this code point, if it is one and needs more than `least - 1`. -/
def scalar? (least n : Nat) : Option Char :=
  if least ≤ n && (n < 0xD800 || (0xDFFF < n && n < 0x110000)) then some (Char.ofNat n) else none

/-- The well-formed sequence at the start, with the number of octets behind its first. -/
def head? (b : UInt8) (rest : Bytes) : Option (Char × Nat) :=
  if b < 0x80 then some (Char.ofNat b.toNat, 0)
  else if b < 0xC0 then none
  else if b < 0xE0 then
    match rest with
    | b₁ :: _ => do
      let t₁ ← tailBits b₁
      let c ← scalar? 0x80 ((b.toNat - 0xC0) * 0x40 + t₁)
      some (c, 1)
    | _ => none
  else if b < 0xF0 then
    match rest with
    | b₁ :: b₂ :: _ => do
      let t₁ ← tailBits b₁
      let t₂ ← tailBits b₂
      let c ← scalar? 0x800 ((b.toNat - 0xE0) * 0x1000 + t₁ * 0x40 + t₂)
      some (c, 2)
    | _ => none
  else if b < 0xF8 then
    match rest with
    | b₁ :: b₂ :: b₃ :: _ => do
      let t₁ ← tailBits b₁
      let t₂ ← tailBits b₂
      let t₃ ← tailBits b₃
      let c ← scalar? 0x10000 ((b.toNat - 0xF0) * 0x40000 + t₁ * 0x1000 + t₂ * 0x40 + t₃)
      some (c, 3)
    | _ => none
  else none

/-- The characters of a sequence of octets, with a gap for each octet that is part of none. -/
def decode : Bytes → List (Option Char)
  | [] => []
  | b :: rest =>
    match head? b rest with
    | some (c, n) => some c :: decode (rest.drop n)
    | none => none :: decode rest
termination_by bs => bs.length
decreasing_by
  · simp only [List.length_drop, List.length_cons]; omega
  · simp only [List.length_cons]; omega

/-- The characters of a sequence without gaps. -/
def allChars : List (Option Char) → Option (List Char)
  | [] => some []
  | none :: _ => none
  | some c :: cs => (allChars cs).map (c :: ·)

/-- The text that the octets encode, if they are well formed throughout. -/
def text? (bs : Bytes) : Option String := (allChars (decode bs)).map String.ofList

/-- The range of the octets that may follow a leading octet, if it needs more than itself. -/
def secondRange (b : UInt8) : Option (UInt8 × UInt8) :=
  if b < 0xC2 then none
  else if b = 0xE0 then some (0xA0, 0xBF)
  else if b = 0xED then some (0x80, 0x9F)
  else if b = 0xF0 then some (0x90, 0xBF)
  else if b = 0xF4 then some (0x80, 0x8F)
  else if b < 0xF4 then some (0x80, 0xBF)
  else none

/-- How many octets behind a leading octet could still be the start of a well-formed sequence. -/
def begun (b : UInt8) (rest : Bytes) : Nat :=
  match secondRange b, rest with
  | some (low, high), b₁ :: rest =>
    if b₁ < low || high < b₁ then 0
    else
      match rest with
      | b₂ :: _ => if 0xF0 ≤ b && (tailBits b₂).isSome then 2 else 1
      | [] => 1
  | _, _ => 0

/-- The character that stands for what cannot be read. -/
def replacement : Char := '\ufffd'

/-- The characters of any octets; each longest start of a sequence that goes wrong is replaced. -/
def lossyChars : Bytes → List Char
  | [] => []
  | b :: rest =>
    match head? b rest with
    | some (c, n) => c :: lossyChars (rest.drop n)
    | none => replacement :: lossyChars (rest.drop (begun b rest))
termination_by bs => bs.length
decreasing_by
  · simp only [List.length_drop, List.length_cons]; omega
  · simp only [List.length_drop, List.length_cons]; omega

/-- The text of any octets. -/
def lossy (bs : Bytes) : String := String.ofList (lossyChars bs)

end Utf8

end QmlExport.Text
