import QmlExport.Text.Utf8

/-!
# Base64

Octets as text in the standard alphabet, padded. Reading is strict: the text must be exactly what
writing produces, so padding is required, the bits that padding leaves over are zero, and nothing
else may stand in the text.
-/

namespace QmlExport.Text.Base64

/-- The character for six bits. -/
def symbol (n : Nat) : Char :=
  if n < 26 then Char.ofNat (n + 65)
  else if n < 52 then Char.ofNat (n - 26 + 97)
  else if n < 62 then Char.ofNat (n - 52 + 48)
  else if n = 62 then '+'
  else '/'

/-- The six bits of a character. -/
def bits? (c : Char) : Option Nat :=
  if c.isUpper then some (c.toNat - 65)
  else if c.isLower then some (c.toNat - 97 + 26)
  else if c.isDigit then some (c.toNat - 48 + 52)
  else if c = '+' then some 62
  else if c = '/' then some 63
  else none

/-- The text of octets, as characters. -/
def encodeChars : Bytes → List Char
  | [] => []
  | [a] =>
    let n := a.toNat
    [symbol (n / 4), symbol (n % 4 * 16), '=', '=']
  | [a, b] =>
    let n := a.toNat * 256 + b.toNat
    [symbol (n / 1024), symbol (n / 16 % 64), symbol (n % 16 * 4), '=']
  | a :: b :: c :: rest =>
    let n := (a.toNat * 256 + b.toNat) * 256 + c.toNat
    symbol (n / 262144) :: symbol (n / 4096 % 64) :: symbol (n / 64 % 64) :: symbol (n % 64) ::
      encodeChars rest

/-- The text of octets. -/
def encode (bs : Bytes) : String := String.ofList (encodeChars bs)

/-- The octets of a text, as characters. -/
def decodeChars : List Char → Option Bytes
  | [] => some []
  | [w, x, '=', '='] => do
    let w ← bits? w
    let x ← bits? x
    if x % 16 = 0 then some [.ofNat (w * 4 + x / 16)] else none
  | [w, x, y, '='] => do
    let w ← bits? w
    let x ← bits? x
    let y ← bits? y
    if y % 4 = 0 then some [.ofNat (w * 4 + x / 16), .ofNat (x % 16 * 16 + y / 4)] else none
  | w :: x :: y :: z :: rest => do
    let w ← bits? w
    let x ← bits? x
    let y ← bits? y
    let z ← bits? z
    let more ← decodeChars rest
    some <|
      .ofNat (w * 4 + x / 16) :: .ofNat (x % 16 * 16 + y / 4) :: .ofNat (y % 4 * 64 + z) :: more
  | _ => none

/-- The octets that a text stands for. -/
def decode? (s : String) : Option Bytes := decodeChars s.toList

end QmlExport.Text.Base64
