import QmlExport.Text.Blank

/-!
# Numbers in any base

Reading digits of bases up to thirty-six, and rows of characters by their hexadecimal digits.
-/

namespace QmlExport.Text

/-- The value of a digit: letters of any case go on behind the decimal digits. -/
def digitValue? (c : Char) : Option Nat :=
  if c.isDigit then some (c.toNat - 0x30)
  else if c.isAlpha then some (c.toLower.toNat - 0x61 + 10)
  else none

/-- The value of digits in a base, if all are digits of it; no digits are zero. -/
def valueIn? (base : Nat) (cs : List Char) : Option Nat :=
  cs.foldlM (fun n c => do
    let d ← digitValue? c
    if d < base then some (n * base + d) else none) 0

/-- The items of a row of characters in hexadecimal digits: blanks stand between the items, points
between the characters of one item. -/
def hexPoints (row : String) : List (List Char) :=
  (pieces (· == ' ') row.toList).map fun item =>
    (pieces (· == '.') item).filterMap fun ds => (valueIn? 16 ds).map Char.ofNat

end QmlExport.Text
