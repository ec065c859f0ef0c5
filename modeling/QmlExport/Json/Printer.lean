import QmlExport.Json.Value

/-!
# Printing JSON

`render` writes a value without any blanks, `renderAt` over several lines with two spaces per
level; empty arrays and objects stay `[]` and `\x7b\x7d` in both. String literals escape quotes,
backslashes and control characters, and write every other character as it is.
-/

namespace QmlExport.Json

/-- A hexadecimal digit in lower case. -/
def hexDigit (n : Nat) : Char := if n < 10 then Char.ofNat (48 + n) else Char.ofNat (87 + n)

/-- How one character is written inside a string literal. -/
def escapeChar (c : Char) : List Char :=
  match c with
  | '"' => ['\\', '"']
  | '\\' => ['\\', '\\']
  | '\n' => ['\\', 'n']
  | '\r' => ['\\', 'r']
  | '\t' => ['\\', 't']
  | '\x08' => ['\\', 'b']
  | '\x0c' => ['\\', 'f']
  | c =>
    if c.toNat < 0x20 then
      ['\\', 'u', '0', '0', hexDigit (c.toNat / 16), hexDigit (c.toNat % 16)]
    else [c]

/-- A string literal. -/
def renderString (s : String) : List Char := '"' :: s.toList.flatMap escapeChar ++ ['"']

/-- A literal that may not be a text; those that are not are written empty. -/
def renderText (t : Option String) : List Char := renderString (t.getD "")

mutual
/-- A value without blanks. -/
def Value.render : Value → List Char
  | .null => ['n', 'u', 'l', 'l']
  | .bool true => ['t', 'r', 'u', 'e']
  | .bool false => ['f', 'a', 'l', 's', 'e']
  | .number n => n.render
  | .string t => renderText t
  | .array [] => ['[', ']']
  | .array (v :: vs) => '[' :: v.render ++ renderItems vs ++ [']']
  | .object [] => ['{', '}']
  | .object ((k, v) :: ms) => '{' :: renderText k ++ ':' :: v.render ++ renderMembers ms ++ ['}']

/-- Further items, each behind a comma. -/
def renderItems : List Value → List Char
  | [] => []
  | v :: vs => ',' :: v.render ++ renderItems vs

/-- Further members, each behind a comma. -/
def renderMembers : List (Option String × Value) → List Char
  | [] => []
  | (k, v) :: ms => ',' :: renderText k ++ ':' :: v.render ++ renderMembers ms
end

/-- A new line at a level. -/
def newLine (level : Nat) : List Char := '\n' :: List.replicate (2 * level) ' '

mutual
/-- A value over several lines, at a level. -/
def Value.renderAt (level : Nat) : Value → List Char
  | .array [] => ['[', ']']
  | .array (v :: vs) =>
    '[' :: newLine (level + 1) ++ v.renderAt (level + 1) ++ renderItemsAt level vs ++
      newLine level ++ [']']
  | .object [] => ['{', '}']
  | .object ((k, v) :: ms) =>
    '{' :: newLine (level + 1) ++ renderText k ++ ':' :: ' ' :: v.renderAt (level + 1) ++
      renderMembersAt level ms ++ newLine level ++ ['}']
  | .null => Value.null.render
  | .bool b => (Value.bool b).render
  | .number n => n.render
  | .string t => renderText t

/-- Further items, each on a line of its own. -/
def renderItemsAt (level : Nat) : List Value → List Char
  | [] => []
  | v :: vs => ',' :: newLine (level + 1) ++ v.renderAt (level + 1) ++ renderItemsAt level vs

/-- Further members, each on a line of its own. -/
def renderMembersAt (level : Nat) : List (Option String × Value) → List Char
  | [] => []
  | (k, v) :: ms =>
    ',' :: newLine (level + 1) ++ renderText k ++ ':' :: ' ' :: v.renderAt (level + 1) ++
      renderMembersAt level ms
end

/-- The text of a value without blanks. -/
def Value.compact (v : Value) : String := String.ofList v.render

/-- The text of a value over several lines. -/
def Value.pretty (v : Value) : String := String.ofList (v.renderAt 0)

end QmlExport.Json
