import QmlExport.Toml.Scalar

/-!
# TOML strings and keys

Strings come in four forms: with or without escapes, on one line or on several. Each reader gets the
text behind the opening quotes and returns the content with what follows the closing ones. A key is
a bare word or a string of one line; dots put keys together.
-/

namespace QmlExport.Toml

/-- The blanks within a line. -/
def isSpace (c : Char) : Bool := c == ' ' || c == '\t'

/-- Drop the blanks at the start. -/
def skipSpaces (cs : List Char) : List Char := cs.dropWhile isSpace

/-- Characters that may stand in comments and strings as they are. -/
def isPlain (c : Char) : Bool := c == '\t' || (0x20 ≤ c.toNat && c.toNat != 0x7F)

/-- The end of a line at the start, and what follows it. -/
def newline? : List Char → Option (List Char)
  | '\n' :: cs => some cs
  | '\r' :: '\n' :: cs => some cs
  | _ => none

/-- Drop the end of a line at the start. -/
def skipNewline (cs : List Char) : List Char := (newline? cs).getD cs

/-- The character of a code point that is one. -/
def charOf? (n : Nat) : Option Char := if n.isValidChar then some (Char.ofNat n) else none

/-- The character that an escape stands for, behind its backslash, and what follows. -/
def escape? : List Char → Option (Char × List Char)
  | 'b' :: cs => some ('\x08', cs)
  | 't' :: cs => some ('\t', cs)
  | 'n' :: cs => some ('\n', cs)
  | 'f' :: cs => some ('\x0c', cs)
  | 'r' :: cs => some ('\r', cs)
  | '"' :: cs => some ('"', cs)
  | '\\' :: cs => some ('\\', cs)
  | 'u' :: cs => unicode 4 cs
  | 'U' :: cs => unicode 8 cs
  | _ => none
where
  /-- A character by so many hexadecimal digits. -/
  unicode (n : Nat) (cs : List Char) : Option (Char × List Char) :=
    let ds := cs.take n
    if ds.length = n && ds.all isHexDigit then
      (charOf? (valueIn 16 ds)).map fun c => (c, cs.drop n)
    else none

/-- Drop blanks and ends of lines. -/
def skipBlankLines : List Char → List Char
  | [] => []
  | c :: cs =>
    if isSpace c || c == '\n' then skipBlankLines cs
    else if c == '\r' && cs.head? == some '\n' then skipBlankLines cs
    else c :: cs

/-- A string of one line with escapes. `fuel` bounds its length. -/
def basic : (fuel : Nat) → List Char → Option (List Char × List Char)
  | 0, _ => none
  | _ + 1, [] => none
  | fuel + 1, c :: cs =>
    if c = '"' then some ([], cs)
    else if c = '\\' then do
      let (d, cs) ← escape? cs
      let (ds, rest) ← basic fuel cs
      some (d :: ds, rest)
    else if isPlain c then (basic fuel cs).map fun (ds, rest) => (c :: ds, rest)
    else none

/-- A string of one line without escapes. -/
def literal : List Char → Option (List Char × List Char)
  | [] => none
  | c :: cs =>
    if c = '\'' then some ([], cs)
    else if isPlain c then (literal cs).map fun (ds, rest) => (c :: ds, rest)
    else none

/-- How many quotes stand at the start. -/
def countQuotes (quote : Char) (cs : List Char) : Nat := (cs.takeWhile (· == quote)).length

/-- The end of a string of several lines: three quotes, with up to two of its own before them. -/
def closing? (quote : Char) (cs : List Char) : Option (List Char × List Char) :=
  let n := countQuotes quote cs
  if 3 ≤ n then
    let own := min (n - 3) 2
    some (List.replicate own quote, cs.drop (own + 3))
  else none

/-- The line end behind a backslash, after which blanks and further line ends are dropped. -/
def continued? (cs : List Char) : Option (List Char) :=
  (newline? (skipSpaces cs)).map skipBlankLines

/-- A string of several lines with escapes. `fuel` bounds its length. -/
def multiBasic : (fuel : Nat) → List Char → Option (List Char × List Char)
  | 0, _ => none
  | _ + 1, [] => none
  | fuel + 1, c :: cs =>
    match closing? '"' (c :: cs) with
    | some (own, rest) => some (own, rest)
    | none =>
      if c = '\\' then
        match continued? cs with
        | some cs => multiBasic fuel cs
        | none => do
          let (d, cs) ← escape? cs
          let (ds, rest) ← multiBasic fuel cs
          some (d :: ds, rest)
      else
        match newline? (c :: cs) with
        | some cs => (multiBasic fuel cs).map fun (ds, rest) => ('\n' :: ds, rest)
        | none =>
          if isPlain c then (multiBasic fuel cs).map fun (ds, rest) => (c :: ds, rest) else none

/-- A string of several lines without escapes. `fuel` bounds its length. -/
def multiLiteral : (fuel : Nat) → List Char → Option (List Char × List Char)
  | 0, _ => none
  | _ + 1, [] => none
  | fuel + 1, c :: cs =>
    match closing? '\'' (c :: cs) with
    | some (own, rest) => some (own, rest)
    | none =>
      match newline? (c :: cs) with
      | some cs => (multiLiteral fuel cs).map fun (ds, rest) => ('\n' :: ds, rest)
      | none =>
        if isPlain c then (multiLiteral fuel cs).map fun (ds, rest) => (c :: ds, rest) else none

/-- A string of one line, in either form. -/
def lineString? (cs : List Char) : Option (List Char × List Char) :=
  match cs with
  | '"' :: cs => basic (cs.length + 1) cs
  | '\'' :: cs => literal cs
  | _ => none

/-- A string in any form. -/
def string? (cs : List Char) : Option (List Char × List Char) :=
  match cs with
  | '"' :: '"' :: '"' :: cs => multiBasic (cs.length + 1) (skipNewline cs)
  | '\'' :: '\'' :: '\'' :: cs => multiLiteral (cs.length + 1) (skipNewline cs)
  | cs => lineString? cs

/-- Characters of bare keys. -/
def isBareChar (c : Char) : Bool := c.isAlphanum || c == '_' || c == '-'

/-- A key without dots, and what follows it. -/
def simpleKey? (cs : List Char) : Option (String × List Char) :=
  match lineString? cs with
  | some (ds, rest) => some (String.ofList ds, rest)
  | none =>
    let ds := cs.takeWhile isBareChar
    if ds.isEmpty then none else some (String.ofList ds, cs.dropWhile isBareChar)

/-- Keys put together by dots, and what follows them and the blanks behind. `fuel` bounds their
number. -/
def keyPath? : (fuel : Nat) → List Char → Option (List String × List Char)
  | 0, _ => none
  | fuel + 1, cs => do
    let (k, cs) ← simpleKey? (skipSpaces cs)
    match skipSpaces cs with
    | '.' :: cs =>
      let (ks, rest) ← keyPath? fuel cs
      some (k :: ks, rest)
    | rest => some ([k], rest)

end QmlExport.Toml
