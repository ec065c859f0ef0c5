import QmlExport.Text.Blank

/-!
# Indentation

`reindent` lays a text out by the depth of its braces and brackets: every line is trimmed and
indented by four spaces for each delimiter still open before it, runs of blank lines shrink to one,
and no blank line is left at the start or the end.

    text ──lines──▶ trimmed lines ──squeeze──▶ lines without surplus blanks ──indent──▶ text

Delimiters inside double-quoted literals do not count, and closers at the start of a line belong to
the depth of the block they close, so that line is indented less.
-/

namespace QmlExport.Code

open QmlExport.Text

/-- What the delimiters of one line do: how many open, how many close, and how many close before
anything else stands on the line. -/
structure Delimiters where
  opens : Nat
  closes : Nat
  leading : Nat
  deriving DecidableEq, Repr

namespace Delimiters

/-- Where a scan of a line is: in plain code, in a literal, or behind a backslash in a literal. -/
inductive Position
  | code
  | literal
  | escape
  deriving DecidableEq, Repr

/-- Count the delimiters of a line. `led` tells that something other than a closer, a blank or a
comma has been seen already. -/
def scan : Position → Bool → List Char → Delimiters
  | _, _, [] => ⟨0, 0, 0⟩
  | .escape, led, _ :: cs => scan .literal led cs
  | .literal, led, c :: cs =>
    if c = '\\' then scan .escape led cs
    else if c = '"' then scan .code led cs
    else scan .literal led cs
  | .code, led, c :: cs =>
    if c = '"' then scan .literal true cs
    else if c = '{' || c = '[' then
      let d := scan .code true cs
      { d with opens := d.opens + 1 }
    else if c = '}' || c = ']' then
      let d := scan .code led cs
      { d with closes := d.closes + 1, leading := d.leading + (if led then 0 else 1) }
    else if isBlank c || c = ',' then scan .code led cs
    else scan .code true cs

/-- The delimiters of a line. -/
def ofLine (line : List Char) : Delimiters := scan .code false line

/-- The depth after a line, never below zero. -/
def after (d : Delimiters) (depth : Nat) : Nat := depth + d.opens - d.closes

end Delimiters

/-- The trimmed lines of a text. -/
def trimmedLines (text : List Char) : List (List Char) :=
  (pieces (· == '\n') text).map trim

/-- Keep one blank line of each run between two non-blank lines and none elsewhere. -/
def squeeze (lines : List (List Char)) : List (List Char) :=
  go (lines.dropWhile List.isEmpty)
where
  /-- `go` never starts at a surplus blank line. -/
  go : List (List Char) → List (List Char)
    | [] => []
    | [l] => if l.isEmpty then [] else [l]
    | l :: m :: ls =>
      if l.isEmpty && m.isEmpty then go (m :: ls)
      else l :: go (m :: ls)

/-- One level of indentation. -/
def indentUnit : List Char := [' ', ' ', ' ', ' ']

/-- A line moved in by so many levels. -/
def indentLine (levels : Nat) (line : List Char) : List Char :=
  (List.replicate levels indentUnit).flatten ++ line

/-- Indent trimmed lines, starting at the given depth; blank lines stay empty. -/
def indentFrom : Nat → List (List Char) → List (List Char)
  | _, [] => []
  | depth, l :: ls =>
    if l.isEmpty then [] :: indentFrom depth ls
    else
      let d := Delimiters.ofLine l
      indentLine (depth - d.leading) l :: indentFrom (d.after depth) ls

/-- End every line with a line feed. -/
def unlines (lines : List (List Char)) : List Char := lines.flatMap (· ++ ['\n'])

/-- Lay out a text, as characters. -/
def reindentChars (text : List Char) : List Char :=
  unlines (indentFrom 0 (squeeze (trimmedLines text)))

/-- Lay out a text by the depth of its braces and brackets. -/
def reindent (text : String) : String := String.ofList (reindentChars text.toList)

end QmlExport.Code
