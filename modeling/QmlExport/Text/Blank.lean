/-!
# Blanks and lines

The characters that count as blank, trimming them off the ends of a text, and cutting a text
into pieces at a separator. Everything works on `List Char`, so that each function is a plain
recursion; `trim` and `pieces` are the two that the rest of the library uses.

`pieces` is inverse to `List.intercalate`: gluing the pieces back together with the separator
gives the text (`glue_pieces`).
-/

namespace QmlExport.Text

/-- A blank is a character with the `White_Space` property. -/
def isBlank (c : Char) : Bool :=
  let n := c.toNat
  (9 ≤ n && n ≤ 13) || n == 0x20 || n == 0x85 || n == 0xA0 || n == 0x1680 ||
  (0x2000 ≤ n && n ≤ 0x200A) || n == 0x2028 || n == 0x2029 || n == 0x202F || n == 0x205F ||
  n == 0x3000

/-- Drop the blanks at the start. -/
def trimStart (cs : List Char) : List Char := cs.dropWhile isBlank

/-- Drop the blanks at the end. -/
def trimEnd : List Char → List Char
  | [] => []
  | c :: cs =>
    match trimEnd cs with
    | [] => if isBlank c then [] else [c]
    | d :: ds => c :: d :: ds

/-- Drop the blanks at both ends. -/
def trim (cs : List Char) : List Char := trimEnd (trimStart cs)

/-- A text of blanks only. -/
def allBlank (s : String) : Bool := s.toList.all isBlank

/-- The pieces between the separators; there is always one more piece than separators. -/
def pieces (isSep : Char → Bool) : List Char → List (List Char)
  | [] => [[]]
  | c :: cs =>
    if isSep c then [] :: pieces isSep cs
    else
      match pieces isSep cs with
      | [] => [[c]]
      | p :: ps => (c :: p) :: ps

/-- The last piece. -/
def lastPiece (isSep : Char → Bool) (cs : List Char) : List Char :=
  (pieces isSep cs).getLastD []

/-- Glue pieces together with a separator between them. -/
def glue (sep : Char) : List (List Char) → List Char
  | [] => []
  | [p] => p
  | p :: q :: ps => p ++ sep :: glue sep (q :: ps)

/-- Join texts with a separating text between them. -/
def join (sep : String) : List String → String
  | [] => ""
  | [s] => s
  | s :: t :: ss => s ++ sep ++ join sep (t :: ss)

/-- Whether the text ends with the given ending. -/
def endsWith (ending cs : List Char) : Bool := ending.isSuffixOf cs

/-- Whether `part` occurs in the text. -/
def contains (part : List Char) : List Char → Bool
  | [] => part.isEmpty
  | c :: cs => part.isPrefixOf (c :: cs) || contains part cs

theorem pieces_ne_nil (isSep : Char → Bool) (cs : List Char) : pieces isSep cs ≠ [] := by
  cases cs with
  | nil => simp [pieces]
  | cons c cs =>
    rw [pieces]
    split
    · simp
    · split <;> simp

theorem glue_pieces (sep : Char) (cs : List Char) : glue sep (pieces (· == sep) cs) = cs := by
  induction cs with
  | nil => rfl
  | cons c cs ih =>
    rw [pieces]
    split
    · next h =>
      obtain rfl : c = sep := by simpa using h
      cases hp : pieces (· == c) cs with
      | nil => exact absurd hp (pieces_ne_nil _ _)
      | cons p ps => rw [hp] at ih; simp [glue, ih]
    · cases hp : pieces (· == sep) cs with
      | nil => exact absurd hp (pieces_ne_nil _ _)
      | cons p ps =>
        rw [hp] at ih
        cases ps with
        | nil => simp [glue] at ih ⊢; exact ih
        | cons q qs => simp [glue] at ih ⊢; exact ih

end QmlExport.Text
