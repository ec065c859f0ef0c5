import QmlExport.Proofs.Code.Layout
import QmlExport.Proofs.Code.Literals
import QmlExport.Proofs.Code.Sheets

/-!
# The rows of a file

A file that is laid out says nothing but its imports and the lines of its nodes. A *row* is one line
that is said, together with the place it comes from: the address of its node in the artboard and the
part of the node that it belongs to. `sheetRows` lists the rows of a sheet by recursion on the
artboard, and

    spoken (code of the sheet)  =  texts of its rows

(`spoken_sheetCode`). What is known of the rows is so known of the file. The rows of a node before
its children stand together (`headRows_infix`), wherever the node lies.
-/

namespace QmlExport

namespace Design

/-- The node at an address: down from child to child by position. -/
def Node.at? : Node → List Nat → Option Node
  | n, [] => some n
  | n, i :: address =>
    match n.children[i]? with
    | some child => child.at? address
    | none => none

end Design

namespace Code

open Design Text

/-! ## Rows -/

/-- What a row belongs to. Rows of a transform block lie so many levels inside the block. -/
inductive Part
  | heading
  | opening
  | property
  | transform (inner : Nat)
  | closing
  deriving DecidableEq, Repr

/-- How many levels a part of a node at so many levels is moved in. -/
def Part.level (depth : Nat) : Part → Nat
  | .heading => 0
  | .opening => depth
  | .property => depth + 1
  | .transform inner => depth + 1 + inner
  | .closing => depth

/-- A line that is said, the node that it comes from and the part of that node. -/
structure Row where
  address : List Nat
  part : Part
  text : List Char
  deriving DecidableEq, Repr

/-- How many levels a row is moved in. -/
def Row.level (r : Row) : Nat := r.part.level r.address.length

/-- The property lines of a node outside its transform block. -/
def propertyLines (o : Options) (k : Nat) (n : Node) : List String :=
  nameLines o n ++ geometryLines n ++ n.metadata.properties.map statement ++
    displayLines n.metadata ++ capabilityLines k n.metadata

theorem ownLines_eq (o : Options) (k : Nat) (n : Node) :
    ownLines o k n =
      opening (objectType n.metadata) :: (propertyLines o k n ++ transformLines n) := by
  simp [ownLines, propertyLines, List.append_assoc]

/-- A block inside a transform block, with the level of every line. -/
def innerBlock (head : String) (lines : List String) (last : String) : List (Nat × String) :=
  (1, head) :: (lines.map (Prod.mk 2) ++ [(1, last)])

/-- The lines about the point that a node turns around. -/
def originLines (n : Node) : List String :=
  [property "origin.x" (half n.width), property "origin.y" (half n.height)]

/-- The block that turns a node. -/
def rotationOutline (n : Node) (t : Transformation) : List (Nat × String) :=
  match nonzero? t.rotation with
  | none => []
  | some angle =>
    innerBlock (opening "Rotation") (originLines n ++ [property "angle" (Decimal.codeText angle)])
      (if t.flippedHorizontally || t.flippedVertically then closingLine ++ "," else closingLine)

/-- The block that mirrors a node. -/
def scaleOutline (n : Node) (t : Transformation) : List (Nat × String) :=
  if t.flippedHorizontally || t.flippedVertically then
    innerBlock (opening "Scale")
      (originLines n ++ (if t.flippedHorizontally then [property "xScale" "-1"] else []) ++
        (if t.flippedVertically then [property "yScale" "-1"] else [])) closingLine
  else []

/-- The lines of a transform block, each with the number of levels that it lies inside. -/
def transformOutline (n : Node) : List (Nat × String) :=
  match n.metadata.transformation with
  | none => []
  | some t =>
    if (rotationOutline n t).isEmpty && (scaleOutline n t).isEmpty then []
    else (0, "transform: [") :: (rotationOutline n t ++ scaleOutline n t ++ [(0, "]")])

theorem transformOutline_lines (n : Node) :
    (transformOutline n).map Prod.snd = transformLines n := by
  rw [transformOutline, transformLines]
  cases n.metadata.transformation with
  | none => rfl
  | some t =>
    cases hr : nonzero? t.rotation <;> cases hh : t.flippedHorizontally <;>
      cases hv : t.flippedVertically <;>
      simp [rotationOutline, scaleOutline, innerBlock, originLines, hr, hh, hv]

/-- The rows of a line of code, whose markers are taken off. -/
def rowsOfLine (address : List Nat) (part : Part) (line : String) : List Row :=
  (spoken (unwrapChars line.toList)).map (Row.mk address part)

/-- The rows of lines of a transform block, each with its level inside the block. -/
def outlineRows (address : List Nat) (ls : List (Nat × String)) : List Row :=
  ls.flatMap fun l => rowsOfLine address (.transform l.1) l.2

/-- The rows of a node before its children. -/
def headRows (o : Options) (k : Nat) (address : List Nat) (n : Node) : List Row :=
  rowsOfLine address .opening (opening (objectType n.metadata)) ++
    (propertyLines o k n).flatMap (rowsOfLine address .property) ++
    outlineRows address (transformOutline n)

mutual
/-- The rows of a node and everything below it. -/
def rows (o : Options) (k : Nat) (address : List Nat) : Node → List Row
  | ⟨name, x, y, w, h, z, children, m⟩ =>
    headRows o k address ⟨name, x, y, w, h, z, children, m⟩ ++ rowsBelow o k address 0 children ++
      rowsOfLine address .closing closingLine

/-- The rows of the children of a node from the `i`-th on. -/
def rowsBelow (o : Options) (k : Nat) (address : List Nat) (i : Nat) : List Node → List Row
  | [] => []
  | n :: ns => rows o k (address ++ [i]) n ++ rowsBelow o k address (i + 1) ns
end

theorem rows_eq (o : Options) (k : Nat) (address : List Nat) (n : Node) :
    rows o k address n = headRows o k address n ++ rowsBelow o k address 0 n.children ++
      rowsOfLine address .closing closingLine := by
  cases n
  rw [rows]

/-- The rows of the imports of an artboard. -/
def headingRows (artboard : Node) : List Row :=
  (header artboard).flatMap fun l => (spoken l.toList).map (Row.mk [] .heading)

/-- The rows of the file for a sheet. -/
def sheetRows (o : Options) (s : Sheet) : List Row :=
  headingRows s.artboard ++ rows o s.depth [] s.artboard

/-! ## Rows and lines -/

theorem map_text_rowsOfLine (address : List Nat) (part : Part) (line : String) :
    (rowsOfLine address part line).map Row.text = spoken (unwrapChars line.toList) := by
  rw [rowsOfLine, List.map_map]
  exact List.map_id _

/-- The rows of lines say what the lines say. -/
theorem map_text_rowsOfLines (address : List Nat) (part : Part) (lines : List String) :
    (lines.flatMap (rowsOfLine address part)).map Row.text =
      lines.flatMap fun l => spoken (unwrapChars l.toList) := by
  rw [List.map_flatMap]
  simp only [map_text_rowsOfLine]

theorem map_text_headRows (o : Options) (k : Nat) (address : List Nat) (n : Node) :
    (headRows o k address n).map Row.text =
      (ownLines o k n).flatMap fun l => spoken (unwrapChars l.toList) := by
  rw [headRows, ownLines_eq, ← transformOutline_lines, List.map_append, List.map_append,
    map_text_rowsOfLine, map_text_rowsOfLines, outlineRows, List.map_flatMap, List.flatMap_cons,
    List.flatMap_append, List.flatMap_map, List.append_assoc]
  simp only [map_text_rowsOfLine]

mutual
theorem map_text_rows (o : Options) (k : Nat) (n : Node) (address : List Nat) :
    (rows o k address n).map Row.text =
      (body o k n).flatMap fun l => spoken (unwrapChars l.toList) := by
  match n with
  | ⟨name, x, y, w, h, z, children, m⟩ =>
    rw [rows, body, List.map_append, List.map_append, map_text_headRows, map_text_rowsOfLine,
      map_text_rowsBelow o k children, List.flatMap_append, List.flatMap_append,
      List.flatMap_singleton]

theorem map_text_rowsBelow (o : Options) (k : Nat) (ns : List Node) (address : List Nat)
    (i : Nat) :
    (rowsBelow o k address i ns).map Row.text =
      (bodies o k ns).flatMap fun l => spoken (unwrapChars l.toList) := by
  match ns with
  | [] => rfl
  | n :: ns =>
    rw [rowsBelow, bodies, List.map_append, map_text_rows o k n, map_text_rowsBelow o k ns,
      List.flatMap_append]
end

/-! ## Kinds of lines -/

/-- A line that has no markers and is said as it is. -/
theorem spoken_plain {line : String} (hmarker : '(' ∉ line.toList) (hline : '\n' ∉ line.toList)
    (ht : Trimmed line.toList) (hne : line.toList ≠ []) :
    spoken (unwrapChars line.toList) = [line.toList] := by
  rw [unwrapChars_of_not_mem hmarker, spoken_of_trimmed hline ht hne]

/-- The name of a property: no blanks, and no letter that could start a marker. -/
def IsName (name : List Char) : Prop := name ≠ [] ∧ ∀ c ∈ name, c ≠ 'E' ∧ isBlank c = false

instance (name : List Char) : Decidable (IsName name) :=
  @instDecidableAnd _ _ _ (List.decidableBAll _ _)

/-- The text of a row with a quoted value. -/
def quotedText (name value : String) : List Char :=
  name.toList ++ [':', ' '] ++ quoteChars (kept value.toList)

/-- **A quoted value makes one line**, whatever it is. -/
theorem spoken_quoted {name : String} (h : IsName name.toList) (value : String) :
    spoken (unwrapChars (property name (quote value)).toList) = [quotedText name value] := by
  have hmarker : 'E' ∉ name.toList ++ [':', ' '] := by
    intro hmem
    rcases List.mem_append.1 hmem with hmem | hmem
    · exact (h.2 _ hmem).1 rfl
    · exact absurd hmem (by decide)
  have hsplit : (property name (quote value)).toList =
      name.toList ++ [':', ' '] ++ quoteChars value.toList := by
    simp [property, quote]
  have hline : '\n' ∉ quotedText name value := by
    intro hmem
    simp only [quotedText, List.mem_append] at hmem
    rcases hmem with (hmem | hmem) | hmem
    · exact absurd (h.2 _ hmem).2 (by decide)
    · exact absurd hmem (by decide)
    · exact not_mem_quoteChars _ hmem
  have htrimmed : Trimmed (quotedText name value) := by
    obtain ⟨c, cs, hcs⟩ := List.exists_cons_of_ne_nil h.1
    have hc : isBlank c = false := (h.2 c (by rw [hcs]; exact List.mem_cons_self)).2
    have hends : quotedText name value =
        (name.toList ++ [':', ' '] ++ '"' :: escaped (kept value.toList)) ++ ['"'] := by
      simp [quotedText, quoteChars_eq]
    rw [quotedText, hcs] at hends ⊢
    exact trimmed_of_ends hc (by decide) hends
  have hne : quotedText name value ≠ [] := by simp [quotedText]
  -- no marker reaches from the name into the literal, so both are taken care of by themselves
  rw [hsplit, unwrapChars_front hmarker, unwrapChars_quoteChars, ← quotedText,
    spoken_of_trimmed hline htrimmed hne]

theorem rowsOfLine_quoted {name : String} (h : IsName name.toList) (address : List Nat)
    (part : Part) (value : String) :
    rowsOfLine address part (property name (quote value)) =
      [⟨address, part, quotedText name value⟩] := by
  rw [rowsOfLine, spoken_quoted h]
  rfl

/-! ## Files -/

/-- Joined lines are spoken one after the other. -/
theorem spoken_join (ls : List String) :
    spoken (join "\n" ls).toList = ls.flatMap fun l => spoken l.toList := by
  induction ls with
  | nil => rfl
  | cons l ls ih =>
    cases ls with
    | nil => simp [join]
    | cons m ls =>
      have hsplit : (join "\n" (l :: m :: ls)).toList =
          l.toList ++ '\n' :: (join "\n" (m :: ls)).toList := by
        simp [join]
      rw [hsplit, spoken_append, ih, List.flatMap_cons (x := l)]

/-- Code is spoken line by line, also after its markers are taken off. -/
theorem spoken_unwrap_codeOf (ls : List String) :
    spoken (unwrapChars (codeOf ls).toList) =
      ls.flatMap fun l => spoken (unwrapChars l.toList) := by
  induction ls with
  | nil => simp [codeOf, unwrapChars]
  | cons l ls ih =>
    have hsplit : (codeOf (l :: ls)).toList = l.toList ++ '\n' :: (codeOf ls).toList := by
      simp [codeOf_cons]
    rw [hsplit, unwrapChars_append, spoken_append, ih, List.flatMap_cons]

theorem spoken_fileText (imports lines : List String) :
    spoken (fileText imports lines).toList =
      (imports.flatMap fun l => spoken l.toList) ++
        lines.flatMap fun l => spoken (unwrapChars l.toList) := by
  have hsplit : (fileText imports lines).toList =
      (join "\n" imports).toList ++ '\n' :: ([] ++ '\n' :: unwrapChars (codeOf lines).toList) := by
    simp [fileText, unwrap]
  rw [hsplit, spoken_append, spoken_append, spoken_nil, List.nil_append, spoken_join,
    spoken_unwrap_codeOf]

/-- **A file says the texts of its rows, and nothing else.** -/
theorem spoken_sheetCode (o : Options) (s : Sheet) :
    spoken (sheetCode o reindent s).toList = (sheetRows o s).map Row.text := by
  rw [sheetCode, reindent, String.toList_ofList, spoken_reindent, spoken_fileText, sheetRows,
    List.map_append, map_text_rows, headingRows, List.map_flatMap]
  simp only [List.map_map]
  congr 2
  funext l
  exact (List.map_id _).symm

/-! ## The rows of one node -/

/-- The rows of a child are among those of its siblings. -/
theorem rows_infix_rowsBelow {o : Options} {k : Nat} {address : List Nat} {n : Node}
    {ns : List Node} {i j : Nat} (h : ns[j]? = some n) :
    rows o k (address ++ [i + j]) n <:+: rowsBelow o k address i ns := by
  induction ns generalizing i j with
  | nil => cases h
  | cons m ns ih =>
    rw [rowsBelow]
    cases j with
    | zero =>
      obtain rfl : m = n := by simpa using h
      exact List.infix_append [] _ _
    | succ j =>
      have hbelow := ih (i := i + 1) (j := j) (by simpa using h)
      rw [Nat.add_assoc, Nat.add_comm 1 j] at hbelow
      exact hbelow.trans (List.suffix_append _ _).isInfix

/-- **The rows of a node before its children stand together**, wherever the node lies. -/
theorem headRows_infix {o : Options} {k : Nat} {n m : Node} {path : List Nat}
    (h : n.at? path = some m) (address : List Nat) :
    headRows o k (address ++ path) m <:+: rows o k address n := by
  induction path generalizing n address with
  | nil =>
    obtain rfl : n = m := by simpa [Node.at?] using h
    rw [List.append_nil, rows_eq, List.append_assoc]
    exact List.infix_append [] _ _
  | cons i path ih =>
    rw [Node.at?] at h
    split at h
    · next child hchild =>
      have hbelow : rows o k (address ++ [0 + i]) child <:+: rowsBelow o k address 0 n.children :=
        rows_infix_rowsBelow hchild
      rw [Nat.zero_add] at hbelow
      -- seen from the child, the rest of the path leads to the node
      have hhead := ih h (address ++ [i])
      rw [List.append_assoc, List.singleton_append] at hhead
      rw [rows_eq]
      exact (hhead.trans hbelow).trans (List.infix_append _ _ _)
    · cases h

/-- **What a node shows stands in the rows of its sheet**, all of it together. -/
theorem capabilityRows_infix {o : Options} {s : Sheet} {n : Node} {address : List Nat}
    (h : s.artboard.at? address = some n) :
    (capabilityLines s.depth n.metadata).flatMap (rowsOfLine address .property) <:+:
      sheetRows o s := by
  have hhead : (capabilityLines s.depth n.metadata).flatMap (rowsOfLine address .property) <:+:
      headRows o s.depth address n := by
    rw [headRows, propertyLines, List.flatMap_append, ← List.append_assoc, List.append_assoc _ _
      (outlineRows _ _)]
    exact List.infix_append' _ _ _
  have hrows : headRows o s.depth address n <:+: rows o s.depth [] s.artboard :=
    headRows_infix h []
  exact (hhead.trans hrows).trans (List.suffix_append _ _).isInfix

end Code

end QmlExport
