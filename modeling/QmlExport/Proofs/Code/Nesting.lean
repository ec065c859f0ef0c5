import QmlExport.Proofs.Code.Delimiters
import QmlExport.Proofs.Code.Names
import QmlExport.Proofs.Code.Rows
import QmlExport.Proofs.Decimal.Digits

/-!
# Nesting

The layout of a file is found by counting delimiters, and it knows nothing of nodes. Still **every
row stands where the tree says** (`wellNested_generate`): the lines that open and close a node as
deep as the node lies in its artboard, and its properties one level deeper. Only the parts of a
document that are copied into the code as they are have to be free of delimiters for it; every other
text goes into a literal, and may hold any characters.

Rows *fit* from one depth to another if counting puts each of them at its level. Rows that fit may
be put behind one another, so the proof follows the tree: what a node opens it closes, and all that
stands in between fits one level deeper.
-/

namespace QmlExport.Code

open Design Identifier Text

/-- Where a row stands: four blanks for each level. -/
def Row.line (r : Row) : List Char := List.replicate (4 * r.level) ' ' ++ r.text

/-! ## Rows that fit -/

/-- Counting from a depth puts each of the rows at its level, and leaves `last` open. -/
structure Fits (depth : Nat) (rs : List Row) (last : Nat) : Prop where
  said : ∀ r ∈ rs, r.text ≠ []
  steady : Steady depth (rs.map Row.text) last
  lines : indentFrom depth (rs.map Row.text) = rs.map Row.line

theorem Fits.nil (depth : Nat) : Fits depth [] depth :=
  ⟨by simp, .nil depth, rfl⟩

theorem Fits.append {depth middle last : Nat} {rs qs : List Row} (h : Fits depth rs middle)
    (h' : Fits middle qs last) : Fits depth (rs ++ qs) last where
  said := by
    intro r hr
    rcases List.mem_append.1 hr with hr | hr
    · exact h.said r hr
    · exact h'.said r hr
  steady := by
    rw [List.map_append]
    exact h.steady.append h'.steady
  lines := by
    have hne : ∀ l ∈ rs.map Row.text, l ≠ [] := by
      intro l hl
      obtain ⟨r, hr, rfl⟩ := List.mem_map.1 hl
      exact h.said r hr
    rw [List.map_append, List.map_append, indentFrom_append h.steady hne, h.lines, h'.lines]

/-- One row. -/
theorem Fits.single {r : Row} {depth : Nat} (hne : r.text ≠ [])
    (hleading : (Delimiters.ofLine r.text).leading ≤ depth)
    (hcloses : (Delimiters.ofLine r.text).closes ≤ depth + (Delimiters.ofLine r.text).opens)
    (hlevel : r.level = depth - (Delimiters.ofLine r.text).leading) :
    Fits depth [r] ((Delimiters.ofLine r.text).after depth) where
  said := by simpa using hne
  steady := .cons hleading hcloses (.nil _)
  lines := by
    have hfull : ¬ r.text.isEmpty := by simpa using hne
    simp only [List.map_cons, List.map_nil, indentFrom, if_neg hfull, indentLine_eq, Row.line,
      hlevel]

/-- Rows that close what they open, all at the depth of the rows before. -/
theorem fits_of_even {rs : List Row} {depth : Nat}
    (h : ∀ r ∈ rs, r.text ≠ [] ∧ (Delimiters.ofLine r.text).Even ∧ r.level = depth) :
    Fits depth rs depth := by
  induction rs with
  | nil => exact .nil depth
  | cons r rs ih =>
    obtain ⟨⟨hne, ⟨hopens, hleading⟩, hlevel⟩, hrs⟩ := List.forall_mem_cons.1 h
    have hsingle : Fits depth [r] ((Delimiters.ofLine r.text).after depth) :=
      .single hne (by omega) (by omega) (by omega)
    have hafter : (Delimiters.ofLine r.text).after depth = depth := by
      rw [Delimiters.after]
      omega
    rw [hafter] at hsingle
    exact hsingle.append (ih hrs)

/-! ## Kinds of lines -/

/-- A line of code whose rows close what they open. -/
def Calm (line : String) : Prop :=
  ∀ l ∈ spoken (unwrapChars line.toList), (Delimiters.ofLine l).Even

/-- A line of code that opens a block with its last row. -/
def Opens (line : String) : Prop :=
  ∃ front l, spoken (unwrapChars line.toList) = front ++ [l] ∧
    (∀ m ∈ front, (Delimiters.ofLine m).Even) ∧ Delimiters.ofLine l = ⟨1, 0, 0⟩

/-- A line of code that closes a block. -/
def Closes (line : String) : Prop :=
  ∃ l, spoken (unwrapChars line.toList) = [l] ∧ Delimiters.ofLine l = ⟨0, 1, 1⟩

section

variable {address : List Nat} {part : Part} {depth : Nat}

theorem ne_nil_of_mem_rowsOfLine {line : String} {r : Row} (h : r ∈ rowsOfLine address part line) :
    r.text ≠ [] := by
  obtain ⟨l, hl, rfl⟩ := List.mem_map.1 h
  exact (trimmed_of_mem_spoken hl).2.1

theorem fits_calm {lines : List String} (hlevel : part.level address.length = depth)
    (h : ∀ l ∈ lines, Calm l) : Fits depth (lines.flatMap (rowsOfLine address part)) depth := by
  apply fits_of_even
  intro r hr
  obtain ⟨line, hline, hr⟩ := List.mem_flatMap.1 hr
  refine ⟨ne_nil_of_mem_rowsOfLine hr, ?_⟩
  obtain ⟨l, hl, rfl⟩ := List.mem_map.1 hr
  exact ⟨h line hline l hl, hlevel⟩

theorem fits_opens {line : String} (hlevel : part.level address.length = depth) (h : Opens line) :
    Fits depth (rowsOfLine address part line) (depth + 1) := by
  obtain ⟨front, l, hspoken, heven, hopens⟩ := h
  have hne : ∀ m ∈ front ++ [l], m ≠ [] := by
    intro m hm
    rw [← hspoken] at hm
    exact (trimmed_of_mem_spoken hm).2.1
  rw [rowsOfLine, hspoken, List.map_append]
  have hfront : Fits depth (front.map (Row.mk address part)) depth := by
    apply fits_of_even
    intro r hr
    obtain ⟨m, hm, rfl⟩ := List.mem_map.1 hr
    exact ⟨hne m (List.mem_append_left _ hm), heven m hm, hlevel⟩
  have hlast : Fits depth [⟨address, part, l⟩] ((Delimiters.ofLine l).after depth) :=
    .single (hne l (by simp)) (by simp [hopens]) (by simp [hopens])
      (by simpa [hopens, Row.level] using hlevel)
  rw [hopens] at hlast
  exact hfront.append hlast

theorem fits_closes {line : String} (hlevel : part.level address.length = depth)
    (h : Closes line) : Fits (depth + 1) (rowsOfLine address part line) depth := by
  obtain ⟨l, hspoken, hcloses⟩ := h
  have hne : l ≠ [] := by
    have hmem : l ∈ spoken (unwrapChars line.toList) := by simp [hspoken]
    exact (trimmed_of_mem_spoken hmem).2.1
  have hlast : Fits (depth + 1) [⟨address, part, l⟩] ((Delimiters.ofLine l).after (depth + 1)) :=
    .single hne (by simp [hcloses]) (by simp [hcloses])
      (by simpa [hcloses, Row.level] using hlevel)
  rw [rowsOfLine, hspoken]
  rwa [hcloses] at hlast

end

/-- A quiet line is calm. -/
theorem calm_of_quiet {line : String} (h : Quiet line.toList) : Calm line := by
  intro l hl
  have hquiet : Quiet l := h.subset fun c hc => mem_of_mem_unwrapChars (mem_of_mem_spoken hl c hc)
  rw [Delimiters.ofLine_of_quiet hquiet]
  exact ⟨rfl, rfl⟩

theorem calm_property {name value : String} (hn : Quiet name.toList) (hv : Quiet value.toList) :
    Calm (property name value) := by
  apply calm_of_quiet
  have hsep : Quiet (": ".toList) := by decide
  simpa [property] using (hn.append hsep).append hv

/-- **A line with a quoted value is calm**, whatever the value is. -/
theorem calm_quoted {name : String} (hname : IsName name.toList) (h : Quiet name.toList)
    (value : String) : Calm (property name (quote value)) := by
  intro l hl
  rw [spoken_quoted hname] at hl
  obtain rfl := List.mem_singleton.1 hl
  have hsep : Quiet [':', ' '] := by decide
  rw [quotedText, Delimiters.ofLine_quoted (h.append hsep)]
  exact ⟨rfl, rfl⟩

/-- The rows of a quiet text with an opening brace behind it: the last one ends in the brace. -/
theorem spoken_opening {cs : List Char} (h : Quiet cs) : ∃ front y,
    spoken (cs ++ [' ', '{']) = front ++ [y ++ ['{']] ∧ (∀ m ∈ front, Quiet m) ∧ Quiet y := by
  induction hn : cs.length using Nat.strongRecOn generalizing cs with
  | _ n ih =>
    subst hn
    -- a type may hold line feeds; only what stands behind the last one shares its row with the brace
    by_cases hline : '\n' ∈ cs
    · obtain ⟨as, bs, rfl⟩ := List.append_of_mem hline
      have hbs : Quiet bs := h.subset (by simp +contextual)
      have has : Quiet as := h.subset (by simp +contextual)
      obtain ⟨front, y, hspoken, hfront, hy⟩ := ih bs.length (by simp; omega) hbs rfl
      refine ⟨spoken as ++ front, y, ?_, ?_, hy⟩
      · rw [List.append_assoc, List.cons_append, spoken_append, hspoken, List.append_assoc]
      · intro m hm
        rcases List.mem_append.1 hm with hm | hm
        · exact has.subset (mem_of_mem_spoken hm)
        · exact hfront m hm
    · have hall : '\n' ∉ cs ++ [' ', '{'] := by simp [hline]
      have htrim : trim (cs ++ [' ', '{']) = trimStart (cs ++ [' ']) ++ ['{'] := by
        rw [← trim_append_singleton (by decide), List.append_assoc]
        rfl
      refine ⟨[], trimStart (cs ++ [' ']), ?_, by simp, ?_⟩
      · rw [spoken_of_line hall, htrim, if_neg (by simp)]
        rfl
      · have hblank : Quiet [' '] := by decide
        exact (h.append hblank).subset fun c hc => (List.dropWhile_suffix isBlank).subset hc

/-- The line that opens a block does so, for any quiet type. -/
theorem opens_opening {objectType : String} (h : Quiet objectType.toList) :
    Opens (opening objectType) := by
  have hsplit : (opening objectType).toList = objectType.toList ++ [' ', '{'] := by
    simp [opening]
  have hquiet : Quiet (unwrapChars objectType.toList) := h.subset fun c => mem_of_mem_unwrapChars
  obtain ⟨front, y, hspoken, hfront, hy⟩ := spoken_opening hquiet
  refine ⟨front, y ++ ['{'], ?_, ?_, Delimiters.ofLine_opening hy⟩
  · rw [hsplit, unwrapChars_append_of_not_mem (by decide) (by decide), hspoken]
  · intro m hm
    rw [Delimiters.ofLine_of_quiet (hfront m hm)]
    exact ⟨rfl, rfl⟩

theorem closes_closingLine : Closes closingLine :=
  ⟨_, spoken_plain (by decide) (by decide) (by decide) (by decide), by decide⟩

/-! ## Numbers and names -/

theorem quiet_of_isDigit {cs : List Char} (h : ∀ c ∈ cs, c.isDigit) : Quiet cs :=
  quiet_of_isAlphanum fun c hc => by simp [Char.isAlphanum, h c hc]

theorem quiet_plain (x : Float) : Quiet (Decimal.Numeral.plain x).render := by
  obtain ⟨hwhole, hbehind⟩ := (Decimal.shortest x .up).isDigit_of_mem_positional
  have hsign : Quiet ['-'] := by decide
  have hpoint : Quiet ['.'] := by decide
  rw [Decimal.Numeral.render, Decimal.Numeral.plain]
  simp only [List.append_nil]
  apply Quiet.append
  · apply Quiet.append
    · split
      · exact hsign
      · exact fun c hc => absurd hc List.not_mem_nil
    · exact quiet_of_isDigit hwhole
  · split
    · exact fun c hc => absurd hc List.not_mem_nil
    · next ds hds =>
      split at hds
      · cases hds
      · cases hds
        exact hpoint.append (quiet_of_isDigit hbehind)

/-- Numbers are quiet. -/
theorem quiet_codeText (x : Float) : Quiet (Decimal.codeText x).toList := by
  rw [Decimal.codeText]
  split
  · simp only
    split
    · decide
    · rw [String.toList_ofList]
      exact quiet_plain x
  · rw [Decimal.plainText]
    split
    · decide
    · split
      · split <;> decide
      · rw [String.toList_ofList]
        exact quiet_plain x

theorem quiet_toLower {c : Char} (h : c.isAlpha) : Quiet [c.toLower] := by
  apply quiet_of_isAlphanum
  intro d hd
  rw [List.mem_singleton.1 hd]
  exact isAlphanum_of_isLower (isLower_toLower h)

/-- Identifiers are quiet. -/
theorem quiet_identifier (name : String) : Quiet (lowerFirst (sanitize name)).toList := by
  obtain ⟨c, cs, hname, hc, hall⟩ := isIdentifier_sanitize name
  rw [lowerFirst, hname, String.toList_ofList]
  have hrest : Quiet cs :=
    quiet_of_isAlphanum fun d hd => hall d (List.mem_cons_of_mem _ hd)
  exact (quiet_toLower hc).append hrest

/-! ## The lines of a node -/

/-- What a node holds that is copied into the code as it is: nothing of it has delimiters. -/
structure QuietNode (n : Node) : Prop where
  typeName : ∀ t, n.metadata.typeName = some t → Quiet t.toList
  imports : ∀ s ∈ n.metadata.imports, Quiet s.toList
  properties : ∀ s ∈ n.metadata.properties, Quiet s.toList

theorem quiet_statement {s : String} (h : Quiet s.toList) : Quiet (statement s).toList := by
  rw [statement, String.toList_ofList]
  exact h.subset fun c => mem_of_mem_trim

theorem QuietNode.objectType {n : Node} (h : QuietNode n) :
    Quiet (Code.objectType n.metadata).toList := by
  rw [Code.objectType]
  split
  · next t ht =>
    have htype : n.metadata.typeName = some t := (Option.filter_eq_some_iff.1 ht).1
    rw [String.toList_ofList]
    exact (h.typeName t htype).subset fun c => mem_of_mem_lastPiece
  · split <;> decide

section

variable {o : Options} {k : Nat} {n : Node} {line : String}

theorem calm_nameLines (h : line ∈ nameLines o n) : Calm line := by
  rcases List.mem_append.1 h with h | h
  · obtain ⟨id, _, rfl⟩ := Option.map_eq_some_iff.1 (Option.mem_toList.1 h)
    exact calm_property (by decide) (quiet_identifier id)
  · split at h
    · rw [List.mem_singleton.1 h]
      exact calm_quoted (by decide) (by decide) _
    · exact absurd h List.not_mem_nil

theorem calm_geometryLines (h : line ∈ geometryLines n) : Calm line := by
  obtain ⟨⟨name, v⟩, hmem, hline⟩ := List.mem_filterMap.1 h
  obtain ⟨x, _, rfl⟩ := Option.map_eq_some_iff.1 hline
  have hname : Quiet name.toList := by
    simp only [List.mem_cons, Prod.mk.injEq, List.not_mem_nil, or_false] at hmem
    rcases hmem with ⟨rfl, _⟩ | ⟨rfl, _⟩ | ⟨rfl, _⟩ | ⟨rfl, _⟩ | ⟨rfl, _⟩ <;> decide
  exact calm_property hname (quiet_codeText x)

theorem calm_displayLines {m : Metadata} (h : line ∈ displayLines m) : Calm line := by
  have hbool : ∀ b, Quiet (boolText b).toList := by decide
  simp only [displayLines, List.mem_append, Option.mem_toList, Option.map_eq_some_iff] at h
  rcases h with (⟨b, _, rfl⟩ | ⟨x, _, rfl⟩) | ⟨b, _, rfl⟩
  · exact calm_property (by decide) (hbool b)
  · exact calm_property (by decide) (quiet_codeText x)
  · exact calm_property (by decide) (hbool b)

theorem calm_features (kern : Bool) : Calm (property "font.features"
    ("\x7b \"kern\": " ++ (if kern then "1" else "0") ++ " \x7d")) := by
  intro l hl
  cases kern <;>
    rw [spoken_plain (by decide) (by decide) (by decide) (by decide), List.mem_singleton] at hl <;>
    · subst hl
      exact ⟨by decide, by decide⟩

theorem calm_textLines {t : TextDetails} (h : line ∈ textLines t) : Calm line := by
  have hside : ∀ (s : Side) (axis : Axis), Quiet (s.constant axis).toList := by
    intro s axis
    cases s <;> cases axis <;> decide
  simp only [textLines, List.mem_append, List.mem_cons, List.not_mem_nil, or_false,
    Option.mem_toList, Option.map_eq_some_iff] at h
  rcases h with (((((rfl | rfl | rfl | rfl) | ⟨x, _, rfl⟩) | rfl) | ⟨s, _, rfl⟩) | ⟨s, _, rfl⟩) | h
  · exact calm_quoted (by decide) (by decide) _
  · exact calm_quoted (by decide) (by decide) _
  · exact calm_quoted (by decide) (by decide) _
  · exact calm_quoted (by decide) (by decide) _
  · exact calm_property (by decide) (quiet_codeText x)
  · exact calm_features _
  · exact calm_property (by decide) (hside s _)
  · exact calm_property (by decide) (hside s _)
  · split at h
    · rcases List.mem_cons.1 h with rfl | h
      · exact calm_property (by decide) (quiet_codeText _)
      · rw [List.mem_singleton.1 h]
        exact calm_property (by decide) (by decide)
    · exact absurd h List.not_mem_nil

theorem calm_capabilityLines {m : Metadata} (h : line ∈ capabilityLines k m) : Calm line := by
  rw [capabilityLines] at h
  split at h
  · exact calm_textLines h
  · rw [List.mem_singleton.1 h]
    exact calm_quoted (by decide) (by decide) _
  · exact absurd h List.not_mem_nil

/-- **No property line leaves anything open.** -/
theorem QuietNode.calm_propertyLines (hn : QuietNode n) (h : line ∈ propertyLines o k n) :
    Calm line := by
  simp only [propertyLines, List.mem_append] at h
  rcases h with (((h | h) | h) | h) | h
  · exact calm_nameLines h
  · exact calm_geometryLines h
  · obtain ⟨s, hs, rfl⟩ := List.mem_map.1 h
    exact calm_of_quiet (quiet_statement (hn.properties s hs))
  · exact calm_displayLines h
  · exact calm_capabilityLines h

end

/-! ## Transform blocks -/

section

variable (address : List Nat)

theorem fits_innerBlock {head last : String} {lines : List String} (hhead : Opens head)
    (hlines : ∀ l ∈ lines, Calm l) (hlast : Closes last) :
    Fits (address.length + 2) (outlineRows address (innerBlock head lines last))
      (address.length + 2) := by
  have hopen : Fits (address.length + 2) (rowsOfLine address (.transform 1) head)
      (address.length + 3) := fits_opens rfl hhead
  have hinside : Fits (address.length + 3)
      (lines.flatMap (rowsOfLine address (.transform 2))) (address.length + 3) :=
    fits_calm rfl hlines
  have hclose : Fits (address.length + 3) (rowsOfLine address (.transform 1) last)
      (address.length + 2) := fits_closes rfl hlast
  rw [innerBlock, outlineRows, List.flatMap_cons, List.flatMap_append, List.flatMap_map,
    List.flatMap_singleton]
  exact hopen.append (hinside.append hclose)

theorem calm_originLines {n : Node} {line : String} (h : line ∈ originLines n) : Calm line := by
  simp only [originLines, List.mem_cons, List.not_mem_nil, or_false] at h
  rcases h with rfl | rfl
  · exact calm_property (by decide) (quiet_codeText _)
  · exact calm_property (by decide) (quiet_codeText _)

theorem fits_rotationOutline (n : Node) (t : Transformation) :
    Fits (address.length + 2) (outlineRows address (rotationOutline n t)) (address.length + 2) := by
  rw [rotationOutline]
  split
  · exact .nil _
  · next angle _ =>
    apply fits_innerBlock address (opens_opening (by decide))
    · intro l hl
      rcases List.mem_append.1 hl with hl | hl
      · exact calm_originLines hl
      · rw [List.mem_singleton.1 hl]
        exact calm_property (by decide) (quiet_codeText _)
    · split
      · exact ⟨_, spoken_plain (by decide) (by decide) (by decide) (by decide), by decide⟩
      · exact closes_closingLine

theorem fits_scaleOutline (n : Node) (t : Transformation) :
    Fits (address.length + 2) (outlineRows address (scaleOutline n t)) (address.length + 2) := by
  have hmirror : ∀ name : String, Quiet name.toList → Calm (property name "-1") :=
    fun name h => calm_property h (by decide)
  rw [scaleOutline]
  split
  · apply fits_innerBlock address (opens_opening (by decide)) _ closes_closingLine
    intro l hl
    rcases List.mem_append.1 hl with hl | hl
    · rcases List.mem_append.1 hl with hl | hl
      · exact calm_originLines hl
      · split at hl
        · rw [List.mem_singleton.1 hl]
          exact hmirror _ (by decide)
        · exact absurd hl List.not_mem_nil
    · split at hl
      · rw [List.mem_singleton.1 hl]
        exact hmirror _ (by decide)
      · exact absurd hl List.not_mem_nil
  · exact .nil _

/-- **What a transform block opens it closes.** -/
theorem fits_transformOutline (n : Node) :
    Fits (address.length + 1) (outlineRows address (transformOutline n)) (address.length + 1) := by
  have hbracket : Opens "transform: [" :=
    ⟨[], _, spoken_plain (by decide) (by decide) (by decide) (by decide), by simp, by decide⟩
  have hend : Closes "]" :=
    ⟨_, spoken_plain (by decide) (by decide) (by decide) (by decide), by decide⟩
  have hopen : Fits (address.length + 1) (rowsOfLine address (.transform 0) "transform: [")
      (address.length + 2) := fits_opens rfl hbracket
  have hclose : Fits (address.length + 2) (rowsOfLine address (.transform 0) "]")
      (address.length + 1) := fits_closes rfl hend
  rw [transformOutline]
  split
  · exact .nil _
  · next t _ =>
    split
    · exact .nil _
    · have hinside := (fits_rotationOutline address n t).append (fits_scaleOutline address n t)
      rw [outlineRows, List.flatMap_cons, List.flatMap_append, List.flatMap_append,
        List.flatMap_singleton]
      exact hopen.append (hinside.append hclose)

end

/-! ## Files -/

section

variable {o : Options} {k : Nat}

theorem fits_headRows {n : Node} (h : QuietNode n) (address : List Nat) :
    Fits address.length (headRows o k address n) (address.length + 1) := by
  have hopen : Fits address.length
      (rowsOfLine address .opening (opening (objectType n.metadata))) (address.length + 1) :=
    fits_opens rfl (opens_opening h.objectType)
  have hproperties : Fits (address.length + 1)
      ((propertyLines o k n).flatMap (rowsOfLine address .property)) (address.length + 1) :=
    fits_calm rfl fun _ => h.calm_propertyLines
  exact (hopen.append hproperties).append (fits_transformOutline address n)

mutual
/-- **A node closes what it opens**, and its rows stand where the tree says. -/
theorem fits_rows (n : Node) (h : ∀ m ∈ n.preorder, QuietNode m) (address : List Nat) :
    Fits address.length (rows o k address n) address.length := by
  match n with
  | ⟨name, x, y, w, hh, z, children, m⟩ =>
    rw [Node.preorder] at h
    obtain ⟨hnode, hchildren⟩ := List.forall_mem_cons.1 h
    have hbelow := fits_rowsBelow children hchildren address 0
    have hclose : Fits (address.length + 1) (rowsOfLine address .closing closingLine)
        address.length := fits_closes rfl closes_closingLine
    rw [rows]
    exact ((fits_headRows hnode address).append hbelow).append hclose

theorem fits_rowsBelow (ns : List Node) (h : ∀ m ∈ preorderAll ns, QuietNode m)
    (address : List Nat) (i : Nat) :
    Fits (address.length + 1) (rowsBelow o k address i ns) (address.length + 1) := by
  match ns with
  | [] => exact .nil _
  | n :: ns =>
    rw [preorderAll] at h
    -- a child has a longer address than its parent, and so lies one level deeper
    have hfirst := fits_rows n (fun m hm => h m (List.mem_append_left _ hm)) (address ++ [i])
    have hrest := fits_rowsBelow ns (fun m hm => h m (List.mem_append_right _ hm)) address (i + 1)
    rw [List.length_append, List.length_singleton] at hfirst
    rw [rowsBelow]
    exact hfirst.append hrest
end

/-- The imports stand at the margin. -/
theorem fits_headingRows {artboard : Node} (h : ∀ m ∈ artboard.preorder, QuietNode m) :
    Fits 0 (headingRows artboard) 0 := by
  apply fits_of_even
  intro r hr
  obtain ⟨line, hline, hr⟩ := List.mem_flatMap.1 hr
  obtain ⟨l, hl, rfl⟩ := List.mem_map.1 hr
  have hquiet : Quiet line.toList := by
    rw [header_eq, List.mem_eraseDups] at hline
    rcases List.mem_cons.1 hline with rfl | hline
    · decide
    · obtain ⟨m, hm, hline⟩ := List.mem_flatMap.1 hline
      obtain ⟨s, hs, rfl⟩ := List.mem_map.1 (List.mem_filter.1 hline).1
      exact quiet_statement ((h m hm).imports s hs)
  refine ⟨(trimmed_of_mem_spoken hl).2.1, ?_, rfl⟩
  rw [Delimiters.ofLine_of_quiet (hquiet.subset (mem_of_mem_spoken hl))]
  exact ⟨rfl, rfl⟩

theorem fits_sheetRows {s : Sheet} (h : ∀ m ∈ s.artboard.preorder, QuietNode m) :
    Fits 0 (sheetRows o s) 0 :=
  (fits_headingRows h).append (fits_rows s.artboard h [])

end

theorem mem_preorderAll {ns : List Node} {n m : Node} (hn : n ∈ ns) (hm : m ∈ n.preorder) :
    m ∈ preorderAll ns := by
  induction ns with
  | nil => exact absurd hn List.not_mem_nil
  | cons first ns ih =>
    rw [preorderAll, List.mem_append]
    rcases List.mem_cons.1 hn with rfl | hn
    · exact .inl hm
    · exact .inr (ih hn)

/-- The nodes of a sheet are nodes of the document. -/
theorem mem_nodes_of_mem_sheets {d : Document} {s : Sheet} (h : s ∈ d.sheets) {m : Node}
    (hm : m ∈ s.artboard.preorder) : m ∈ d.nodes := by
  rw [Document.nodes, List.mem_append]
  rcases List.mem_append.1 h with h | h
  · obtain ⟨n, hn, rfl⟩ := List.mem_map.1 h
    exact .inl (mem_preorderAll hn hm)
  · obtain ⟨set, hset, h⟩ := List.mem_flatMap.1 h
    obtain ⟨n, hn, rfl⟩ := List.mem_map.1 h
    exact .inr (List.mem_flatMap.2 ⟨set, hset, mem_preorderAll hn hm⟩)

/-- What is known of the layout of a file. -/
structure WellNested (o : Options) (s : Sheet) (code : String) : Prop where
  /-- Every line that is not blank is a row of the sheet, moved in by four blanks for each level:
  the level of the node for the rows that open and close it, and one more for its properties. -/
  lines : inked code.toList = (sheetRows o s).map Row.line
  /-- Along the lines no more is closed than is open, and nothing is open after the last one. -/
  steady : Steady 0 (spoken code.toList) 0

theorem wellNested_sheetCode {o : Options} {s : Sheet}
    (h : ∀ m ∈ s.artboard.preorder, QuietNode m) : WellNested o s (sheetCode o reindent s) where
  lines := by
    have hspoken := spoken_sheetCode o s
    rw [sheetCode, reindent, String.toList_ofList] at hspoken ⊢
    rw [spoken_reindent] at hspoken
    rw [inked_reindent, hspoken, (fits_sheetRows h).lines]
  steady := by
    rw [spoken_sheetCode]
    exact (fits_sheetRows h).steady

/-- **Whatever texts a document holds, its files are laid out as its tree is**, if the parts that are
copied into the code have no delimiters of their own. -/
theorem wellNested_generate (o : Options) (d : Document) (h : ∀ n ∈ d.nodes, QuietNode n) :
    List.Forall₂ (fun leaf s => WellNested o s leaf.2) (filesOf (generate o d).1) d.sheets := by
  have hquiet : ∀ s ∈ d.sheets, ∀ m ∈ s.artboard.preorder, QuietNode m :=
    fun s hs m hm => h m (mem_nodes_of_mem_sheets hs hm)
  -- the files come in the order of the sheets, so each takes what is known of its sheet
  have hleaves := (leaves_generate o d).flip
  refine (((List.forall₂_and_left _ _).2 ⟨hquiet, hleaves⟩).imp ?_).flip
  rintro s leaf ⟨hs, hleaf⟩
  rw [flip, hleaf.2]
  exact wellNested_sheetCode hs

/-- An artboard of two nodes; the text of the inner one looks like code. -/
def bracedText : Document :=
  let details : TextDetails :=
    ⟨"\x7d\nENUM(\x7b) \"\\", "", "", "", none, none, none, none, none⟩
  let inner : Node := ⟨"", none, none, none, none, none, [], { Metadata.empty with
    typeName := some "Text"
    text := some details
    properties := ["wrapMode: ENUM(Text.WordWrap)"] }⟩
  ⟨[⟨"Page", none, none, none, none, none, [inner], Metadata.empty⟩], [], none⟩

theorem wellNested_bracedText : (∀ n ∈ bracedText.nodes, QuietNode n) ∧
    List.Forall₂ (fun leaf s => WellNested .none s leaf.2)
      (filesOf (generate .none bracedText).1) bracedText.sheets := by
  have hquiet : ∀ n ∈ bracedText.nodes, QuietNode n := by
    intro n hn
    rcases List.mem_pair.1 hn with rfl | rfl
    · exact ⟨by simp [Metadata.empty], by simp [Metadata.empty], by simp [Metadata.empty]⟩
    · exact ⟨by simp; decide, by simp [Metadata.empty], by simp; decide⟩
  exact ⟨hquiet, wellNested_generate _ _ hquiet⟩

end QmlExport.Code
