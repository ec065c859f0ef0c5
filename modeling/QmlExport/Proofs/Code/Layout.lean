import QmlExport.Code.Indent
import QmlExport.Proofs.Text.Lines

/-!
# What laying out changes

`reindent` moves lines and drops blank ones. **It says what the text says** (`spoken_reindent`), and
each line that says something stands where the delimiters before it put it (`inked_reindent`):

    inked (reindent text)  =  indentFrom 0 (spoken text)

So the depth that is counted is the same with and without blank lines, and whoever knows the
delimiters of the spoken lines knows the whole layout.
-/

namespace QmlExport.Code

open Text

/-- The lines of a text that are not blank, with their indentation. -/
def inked (text : List Char) : List (List Char) :=
  (pieces (· == '\n') text).filter fun l => !l.all isBlank

/-! ## Blank lines -/

theorem filter_go (ls : List (List Char)) :
    (squeeze.go ls).filter (fun l => !l.isEmpty) = ls.filter fun l => !l.isEmpty := by
  fun_induction squeeze.go ls with
  | case1 => rfl
  | case2 l h => simp [h]
  | case3 l h => rfl
  | case4 l m ls h ih =>
    obtain ⟨hl, _⟩ := Bool.and_eq_true_iff.1 h
    rw [ih, List.filter_cons_of_neg (a := l) (by simp [hl])]
  | case5 l m ls _ ih => rw [List.filter_cons, List.filter_cons (x := l), ih]

/-- Only blank lines are dropped. -/
theorem filter_squeeze (ls : List (List Char)) :
    (squeeze ls).filter (fun l => !l.isEmpty) = ls.filter fun l => !l.isEmpty := by
  rw [squeeze, filter_go]
  induction ls with
  | nil => rfl
  | cons l ls ih =>
    by_cases hl : l.isEmpty
    · rw [List.dropWhile_cons_of_pos hl, ih, List.filter_cons_of_neg (by simp [hl])]
    · rw [List.dropWhile_cons_of_neg hl]

theorem mem_of_mem_go {ls : List (List Char)} {l : List Char} (h : l ∈ squeeze.go ls) : l ∈ ls := by
  fun_induction squeeze.go ls with
  | case1 => exact h
  | case2 => exact absurd h List.not_mem_nil
  | case3 => exact h
  | case4 l m ls _ ih => exact List.mem_cons_of_mem _ (ih h)
  | case5 l m ls _ ih =>
    rcases List.mem_cons.1 h with rfl | h
    · exact List.mem_cons_self
    · exact List.mem_cons_of_mem _ (ih h)

theorem mem_of_mem_squeeze {ls : List (List Char)} {l : List Char} (h : l ∈ squeeze ls) :
    l ∈ ls :=
  (List.dropWhile_suffix _).subset (mem_of_mem_go h)

/-! ## Indented lines -/

/-- Every level takes four spaces. -/
theorem indentLine_eq (k : Nat) (l : List Char) :
    indentLine k l = List.replicate (4 * k) ' ' ++ l := by
  have hunits : (List.replicate k indentUnit).flatten = List.replicate (4 * k) ' ' := by
    induction k with
    | zero => rfl
    | succ k ih =>
      rw [List.replicate_succ, List.flatten_cons, ih, Nat.mul_succ, Nat.add_comm,
        ← List.replicate_append_replicate]
      rfl
  rw [indentLine, hunits]

theorem isBlank_of_mem_indent {k : Nat} {c : Char}
    (h : c ∈ (List.replicate k indentUnit).flatten) : isBlank c := by
  obtain ⟨l, hl, hc⟩ := List.mem_flatten.1 h
  rw [List.eq_of_mem_replicate hl] at hc
  have hunit : indentUnit.all isBlank := by decide
  exact List.all_eq_true.1 hunit c hc

theorem trim_indentLine (k : Nat) (l : List Char) : trim (indentLine k l) = trim l :=
  trim_append_of_blank (fun _ => isBlank_of_mem_indent) l

/-- A line that says something still does so when it is moved. -/
theorem not_all_isBlank_indentLine {l : List Char} (ht : Trimmed l) (hne : l ≠ []) (k : Nat) :
    (indentLine k l).all isBlank = false := by
  rw [← Bool.not_eq_true, List.all_eq_true]
  intro hall
  apply hne
  rw [← show trim l = l from ht, ← trim_indentLine k, trim_eq_nil_of_blank hall]

theorem not_mem_indentLine {l : List Char} (h : '\n' ∉ l) (k : Nat) : '\n' ∉ indentLine k l := by
  intro hmem
  rcases List.mem_append.1 hmem with hmem | hmem
  · obtain ⟨u, hu, hc⟩ := List.mem_flatten.1 hmem
    rw [List.eq_of_mem_replicate hu] at hc
    revert hc
    decide
  · exact h hmem

/-- Lines that may be laid out: trimmed, and without line feeds. -/
def Layable (ls : List (List Char)) : Prop := ∀ l ∈ ls, Trimmed l ∧ '\n' ∉ l

/-- What is laid out of a text is layable. -/
theorem layable_squeeze (text : List Char) : Layable (squeeze (trimmedLines text)) := by
  intro l hl
  obtain ⟨p, hp, rfl⟩ := List.mem_map.1 (mem_of_mem_squeeze hl)
  refine ⟨trimmed_trim p, fun hmem => ?_⟩
  simpa using not_isSep_of_mem_pieces hp _ (mem_of_mem_trim hmem)

/-- Blank lines do not count for the depth of the others. -/
theorem filter_indentFrom {ls : List (List Char)} (h : Layable ls) (depth : Nat) :
    (indentFrom depth ls).filter (fun l => !l.all isBlank) =
      indentFrom depth (ls.filter fun l => !l.isEmpty) := by
  induction ls generalizing depth with
  | nil => rfl
  | cons l ls ih =>
    obtain ⟨⟨ht, _⟩, hls⟩ := List.forall_mem_cons.1 h
    rw [indentFrom]
    by_cases hl : l.isEmpty
    · rw [if_pos hl, List.filter_cons_of_neg (by simp), List.filter_cons_of_neg (by simp [hl]),
        ih hls]
    · -- the depth changes with this line, and in the same way on both sides
      have hne : l ≠ [] := by simpa using hl
      rw [if_neg hl, List.filter_cons_of_pos (by simp [not_all_isBlank_indentLine ht hne]),
        List.filter_cons_of_pos (by simp [hl]), indentFrom, if_neg hl, ih hls]

/-- Moving lines changes nothing that is said. -/
theorem map_trim_indentFrom {ls : List (List Char)} (h : Layable ls) (depth : Nat) :
    (indentFrom depth ls).map trim = ls := by
  induction ls generalizing depth with
  | nil => rfl
  | cons l ls ih =>
    obtain ⟨⟨ht, _⟩, hls⟩ := List.forall_mem_cons.1 h
    rw [indentFrom]
    split
    · next hl => rw [List.map_cons, ih hls, List.isEmpty_iff.1 hl]; rfl
    · rw [List.map_cons, ih hls, trim_indentLine, show trim l = l from ht]

theorem not_mem_of_mem_indentFrom {ls : List (List Char)} (h : Layable ls) (depth : Nat) :
    ∀ l ∈ indentFrom depth ls, '\n' ∉ l := by
  induction ls generalizing depth with
  | nil => exact fun l hl => absurd hl List.not_mem_nil
  | cons l ls ih =>
    obtain ⟨⟨_, hn⟩, hls⟩ := List.forall_mem_cons.1 h
    intro m hm
    rw [indentFrom] at hm
    split at hm
    · rcases List.mem_cons.1 hm with rfl | hm
      · exact List.not_mem_nil
      · exact ih hls depth m hm
    · rcases List.mem_cons.1 hm with rfl | hm
      · exact not_mem_indentLine hn _
      · exact ih hls _ m hm

/-! ## Texts -/

/-- The pieces of lines that are ended by line feeds. -/
theorem pieces_unlines {ls : List (List Char)} (h : ∀ l ∈ ls, '\n' ∉ l) :
    pieces (· == '\n') (unlines ls) = ls ++ [[]] := by
  induction ls with
  | nil => rfl
  | cons l ls ih =>
    obtain ⟨hl, hls⟩ := List.forall_mem_cons.1 h
    have hsplit : unlines (l :: ls) = l ++ '\n' :: unlines ls := by
      simp [unlines, List.append_assoc]
    rw [hsplit, pieces_append rfl, pieces_of_not_mem hl, ih hls]
    rfl

section

variable (text : List Char)

theorem pieces_reindentChars : pieces (· == '\n') (reindentChars text) =
    indentFrom 0 (squeeze (trimmedLines text)) ++ [[]] :=
  pieces_unlines (not_mem_of_mem_indentFrom (layable_squeeze text) 0)

/-- **The lines of a text that is laid out stand where the delimiters put them.** -/
theorem inked_reindent : inked (reindentChars text) = indentFrom 0 (spoken text) := by
  rw [inked, pieces_reindentChars, List.filter_append, filter_indentFrom (layable_squeeze text),
    filter_squeeze, List.filter_cons_of_neg (by simp), List.filter_nil, List.append_nil]
  rfl

/-- **A text that is laid out says what it said before.** -/
theorem spoken_reindent : spoken (reindentChars text) = spoken text := by
  rw [spoken, pieces_reindentChars, List.map_append, map_trim_indentFrom (layable_squeeze text),
    List.filter_append, filter_squeeze]
  simp [trim, trimStart, trimEnd, spoken, trimmedLines]

end

end QmlExport.Code
