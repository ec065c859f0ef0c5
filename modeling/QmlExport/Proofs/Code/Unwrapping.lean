import QmlExport.Proofs.Code.Markers
import QmlExport.Proofs.Code.Sheets
import QmlExport.Proofs.Text.Lines

/-!
# Unwrapped code

What becomes of the markers of a text is said in three ways.

* From left to right: up to the first marker everything is kept, of the marker what it holds, and so
  on behind it (`Unwraps`). There is one result, and `unwrapChars` finds it (`unwraps_iff`).
* Line by line: the lines of the result are the lines of the text, each unwrapped by itself
  (`pieces_unwrapChars`). A marker left open in one line takes nothing from the next.
* By what stays as it is: the lines without a marker, and no others (`unwrapChars_eq_self_iff`).

`Unwrapped` puts these together. **All of it holds of every text, and the code of an artboard is
unwrapped line by line as it is written** (`unwrapped_line_by_line`).
-/

namespace QmlExport.Code

open Text

/-! ## From left to right -/

/-- The text starts with a marker that is closed on the same line. -/
def Starts (text : List Char) : Prop := ∃ inner rest, Marks text inner rest ∧ '\n' ∉ inner

/-- Taking off the markers of a text from left to right: everything up to the first one is kept, and
of the marker itself what it holds. -/
inductive Unwraps : List Char → List Char → Prop
  | plain {text : List Char} (h : ∀ n, ¬ Starts (text.drop n)) : Unwraps text text
  | marked {front text inner rest result : List Char}
      (first : ∀ n < front.length, ¬ Starts ((front ++ text).drop n))
      (h : Marks text inner rest) (hline : '\n' ∉ inner) (behind : Unwraps rest result) :
      Unwraps (front ++ text) (front ++ (inner ++ result))

theorem not_starts_nil : ¬ Starts [] := by
  rintro ⟨inner, rest, ⟨h, _⟩, _⟩
  simp [marker] at h

/-- A character in front where no marker starts. -/
theorem Unwraps.cons {c : Char} {text result : List Char} (h : Unwraps text result)
    (hc : ¬ Starts (c :: text)) : Unwraps (c :: text) (c :: result) := by
  cases h with
  | plain h =>
    refine .plain fun n => ?_
    cases n with
    | zero => exact hc
    | succ n => exact h n
  | @marked front text inner rest result first h hline behind =>
    have hfirst : ∀ n < (c :: front).length, ¬ Starts ((c :: front ++ text).drop n) := by
      intro n hn
      cases n with
      | zero => exact hc
      | succ n => exact first n (Nat.lt_of_succ_lt_succ hn)
    exact .marked hfirst h hline behind

theorem unwraps_unwrapChars (text : List Char) : Unwraps text (unwrapChars text) := by
  induction text using unwrap_ind with
  | nil =>
    rw [unwrapChars]
    exact .plain fun n => by rw [List.drop_nil]; exact not_starts_nil
  | marked text inner rest h hline ih =>
    rw [unwrapChars_of_marks h hline]
    have hfirst : ∀ n < ([] : List Char).length, ¬ Starts (([] ++ text).drop n) :=
      fun n hn => absurd hn (Nat.not_lt_zero n)
    exact .marked hfirst h hline ih
  | kept c text h ih =>
    rw [unwrapChars_cons h]
    refine ih.cons ?_
    rintro ⟨inner, rest, hmarks, hline⟩
    exact hline (h inner rest hmarks)

/-- Everything up to the first marker is kept. -/
theorem unwrapChars_append_of_first {front text : List Char}
    (h : ∀ n < front.length, ¬ Starts ((front ++ text).drop n)) :
    unwrapChars (front ++ text) = front ++ unwrapChars text := by
  induction front with
  | nil => rfl
  | cons c front ih =>
    have hc : ∀ inner rest, Marks (c :: (front ++ text)) inner rest → '\n' ∈ inner := by
      intro inner rest hmarks
      apply Classical.byContradiction
      intro hline
      exact h 0 (Nat.succ_pos _) ⟨inner, rest, hmarks, hline⟩
    rw [List.cons_append, unwrapChars_cons hc, ih fun n hn => h (n + 1) (Nat.succ_lt_succ hn)]
    rfl

theorem unwrapChars_of_not_starts {text : List Char} (h : ∀ n, ¬ Starts (text.drop n)) :
    unwrapChars text = text := by
  have hfirst : ∀ n < text.length, ¬ Starts ((text ++ []).drop n) := by
    intro n _
    rw [List.append_nil]
    exact h n
  have hall := unwrapChars_append_of_first hfirst
  rwa [unwrapChars, List.append_nil] at hall

/-- **There is one way to take the markers off.** -/
theorem unwraps_iff {text result : List Char} :
    Unwraps text result ↔ result = unwrapChars text := by
  constructor
  · intro h
    induction h with
    | plain h => exact (unwrapChars_of_not_starts h).symm
    | marked first h hline _ ih =>
      rw [unwrapChars_append_of_first first, unwrapChars_of_marks h hline, ih]
  · rintro rfl
    exact unwraps_unwrapChars text

/-! ## Line by line -/

theorem unwrapChars_glue (ls : List (List Char)) :
    unwrapChars (glue '\n' ls) = glue '\n' (ls.map unwrapChars) := by
  induction ls with
  | nil => rw [glue, unwrapChars, List.map_nil, glue]
  | cons l ls ih =>
    cases ls with
    | nil => rfl
    | cons m ls => rw [glue, unwrapChars_append, ih]; rfl

/-- **The lines of an unwrapped text are the lines of the text, each unwrapped by itself.** -/
theorem pieces_unwrapChars (text : List Char) :
    pieces (· == '\n') (unwrapChars text) = (pieces (· == '\n') text).map unwrapChars := by
  have hlines : ∀ l ∈ (pieces (· == '\n') text).map unwrapChars,
      ∀ c ∈ l, (c == '\n') = false := by
    intro l hl c hc
    obtain ⟨line, hline, rfl⟩ := List.mem_map.1 hl
    exact not_isSep_of_mem_pieces hline c (mem_of_mem_unwrapChars hc)
  have hne : (pieces (· == '\n') text).map unwrapChars ≠ [] := by
    simpa using pieces_ne_nil (· == '\n') text
  calc pieces (· == '\n') (unwrapChars text)
      = pieces (· == '\n') (unwrapChars (glue '\n' (pieces (· == '\n') text))) := by
        rw [glue_pieces]
    _ = pieces (· == '\n') (glue '\n' ((pieces (· == '\n') text).map unwrapChars)) := by
        rw [unwrapChars_glue]
    _ = (pieces (· == '\n') text).map unwrapChars := pieces_glue rfl hne hlines

theorem unwrap_append (above below : String) :
    unwrap (above ++ "\n" ++ below) = unwrap above ++ "\n" ++ unwrap below := by
  apply String.toList_inj.1
  have hsplit : (above ++ "\n" ++ below).toList = above.toList ++ '\n' :: below.toList := by simp
  simp only [unwrap, hsplit, unwrapChars_append, String.toList_append, String.toList_ofList]
  simp

/-- Written lines are unwrapped one by one, even those that hold line feeds. -/
theorem unwrap_codeOf (lines : List String) :
    unwrap (codeOf lines) = codeOf (lines.map unwrap) := by
  induction lines with
  | nil => simp [codeOf, unwrap, unwrapChars]
  | cons l ls ih =>
    rw [codeOf_cons, unwrap_append, ih, List.map_cons, codeOf_cons]

/-! ## What stays as it is -/

/-- A marker opens in the line, and a parenthesis further on closes it. -/
def Wrapped (line : List Char) : Prop :=
  ∃ front behind, line = front ++ marker ++ behind ∧ ')' ∈ behind

theorem wrapped_iff {line : List Char} (hline : '\n' ∉ line) :
    Wrapped line ↔ ∃ n, Starts (line.drop n) := by
  constructor
  · rintro ⟨front, behind, rfl, hclosed⟩
    have hcut := cut_dropWhile hclosed
    refine ⟨front.length, behind.takeWhile (· != ')'), (behind.dropWhile (· != ')')).drop 1,
      ⟨?_, not_mem_takeWhile behind⟩, ?_⟩
    · rw [List.append_assoc front, List.drop_left, List.append_assoc, ← hcut]
    · intro hmem
      have hbehind : '\n' ∈ behind := (List.takeWhile_subset _) hmem
      exact hline (List.mem_append_right _ hbehind)
  · rintro ⟨n, inner, rest, ⟨hdrop, _⟩, _⟩
    refine ⟨line.take n, inner ++ ')' :: rest, ?_, by simp⟩
    rw [List.append_assoc, ← List.append_assoc marker, ← hdrop, List.take_append_drop]

theorem unwrapChars_eq_self_iff_starts (text : List Char) :
    unwrapChars text = text ↔ ∀ n, ¬ Starts (text.drop n) := by
  refine ⟨?_, unwrapChars_of_not_starts⟩
  induction text using unwrap_ind with
  | nil =>
    intro _ n
    rw [List.drop_nil]
    exact not_starts_nil
  | marked text inner rest h hline =>
    -- with its marker the text loses six characters
    intro heq
    have hle := (unwrapChars_sublist rest).length_le
    have hlength := congrArg List.length heq
    rw [unwrapChars_of_marks h hline, h.1] at hlength
    simp only [List.length_append, List.length_cons, marker] at hlength
    omega
  | kept c text h ih =>
    intro heq n
    rw [unwrapChars_cons h, List.cons_inj_right] at heq
    cases n with
    | zero =>
      rintro ⟨inner, rest, hmarks, hline⟩
      exact hline (h inner rest hmarks)
    | succ n => exact ih heq n

/-- **A text stays as it is exactly when it has no line with a marker.** -/
theorem unwrapChars_eq_self_iff (text : List Char) :
    unwrapChars text = text ↔ ∀ line ∈ pieces (· == '\n') text, ¬ Wrapped line := by
  have hlines : unwrapChars text = text ↔
      (pieces (· == '\n') text).map unwrapChars = (pieces (· == '\n') text).map id := by
    rw [← pieces_unwrapChars, List.map_id]
    constructor
    · exact congrArg _
    · intro h
      rw [← glue_pieces '\n' (unwrapChars text), h, glue_pieces]
  rw [hlines, List.map_inj_left]
  refine forall₂_congr fun line hmem => ?_
  have hline : '\n' ∉ line := by
    intro h
    simpa using not_isSep_of_mem_pieces hmem _ h
  rw [id, unwrapChars_eq_self_iff_starts, wrapped_iff hline, not_exists]

/-! ## Unwrapped texts -/

/-- The second text is the first without its markers. -/
structure Unwrapped (text result : String) : Prop where
  /-- Markers are taken off from left to right, and in no other way. -/
  removed : ∀ cs, Unwraps text.toList cs ↔ cs = result.toList
  /-- Characters are dropped, and what is left stays in order. -/
  sublist : result.toList.Sublist text.toList
  /-- No line has any part in what becomes of another one. -/
  lines : pieces (· == '\n') result.toList = (pieces (· == '\n') text.toList).map unwrapChars
  /-- A text without markers is left alone, and no other. -/
  fixed_iff : result = text ↔ ∀ line ∈ pieces (· == '\n') text.toList, ¬ Wrapped line

theorem unwrapped_unwrap (text : String) : Unwrapped text (unwrap text) := by
  have hchars : (unwrap text).toList = unwrapChars text.toList := String.toList_ofList
  refine ⟨?_, ?_, ?_, ?_⟩
  · intro cs
    rw [hchars]
    exact unwraps_iff
  · rw [hchars]
    exact unwrapChars_sublist _
  · rw [hchars, pieces_unwrapChars]
  · rw [← String.toList_inj, hchars]
    exact unwrapChars_eq_self_iff _

/-- **Unwrapping takes the markers off each line by itself and drops nothing else**: texts under one
another are unwrapped one by one, the code of an artboard is unwrapped line by line as it is
written, and the result is the text without its markers. -/
theorem unwrapped_line_by_line :
    (∀ above below, unwrap (above ++ "\n" ++ below) = unwrap above ++ "\n" ++ unwrap below) ∧
    (∀ o depth families artboard,
      let written := body o depth artboard
      let draft := Draft.emit o depth (Draft.start families) artboard
      draft.code = codeOf written ∧ unwrap draft.code = codeOf (written.map unwrap)) ∧
    ∀ text, Unwrapped text (unwrap text) := by
  refine ⟨unwrap_append, ?_, unwrapped_unwrap⟩
  intro o depth families artboard
  have hcode : (Draft.emit o depth (Draft.start families) artboard).code =
      codeOf (body o depth artboard) := by
    rw [Draft.code_emit]
    exact String.empty_append
  exact ⟨hcode, by rw [hcode, unwrap_codeOf]⟩

/-- A text is gone through once: what is left of a marker within a marker may look like one. -/
example : unwrap "ENUM(ENUM(a)) ENUM(b" = "ENUM(a) ENUM(b" := by cbv

end QmlExport.Code
