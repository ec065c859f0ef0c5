import Mathlib.Data.List.Infix
import QmlExport.Code.Marker

/-!
# Markers

Markers are taken off the code of a whole artboard at once. **That is the same as taking them off
line by line** (`unwrapChars_append`), for a marker that is open at the end of a line is none.

A text that a designer wrote may hold markers, too, and there a line feed is a character like any
other. `unmark` takes markers off such a text, and **leaves it alone exactly when there is no marker
in it** (`unmark_eq_self_iff`).
-/

namespace QmlExport.Code

/-- How a marker starts. -/
def marker : List Char := ['E', 'N', 'U', 'M', '(']

/-- The text starts with a marker around `inner`, and `rest` stands behind it. -/
def Marks (text inner rest : List Char) : Prop :=
  text = marker ++ inner ++ ')' :: rest ∧ ')' ∉ inner

/-- Two cuts at the first of its kind are the same cut. -/
theorem cut_unique {c : Char} {as bs cs ds : List Char} (ha : c ∉ as) (hb : c ∉ bs)
    (h : as ++ c :: cs = bs ++ c :: ds) : as = bs ∧ cs = ds := by
  induction as generalizing bs with
  | nil =>
    cases bs with
    | nil => exact ⟨rfl, (List.cons.inj h).2⟩
    | cons b bs => exact absurd (List.mem_cons.2 (.inl (List.cons.inj h).1)) hb
  | cons a as ih =>
    cases bs with
    | nil => exact absurd (List.mem_cons.2 (.inl (List.cons.inj h).1.symm)) ha
    | cons b bs =>
      obtain ⟨rfl, hrest⟩ := List.cons.inj h
      obtain ⟨rfl, rfl⟩ := ih (fun hmem => ha (List.mem_cons_of_mem _ hmem))
        (fun hmem => hb (List.mem_cons_of_mem _ hmem)) hrest
      exact ⟨rfl, rfl⟩

/-! ## One character after the other -/

theorem closing_eq_some_iff {cs inner rest : List Char} :
    closing cs = some (inner, rest) ↔ cs = inner ++ ')' :: rest ∧ ')' ∉ inner ∧ '\n' ∉ inner := by
  induction cs generalizing inner with
  | nil => simp [closing]
  | cons c cs ih =>
    rw [closing]
    by_cases hc : c = ')'
    · cases inner <;> grind
    · by_cases hn : c = '\n'
      · cases inner <;> grind
      · cases inner with
        | nil => simp [hc, hn]
        | cons d inner =>
          simp only [hc, hn, if_false, Option.map_eq_some_iff, Prod.mk.injEq, List.cons.injEq,
            List.mem_cons, List.cons_append, not_or, Prod.exists]
          constructor
          · rintro ⟨i, r, hclose, ⟨rfl, rfl⟩, rfl⟩
            obtain ⟨rfl, hi, hl⟩ := ih.1 hclose
            exact ⟨⟨rfl, rfl⟩, ⟨Ne.symm hc, hi⟩, ⟨Ne.symm hn, hl⟩⟩
          · rintro ⟨⟨rfl, rfl⟩, ⟨_, hi⟩, ⟨_, hl⟩⟩
            exact ⟨inner, rest, ih.2 ⟨rfl, hi, hl⟩, ⟨rfl, rfl⟩, rfl⟩

/-- A marker on one line gives way to what it holds. -/
theorem unwrapChars_of_marks {cs inner rest : List Char} (h : Marks cs inner rest)
    (hline : '\n' ∉ inner) : unwrapChars cs = inner ++ unwrapChars rest := by
  obtain ⟨rfl, hinner⟩ := h
  have hclose : closing (inner ++ ')' :: rest) = some (inner, rest) :=
    closing_eq_some_iff.2 ⟨rfl, hinner, hline⟩
  rw [List.append_assoc]
  show unwrapChars ('E' :: 'N' :: 'U' :: 'M' :: '(' :: (inner ++ ')' :: rest)) = _
  rw [unwrapChars]
  split
  · next hc => rw [hclose] at hc; cases hc; rfl
  · next hc => rw [hclose] at hc; cases hc

/-- A character where no such marker starts is kept. -/
theorem unwrapChars_cons {c : Char} {cs : List Char}
    (h : ∀ inner rest, Marks (c :: cs) inner rest → '\n' ∈ inner) :
    unwrapChars (c :: cs) = c :: unwrapChars cs := by
  rw [unwrapChars.eq_def]
  split
  · next tail heq =>
    cases heq
    split
    · next inner rest hc =>
      obtain ⟨rfl, hinner, hline⟩ := closing_eq_some_iff.1 hc
      exact absurd (h inner rest ⟨rfl, hinner⟩) hline
    · rfl
  · next heq => cases heq; rfl
  · next heq => cases heq

/-- Induction along a text, from one marker to the next. -/
theorem unwrap_ind {motive : List Char → Prop} (nil : motive [])
    (marked : ∀ cs inner rest, Marks cs inner rest → '\n' ∉ inner → motive rest → motive cs)
    (kept : ∀ c cs, (∀ inner rest, Marks (c :: cs) inner rest → '\n' ∈ inner) → motive cs →
      motive (c :: cs)) :
    ∀ cs, motive cs := by
  intro cs
  induction hn : cs.length using Nat.strongRecOn generalizing cs with
  | _ n ih =>
    subst hn
    by_cases h : ∃ inner rest, Marks cs inner rest ∧ '\n' ∉ inner
    · obtain ⟨inner, rest, hm, hline⟩ := h
      have hlt : rest.length < cs.length := by rw [hm.1]; simp; omega
      exact marked cs inner rest hm hline (ih _ hlt _ rfl)
    · cases cs with
      | nil => exact nil
      | cons c cs =>
        refine kept c cs (fun inner rest hm => ?_) (ih _ (Nat.lt_succ_self _) _ rfl)
        exact Classical.byContradiction fun hline => h ⟨inner, rest, hm, hline⟩

/-- Taking markers off only drops characters. -/
theorem unwrapChars_sublist (cs : List Char) : (unwrapChars cs).Sublist cs := by
  induction cs using unwrap_ind with
  | nil => simp [unwrapChars]
  | marked cs inner rest h hline ih =>
    rw [unwrapChars_of_marks h hline, h.1, List.append_assoc]
    refine List.Sublist.trans ?_ (List.sublist_append_right _ _)
    exact List.Sublist.append (List.Sublist.refl _) (ih.cons _)
  | kept c cs h ih =>
    rw [unwrapChars_cons h]
    exact ih.cons_cons _

theorem mem_of_mem_unwrapChars {cs : List Char} {c : Char} (h : c ∈ unwrapChars cs) : c ∈ cs :=
  (unwrapChars_sublist cs).subset h

/-- Without an opening parenthesis there is no marker. -/
theorem unwrapChars_of_not_mem {cs : List Char} (h : '(' ∉ cs) : unwrapChars cs = cs := by
  induction cs using unwrap_ind with
  | nil => simp [unwrapChars]
  | marked cs inner rest hm => exact absurd (by simp [hm.1, marker]) h
  | kept c cs hm ih => rw [unwrapChars_cons hm, ih fun hmem => h (List.mem_cons_of_mem _ hmem)]

/-! ## Lines -/

/-- What does not contain a character does not reach over it. -/
theorem starts_of_not_mem {m as bs : List Char} {c : Char} (hc : c ∉ m)
    (h : m <+: as ++ c :: bs) : m <+: as := by
  rcases List.prefix_or_prefix_of_prefix h (List.prefix_append as (c :: bs)) with hm | ⟨rest, rfl⟩
  · exact hm
  · cases rest with
    | nil => simp
    | cons d rest =>
      -- it would have to reach over the character, and so contain it
      obtain rfl : d = c := (List.cons_prefix_cons.1 ((List.prefix_append_right_inj as).1 h)).1
      exact absurd (by simp) hc

/-- What ends in a character does not reach into a text without it. -/
theorem starts_of_ends {m as bs : List Char} {c : Char} (hc : c ∉ bs)
    (h : m ++ [c] <+: as ++ bs) : m ++ [c] <+: as := by
  rcases List.prefix_or_prefix_of_prefix h (List.prefix_append as bs) with hm | ⟨rest, hrest⟩
  · exact hm
  · rcases List.eq_nil_or_concat rest with rfl | ⟨rest, d, rfl⟩
    · rw [← hrest, List.append_nil]
    · rw [List.concat_eq_append, ← List.append_assoc] at hrest
      obtain ⟨rfl, hd⟩ := List.append_inj' hrest rfl
      obtain rfl : d = c := List.singleton_inj.1 hd
      -- it ends inside of `bs`, so its last character is one of `bs`
      rw [List.append_assoc] at h
      exact absurd ((List.prefix_append_right_inj as).1 h |>.subset (by simp)) hc

theorem marks_iff_starts {cs inner : List Char} :
    (∃ rest, Marks cs inner rest) ↔ marker ++ inner ++ [')'] <+: cs ∧ ')' ∉ inner := by
  constructor
  · rintro ⟨rest, rfl, h⟩
    exact ⟨⟨rest, by simp⟩, h⟩
  · rintro ⟨⟨rest, rfl⟩, h⟩
    exact ⟨rest, by simp, h⟩

/-- **Markers are taken off line by line.** -/
theorem unwrapChars_append (as bs : List Char) :
    unwrapChars (as ++ '\n' :: bs) = unwrapChars as ++ '\n' :: unwrapChars bs := by
  induction as using unwrap_ind with
  | nil =>
    have hother : ∀ inner rest, ¬ Marks ('\n' :: bs) inner rest :=
      fun inner rest h => absurd (List.cons.inj h.1).1 (by decide)
    rw [List.nil_append, unwrapChars_cons fun inner rest h => absurd h (hother inner rest)]
    simp [unwrapChars]
  | marked cs inner rest h hline ih =>
    have hlonger : Marks (cs ++ '\n' :: bs) inner (rest ++ '\n' :: bs) := ⟨by simp [h.1], h.2⟩
    rw [unwrapChars_of_marks hlonger hline, unwrapChars_of_marks h hline, ih, List.append_assoc]
  | kept c cs h ih =>
    have hlonger : ∀ inner rest, Marks (c :: (cs ++ '\n' :: bs)) inner rest → '\n' ∈ inner := by
      intro inner rest hm
      apply Classical.byContradiction
      intro hline
      -- a marker without line feed lies in front of the line feed
      obtain ⟨hstarts, hinner⟩ := marks_iff_starts.1 ⟨rest, hm⟩
      have hshort : marker ++ inner ++ [')'] <+: c :: cs :=
        starts_of_not_mem (by simp [marker, hline]) hstarts
      obtain ⟨rest', hm'⟩ := marks_iff_starts.2 ⟨hshort, hinner⟩
      exact hline (h inner rest' hm')
    rw [List.cons_append, unwrapChars_cons hlonger, unwrapChars_cons h, ih, List.cons_append]

/-- What stands behind without parentheses has no part in the markers. -/
theorem unwrapChars_append_of_not_mem {bs : List Char} (ho : '(' ∉ bs) (hc : ')' ∉ bs)
    (as : List Char) : unwrapChars (as ++ bs) = unwrapChars as ++ bs := by
  induction as using unwrap_ind with
  | nil => rw [List.nil_append, unwrapChars_of_not_mem ho]; simp [unwrapChars]
  | marked cs inner rest h hline ih =>
    have hlonger : Marks (cs ++ bs) inner (rest ++ bs) := ⟨by simp [h.1], h.2⟩
    rw [unwrapChars_of_marks hlonger hline, unwrapChars_of_marks h hline, ih, List.append_assoc]
  | kept c cs h ih =>
    have hlonger : ∀ inner rest, Marks (c :: (cs ++ bs)) inner rest → '\n' ∈ inner := by
      intro inner rest hm
      obtain ⟨hstarts, hinner⟩ := marks_iff_starts.1 ⟨rest, hm⟩
      have hshort : marker ++ inner ++ [')'] <+: c :: cs := starts_of_ends hc hstarts
      obtain ⟨rest', hm'⟩ := marks_iff_starts.2 ⟨hshort, hinner⟩
      exact h inner rest' hm'
    rw [List.cons_append, unwrapChars_cons hlonger, unwrapChars_cons h, ih, List.cons_append]

/-- A text in front without the first letter of a marker has no part in the markers. -/
theorem unwrapChars_front {as : List Char} (h : 'E' ∉ as) (bs : List Char) :
    unwrapChars (as ++ bs) = as ++ unwrapChars bs := by
  induction as with
  | nil => rfl
  | cons a as ih =>
    obtain ⟨ha, has⟩ := not_or.1 (mt List.mem_cons.2 h)
    have hother : ∀ inner rest, ¬ Marks (a :: (as ++ bs)) inner rest :=
      fun inner rest hm => ha (List.cons.inj hm.1).1.symm
    rw [List.cons_append, unwrapChars_cons fun inner rest hm => absurd hm (hother inner rest),
      ih has, List.cons_append]

/-! ## Texts -/

/-- The marker at the start of a text: what it holds, and what stands behind it. -/
def held? (text : List Char) : Option (List Char × List Char) :=
  if marker.isPrefixOf text && (text.drop marker.length).contains ')' then
    let behind := text.drop marker.length
    some (behind.takeWhile (· != ')'), (behind.dropWhile (· != ')')).drop 1)
  else none

/-- A text with a parenthesis is cut at the first one. -/
theorem cut_dropWhile {cs : List Char} (h : ')' ∈ cs) :
    cs = cs.takeWhile (· != ')') ++ ')' :: (cs.dropWhile (· != ')')).drop 1 := by
  induction cs with
  | nil => exact absurd h List.not_mem_nil
  | cons c cs ih =>
    by_cases hc : c = ')'
    · simp [hc]
    · have hmem : ')' ∈ cs := (List.mem_cons.1 h).resolve_left (Ne.symm hc)
      rw [List.takeWhile_cons_of_pos (by simpa using hc),
        List.dropWhile_cons_of_pos (by simpa using hc), List.cons_append, ← ih hmem]

theorem not_mem_takeWhile (cs : List Char) : ')' ∉ cs.takeWhile (· != ')') := by
  intro h
  simpa using List.all_eq_true.1 List.all_takeWhile _ h

theorem held?_eq_some_iff {text inner rest : List Char} :
    held? text = some (inner, rest) ↔ Marks text inner rest := by
  constructor
  · intro h
    rw [held?] at h
    split at h
    · next hheld =>
      obtain ⟨hstarts, hclosed⟩ := Bool.and_eq_true_iff.1 hheld
      obtain ⟨behind, rfl⟩ := List.isPrefixOf_iff_prefix.1 hstarts
      rw [List.drop_left] at h hclosed
      obtain ⟨rfl, rfl⟩ := Prod.mk.inj (Option.some.inj h)
      refine ⟨?_, not_mem_takeWhile behind⟩
      rw [List.append_assoc, ← cut_dropWhile (List.contains_iff_mem.1 hclosed)]
    · cases h
  · rintro ⟨rfl, hinner⟩
    have hmem : ')' ∈ inner ++ ')' :: rest := by simp
    obtain ⟨hfront, hback⟩ := cut_unique (not_mem_takeWhile _) hinner (cut_dropWhile hmem).symm
    rw [held?, List.append_assoc, List.drop_left, if_pos (by simp)]
    simp only [hfront, hback]

theorem length_held?_lt {text inner rest : List Char} (h : held? text = some (inner, rest)) :
    rest.length < text.length := by
  rw [(held?_eq_some_iff.1 h).1]; simp; omega

/-- Take the markers off a text, whether or not they reach over line feeds. -/
def unmark : List Char → List Char
  | [] => []
  | c :: cs =>
    match _h : held? (c :: cs) with
    | some (inner, rest) => inner ++ unmark rest
    | none => c :: unmark cs
termination_by cs => cs.length
decreasing_by
  · exact length_held?_lt ‹_›
  · simp

/-- There is a marker in the text. -/
def Marked (text : List Char) : Prop :=
  ∃ front inner rest, Marks (text.drop front) inner rest

theorem marked_cons {c : Char} {cs : List Char} :
    Marked (c :: cs) ↔ (∃ inner rest, Marks (c :: cs) inner rest) ∨ Marked cs := by
  constructor
  · rintro ⟨front, inner, rest, h⟩
    cases front with
    | zero => exact .inl ⟨inner, rest, h⟩
    | succ front => exact .inr ⟨front, inner, rest, h⟩
  · rintro (⟨inner, rest, h⟩ | ⟨front, inner, rest, h⟩)
    · exact ⟨0, inner, rest, h⟩
    · exact ⟨front + 1, inner, rest, h⟩

/-- Without an opening parenthesis there is no marker. -/
theorem not_marked_of_not_mem {cs : List Char} (h : '(' ∉ cs) : ¬ Marked cs := by
  rintro ⟨front, inner, rest, htext, _⟩
  have hmem : '(' ∈ cs.drop front := by rw [htext]; simp [marker]
  exact h (List.mem_of_mem_drop hmem)

/-- A text in front without the first letter of a marker adds no marker. -/
theorem not_marked_append {as bs : List Char} (ha : 'E' ∉ as) (hb : ¬ Marked bs) :
    ¬ Marked (as ++ bs) := by
  induction as with
  | nil => exact hb
  | cons a as ih =>
    obtain ⟨hne, has⟩ := not_or.1 (mt List.mem_cons.2 ha)
    rw [List.cons_append, marked_cons, not_or]
    refine ⟨?_, ih has⟩
    rintro ⟨inner, rest, h, _⟩
    exact hne (List.cons.inj h).1.symm

theorem length_unmark_le (cs : List Char) : (unmark cs).length ≤ cs.length := by
  fun_induction unmark cs with
  | case1 => exact Nat.le_refl _
  | case2 c cs inner rest h ih =>
    rw [(held?_eq_some_iff.1 h).1]
    simp only [List.length_append, List.length_cons]
    omega
  | case3 c cs h ih => exact Nat.succ_le_succ ih

/-- **A text without markers is left alone, and no other.** -/
theorem unmark_eq_self_iff (cs : List Char) : unmark cs = cs ↔ ¬ Marked cs := by
  fun_induction unmark cs with
  | case1 =>
    refine iff_of_true rfl ?_
    rintro ⟨front, inner, rest, h, _⟩
    rw [List.drop_nil] at h
    simp [marker] at h
  | case2 c cs inner rest h =>
    have hm := held?_eq_some_iff.1 h
    refine iff_of_false ?_ (not_not.2 (marked_cons.2 (.inl ⟨inner, rest, hm⟩)))
    intro heq
    -- with its marker the text has lost at least six characters
    have hlength := congrArg List.length heq
    have hle := length_unmark_le rest
    rw [hm.1] at hlength
    simp only [List.length_append, List.length_cons, marker] at hlength
    omega
  | case3 c cs h ih =>
    have hnone : ¬ ∃ inner rest, Marks (c :: cs) inner rest := by
      rintro ⟨inner, rest, hm⟩
      rw [held?_eq_some_iff.2 hm] at h
      cases h
    rw [List.cons_inj_right, ih, marked_cons, not_or, and_iff_right hnone]

end QmlExport.Code
