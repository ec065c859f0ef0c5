import Mathlib.Data.List.Basic
import QmlExport.Text.Blank

/-!
# Lines

A text is cut into pieces at its line feeds. What a reader of code sees of it are the lines that say
something, and of these what stands between the blanks at their ends:

    text ──pieces──▶ lines ──trim──▶ trimmed lines ──without empty ones──▶ spoken text

`spoken` lists the last of these. Texts that are put one under the other are spoken one after the
other (`spoken_append`), and a line that neither starts nor ends with a blank is spoken as it is
(`spoken_of_trimmed`).
-/

namespace QmlExport.Text

/-! ## Pieces -/

section

variable {isSep : Char → Bool}

theorem pieces_of_forall_not {cs : List Char} (h : ∀ c ∈ cs, isSep c = false) :
    pieces isSep cs = [cs] := by
  induction cs with
  | nil => rfl
  | cons c cs ih =>
    obtain ⟨hc, hcs⟩ := List.forall_mem_cons.1 h
    rw [pieces, if_neg (by simp [hc]), ih hcs]

theorem beq_of_not_mem {sep : Char} {cs : List Char} (h : sep ∉ cs) :
    ∀ c ∈ cs, (c == sep) = false := by
  intro c hc
  simpa using fun heq : c = sep => h (heq ▸ hc)

/-- A text without the separator is one piece. -/
theorem pieces_of_not_mem {sep : Char} {cs : List Char} (h : sep ∉ cs) :
    pieces (· == sep) cs = [cs] :=
  pieces_of_forall_not (beq_of_not_mem h)

/-- A separator stands between the pieces before it and the pieces behind it. -/
theorem pieces_append {sep : Char} (hsep : isSep sep) (as bs : List Char) :
    pieces isSep (as ++ sep :: bs) = pieces isSep as ++ pieces isSep bs := by
  induction as with
  | nil =>
    rw [List.nil_append, pieces.eq_2, if_pos hsep]
    rfl
  | cons a as ih =>
    rw [List.cons_append, pieces, pieces, ih]
    split
    · rfl
    · cases hp : pieces isSep as with
      | nil => exact absurd hp (pieces_ne_nil _ _)
      | cons p ps => rfl

/-- Texts without separators that are glued together come apart again. -/
theorem pieces_glue {sep : Char} (hsep : isSep sep) {ps : List (List Char)} (hne : ps ≠ [])
    (h : ∀ p ∈ ps, ∀ c ∈ p, isSep c = false) : pieces isSep (glue sep ps) = ps := by
  induction ps with
  | nil => exact absurd rfl hne
  | cons p ps ih =>
    obtain ⟨hp, hps⟩ := List.forall_mem_cons.1 h
    cases ps with
    | nil => exact pieces_of_forall_not hp
    | cons q qs =>
      rw [glue, pieces_append hsep, pieces_of_forall_not hp, ih (List.cons_ne_nil q qs) hps]
      rfl

/-- There is one more piece than separators. -/
theorem length_pieces (isSep : Char → Bool) (cs : List Char) :
    (pieces isSep cs).length = cs.countP isSep + 1 := by
  induction cs with
  | nil => rfl
  | cons c cs ih =>
    rw [pieces, List.countP_cons]
    split
    · rw [List.length_cons, ih]
    · cases hp : pieces isSep cs with
      | nil => exact absurd hp (pieces_ne_nil _ _)
      | cons p ps =>
        rw [hp] at ih
        exact ih

theorem not_isSep_of_mem_pieces {cs p : List Char} (hp : p ∈ pieces isSep cs) :
    ∀ c ∈ p, isSep c = false := by
  induction cs generalizing p with
  | nil => simp [pieces] at hp; simp [hp]
  | cons c cs ih =>
    rw [pieces] at hp
    split at hp
    · rcases List.mem_cons.1 hp with rfl | hp
      · simp
      · exact ih hp
    · next hc =>
      cases hq : pieces isSep cs with
      | nil => exact absurd hq (pieces_ne_nil _ _)
      | cons q qs =>
        rw [hq] at hp ih
        rcases List.mem_cons.1 hp with rfl | hp
        · intro d hd
          rcases List.mem_cons.1 hd with rfl | hd
          · simpa using hc
          · exact ih List.mem_cons_self d hd
        · exact ih (List.mem_cons_of_mem _ hp)

theorem mem_of_mem_pieces {cs p : List Char} (hp : p ∈ pieces isSep cs) : ∀ c ∈ p, c ∈ cs := by
  induction cs generalizing p with
  | nil => simp [pieces] at hp; simp [hp]
  | cons c cs ih =>
    rw [pieces] at hp
    split at hp
    · rcases List.mem_cons.1 hp with rfl | hp
      · simp
      · exact fun d hd => List.mem_cons_of_mem _ (ih hp d hd)
    · cases hq : pieces isSep cs with
      | nil => exact absurd hq (pieces_ne_nil _ _)
      | cons q qs =>
        rw [hq] at hp ih
        rcases List.mem_cons.1 hp with rfl | hp
        · intro d hd
          rcases List.mem_cons.1 hd with rfl | hd
          · exact List.mem_cons_self
          · exact List.mem_cons_of_mem _ (ih List.mem_cons_self d hd)
        · exact fun d hd => List.mem_cons_of_mem _ (ih (List.mem_cons_of_mem _ hp) d hd)

theorem lastPiece_mem (cs : List Char) : lastPiece isSep cs ∈ pieces isSep cs := by
  rw [lastPiece, List.getLastD_eq_getLast?, List.getLast?_eq_some_getLast (pieces_ne_nil _ _)]
  exact List.getLast_mem _

theorem mem_of_mem_lastPiece {cs : List Char} {c : Char} (h : c ∈ lastPiece isSep cs) : c ∈ cs :=
  mem_of_mem_pieces (lastPiece_mem cs) c h

/-- What stands before a separator has no part in the last piece. -/
theorem lastPiece_append {sep : Char} (hsep : isSep sep) (as bs : List Char) :
    lastPiece isSep (as ++ sep :: bs) = lastPiece isSep bs := by
  rw [lastPiece, lastPiece, pieces_append hsep, List.getLastD_eq_getLast?,
    List.getLastD_eq_getLast?, List.getLast?_append_of_ne_nil _ (pieces_ne_nil _ _)]

theorem lastPiece_of_forall_not {cs : List Char} (h : ∀ c ∈ cs, isSep c = false) :
    lastPiece isSep cs = cs := by
  rw [lastPiece, pieces_of_forall_not h]
  rfl

theorem exists_lastPiece (cs : List Char) :
    cs = lastPiece isSep cs ∨ ∃ front sep, isSep sep ∧ cs = front ++ sep :: lastPiece isSep cs := by
  induction cs with
  | nil => exact .inl rfl
  | cons c cs ih =>
    have hpiece : ∀ c ∈ lastPiece isSep cs, isSep c = false :=
      not_isSep_of_mem_pieces (lastPiece_mem cs)
    rcases ih with hcs | ⟨front, sep, hsep, hcs⟩
    · rw [← hcs] at hpiece
      by_cases hc : isSep c
      · refine .inr ⟨[], c, hc, ?_⟩
        rw [← List.nil_append (c :: cs), lastPiece_append hc, ← hcs]
      · left
        rw [lastPiece_of_forall_not (List.forall_mem_cons.2 ⟨Bool.eq_false_iff.2 hc, hpiece⟩)]
    · refine .inr ⟨c :: front, sep, hsep, ?_⟩
      have hlast : lastPiece isSep (c :: cs) = lastPiece isSep cs := by
        rw [hcs, ← List.cons_append, lastPiece_append hsep, lastPiece_append hsep]
      rw [hlast, List.cons_append, ← hcs]

/-- **The last piece is what stands behind the last separator**, if there is one. -/
theorem lastPiece_eq_iff {cs p : List Char} :
    lastPiece isSep cs = p ↔ (∀ c ∈ p, isSep c = false) ∧
      (cs = p ∨ ∃ front sep, isSep sep ∧ cs = front ++ sep :: p) := by
  constructor
  · rintro rfl
    exact ⟨not_isSep_of_mem_pieces (lastPiece_mem cs), exists_lastPiece cs⟩
  · rintro ⟨hp, rfl | ⟨front, sep, hsep, rfl⟩⟩
    · exact lastPiece_of_forall_not hp
    · rw [lastPiece_append hsep, lastPiece_of_forall_not hp]

end

/-! ## Trimming -/

theorem trimEnd_append_singleton {c : Char} (hc : isBlank c = false) (as : List Char) :
    trimEnd (as ++ [c]) = as ++ [c] := by
  induction as with
  | nil => simp [trimEnd, hc]
  | cons a as ih =>
    rw [List.cons_append, trimEnd, ih]
    cases as <;> rfl

theorem trimEnd_starts (cs : List Char) : trimEnd cs <+: cs := by
  induction cs with
  | nil => exact List.prefix_refl _
  | cons c cs ih =>
    rw [trimEnd]
    split
    · split
      · exact List.nil_prefix
      · exact List.prefix_cons_inj c |>.2 List.nil_prefix
    · next hd =>
      rw [hd] at ih
      exact (List.prefix_cons_inj c).2 ih

/-- What is left when the blanks at the end are dropped is nothing or ends in another character. -/
theorem trimEnd_eq_nil_or (cs : List Char) :
    trimEnd cs = [] ∨ ∃ as c, isBlank c = false ∧ trimEnd cs = as ++ [c] := by
  induction cs with
  | nil => exact .inl rfl
  | cons c cs ih =>
    rw [trimEnd]
    rcases ih with ih | ⟨as, d, hd, ih⟩
    · rw [ih]
      by_cases hc : isBlank c
      · exact .inl (by simp [hc])
      · exact .inr ⟨[], c, by simpa using hc, by simp [hc]⟩
    · right
      refine ⟨c :: as, d, hd, ?_⟩
      rw [ih]
      cases as <;> rfl

/-- A line that neither starts nor ends with a blank. -/
def Trimmed (l : List Char) : Prop := trim l = l

instance (l : List Char) : Decidable (Trimmed l) := inferInstanceAs (Decidable (trim l = l))

/-- A text that starts and ends with other characters has no blanks to drop. -/
theorem trimmed_of_ends {c d : Char} {as bs : List Char} (hc : isBlank c = false)
    (hd : isBlank d = false) (h : c :: as = bs ++ [d]) : Trimmed (c :: as) := by
  rw [Trimmed, trim, trimStart, List.dropWhile_cons_of_neg (by simp [hc]), h,
    trimEnd_append_singleton hd]

theorem mem_of_mem_trim {cs : List Char} {c : Char} (h : c ∈ trim cs) : c ∈ cs :=
  (List.dropWhile_suffix isBlank).subset ((trimEnd_starts _).subset h)

/-- Trimming leaves nothing to trim. -/
theorem trimmed_trim (cs : List Char) : Trimmed (trim cs) := by
  rcases trimEnd_eq_nil_or (trimStart cs) with h | ⟨as, d, hd, h⟩
  · rw [trim, h]
    rfl
  · cases hs : trimStart cs with
    | nil => rw [hs] at h; simp [trimEnd] at h
    | cons c rest =>
      have hc : isBlank c = false := by
        have hhead := List.head?_dropWhile_not isBlank cs
        rw [show cs.dropWhile isBlank = c :: rest from hs] at hhead
        simpa using hhead
      have hstarts := trimEnd_starts (trimStart cs)
      rw [h, hs] at hstarts
      rw [trim, h]
      cases has : as ++ [d] with
      | nil => simp at has
      | cons e es =>
        -- the first character that is left is the first one that is no blank
        rw [has] at hstarts
        obtain rfl : e = c := (List.cons_prefix_cons.1 hstarts).1
        exact trimmed_of_ends hc hd has.symm

/-- Blanks in front are dropped. -/
theorem trim_append_of_blank {bs : List Char} (h : ∀ b ∈ bs, isBlank b) (cs : List Char) :
    trim (bs ++ cs) = trim cs := by
  rw [trim, trim, trimStart, List.dropWhile_append_of_pos h, trimStart]

theorem trim_eq_nil_of_blank {cs : List Char} (h : ∀ c ∈ cs, isBlank c) : trim cs = [] := by
  have hdrop := trim_append_of_blank h []
  rwa [List.append_nil] at hdrop

/-- In front of a character that is no blank, only the blanks at the start can be dropped. -/
theorem trim_append_singleton {c : Char} (hc : isBlank c = false) (as : List Char) :
    trim (as ++ [c]) = trimStart as ++ [c] := by
  have hdrop : trimStart (as ++ [c]) = trimStart as ++ [c] := by
    rw [trimStart, List.dropWhile_append, trimStart]
    split
    · next hall => rw [List.isEmpty_iff.1 hall, List.dropWhile_cons_of_neg (by simp [hc])]; rfl
    · rfl
  rw [trim, hdrop, trimEnd_append_singleton hc]

/-! ## Spoken text -/

/-- The lines of a text that say something, without the blanks at their ends. -/
def spoken (text : List Char) : List (List Char) :=
  ((pieces (· == '\n') text).map trim).filter fun l => !l.isEmpty

/-- Texts under one another are spoken one after the other. -/
theorem spoken_append (as bs : List Char) : spoken (as ++ '\n' :: bs) = spoken as ++ spoken bs := by
  rw [spoken, pieces_append rfl, List.map_append, List.filter_append]
  rfl

@[simp] theorem spoken_nil : spoken [] = [] := rfl

/-- A text of one line. -/
theorem spoken_of_line {l : List Char} (h : '\n' ∉ l) :
    spoken l = if (trim l).isEmpty then [] else [trim l] := by
  rw [spoken, pieces_of_not_mem h, List.map_singleton]
  by_cases ht : (trim l).isEmpty <;> simp [ht]

/-- **A line without blanks at its ends is spoken as it is.** -/
theorem spoken_of_trimmed {l : List Char} (h : '\n' ∉ l) (ht : Trimmed l) (hne : l ≠ []) :
    spoken l = [l] := by
  rw [spoken_of_line h, show trim l = l from ht, if_neg (by simpa using hne)]

theorem trimmed_of_mem_spoken {text l : List Char} (h : l ∈ spoken text) :
    Trimmed l ∧ l ≠ [] ∧ '\n' ∉ l := by
  obtain ⟨hl, hne⟩ := List.mem_filter.1 h
  obtain ⟨p, hp, rfl⟩ := List.mem_map.1 hl
  refine ⟨trimmed_trim p, by simpa using hne, ?_⟩
  intro hmem
  simpa using not_isSep_of_mem_pieces hp _ (mem_of_mem_trim hmem)

/-- Nothing is said that does not stand in the text. -/
theorem mem_of_mem_spoken {text l : List Char} (h : l ∈ spoken text) : ∀ c ∈ l, c ∈ text := by
  obtain ⟨p, hp, rfl⟩ := List.mem_map.1 (List.mem_filter.1 h).1
  exact fun c hc => mem_of_mem_pieces hp c (mem_of_mem_trim hc)

end QmlExport.Text
