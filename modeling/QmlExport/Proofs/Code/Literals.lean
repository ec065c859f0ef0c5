import QmlExport.Code.Literal
import QmlExport.Proofs.Code.Markers

/-!
# Literals and markers

A literal is read back as the text it was written for, but for the carriage returns that were left
out (`unquote_quoteChars`).

Markers are taken off the whole code, literals included. A marker loses its letters and parentheses,
and none of these is a quote, a backslash or what stands behind one, so what was a literal stays one:
**the literal of a text becomes the literal of the text without its markers**
(`unwrapChars_quoteChars`). It is `unmark` that takes them off here, for a line feed is written as an
escape and keeps no marker from being closed.
-/

namespace QmlExport.Code

/-! ## Escapes -/

/-- The characters of a text as they stand in a literal. -/
def escaped (cs : List Char) : List Char := cs.flatMap escapeChar

/-- A text as it is kept in code, which has no carriage returns. -/
def withoutReturns (cs : List Char) : List Char := cs.filter (· != '\r')

theorem escaped_append (as bs : List Char) : escaped (as ++ bs) = escaped as ++ escaped bs :=
  List.flatMap_append

theorem escaped_cons (c : Char) (cs : List Char) :
    escaped (c :: cs) = escapeChar c ++ escaped cs := List.flatMap_cons

theorem escapeChar_of_ne {c : Char} (hq : c ≠ '"') (hb : c ≠ '\\') (hn : c ≠ '\n')
    (hr : c ≠ '\r') : escapeChar c = [c] := by
  unfold escapeChar
  split <;> simp_all

/-- What is written for a character is an escape or the character. -/
theorem mem_escapeChar {c d : Char} (h : d ∈ escapeChar c) :
    d = '\\' ∨ d = 'n' ∨ d = c ∧ c ≠ '\n' ∧ c ≠ '\r' := by
  unfold escapeChar at h
  split at h <;> grind

theorem mem_escaped {cs : List Char} {d : Char} (hb : d ≠ '\\') (hn : d ≠ 'n')
    (h : d ∈ escaped cs) : d ∈ cs ∧ d ≠ '\n' ∧ d ≠ '\r' := by
  obtain ⟨c, hc, hd⟩ := List.mem_flatMap.1 h
  rcases mem_escapeChar hd with hd | hd | ⟨rfl, hd⟩
  · exact absurd hd hb
  · exact absurd hd hn
  · exact ⟨hc, hd⟩

theorem not_mem_withoutReturns (cs : List Char) : '\r' ∉ withoutReturns cs := by
  simp [withoutReturns]

theorem withoutReturns_of_not_mem {cs : List Char} (h : '\r' ∉ cs) : withoutReturns cs = cs := by
  apply List.filter_eq_self.2
  intro c hc
  simpa using fun heq : c = '\r' => h (heq ▸ hc)

/-- Carriage returns leave nothing in a literal. -/
theorem escaped_withoutReturns (cs : List Char) : escaped (withoutReturns cs) = escaped cs := by
  induction cs with
  | nil => rfl
  | cons c cs ih =>
    by_cases hc : c = '\r'
    · rw [withoutReturns, List.filter_cons_of_neg (by simp [hc]), escaped_cons, hc]
      exact ih
    · rw [withoutReturns, List.filter_cons_of_pos (by simpa using hc), escaped_cons, escaped_cons,
        ← ih]
      rfl

/-! ## Reading literals -/

theorem unescape_escaped (cs : List Char) : unescape (escaped cs) = some (withoutReturns cs) := by
  induction cs with
  | nil => rfl
  | cons c cs ih =>
    rw [escaped_cons]
    by_cases hq : c = '"'
    · subst hq
      show (unescape (escaped cs)).map _ = _
      rw [ih]
      rfl
    by_cases hb : c = '\\'
    · subst hb
      show (unescape (escaped cs)).map _ = _
      rw [ih]
      rfl
    by_cases hn : c = '\n'
    · subst hn
      show (unescape (escaped cs)).map _ = _
      rw [ih]
      rfl
    by_cases hr : c = '\r'
    · subst hr
      exact ih
    · rw [escapeChar_of_ne hq hb hn hr, List.singleton_append, unescape.eq_def]
      simp [hq, hb, hr, ih, withoutReturns]

theorem quoteChars_eq (cs : List Char) : quoteChars cs = '"' :: (escaped cs ++ ['"']) := rfl

/-- **A literal is read back**, but for the carriage returns. -/
theorem unquote_quoteChars (cs : List Char) :
    unquote (quoteChars cs) = some (withoutReturns cs) := by
  rw [quoteChars_eq, unquote, if_pos (by simp), List.dropLast_concat, unescape_escaped]

/-! ## Markers in literals -/

theorem mem_of_mem_unmark {cs : List Char} {c : Char} (h : c ∈ unmark cs) : c ∈ cs := by
  fun_induction unmark cs with
  | case1 => exact h
  | case2 d cs inner rest hheld ih =>
    rw [(held?_eq_some_iff.1 hheld).1]
    rcases List.mem_append.1 h with h | h
    · simp [h]
    · simp [ih h]
  | case3 d cs hheld ih =>
    rcases List.mem_cons.1 h with rfl | h
    · exact List.mem_cons_self
    · exact List.mem_cons_of_mem _ (ih h)

/-- Characters that are written as they are stand at the start of a text if they stand at the start
of what is written for it. -/
theorem prefix_of_prefix_escaped {m cs : List Char} (hm : '\\' ∉ m) (hr : '\r' ∉ cs)
    (h : m <+: escaped cs) : m <+: cs := by
  induction m generalizing cs with
  | nil => exact List.nil_prefix
  | cons a m ih =>
    obtain ⟨ha, hm⟩ := not_or.1 (mt List.mem_cons.2 hm)
    cases cs with
    | nil => simp [escaped] at h
    | cons c cs =>
      obtain ⟨_, hrest⟩ := not_or.1 (mt List.mem_cons.2 hr)
      rw [escaped_cons] at h
      by_cases hplain : escapeChar c = [c]
      · rw [hplain, List.singleton_append] at h
        obtain ⟨rfl, hstarts⟩ := List.cons_prefix_cons.1 h
        exact (List.prefix_cons_inj a).2 (ih hm hrest hstarts)
      · -- what else could stand there is the backslash of an escape
        unfold escapeChar at h hplain
        split at h
        all_goals first
          | exact absurd (List.cons_prefix_cons.1 h).1 ha
          | simp_all

/-- A marker in a literal is one of the text. -/
theorem marks_of_marks_escaped {cs inner rest : List Char} (hr : '\r' ∉ cs)
    (h : Marks (escaped cs ++ ['"']) inner rest) : ∃ inner rest, Marks cs inner rest := by
  obtain ⟨h, hinner⟩ := h
  have hmem : ')' ∈ escaped cs ++ ['"'] := by rw [h]; simp
  have hclosed : ')' ∈ cs := by
    rcases List.mem_append.1 hmem with hmem | hmem
    · exact (mem_escaped (by decide) (by decide) hmem).1
    · simp at hmem
  -- both texts are cut at their first parenthesis, and that is the same place
  have hcut := cut_dropWhile hclosed
  generalize hfront : cs.takeWhile (· != ')') = front at hcut
  generalize (cs.dropWhile (· != ')')).drop 1 = back at hcut
  have hnot : ')' ∉ front := hfront ▸ not_mem_takeWhile cs
  have hsplit : escaped cs ++ ['"'] = escaped front ++ ')' :: (escaped back ++ ['"']) := by
    rw [hcut, escaped_append, escaped_cons]
    simp [escapeChar]
  have hnotEscaped : ')' ∉ escaped front :=
    fun hmem => hnot (mem_escaped (by decide) (by decide) hmem).1
  have hnotHeld : ')' ∉ marker ++ inner := by simp [marker, hinner]
  obtain ⟨hheld, _⟩ := cut_unique hnotEscaped hnotHeld (hsplit.symm.trans h)
  have hr' : '\r' ∉ front := by
    intro hmem
    apply hr
    rw [hcut]
    exact List.mem_append_left _ hmem
  obtain ⟨inner', rfl⟩ := prefix_of_prefix_escaped (by decide) hr' ⟨inner, hheld.symm⟩
  exact ⟨inner', back, hcut, fun hmem => hnot (List.mem_append_right _ hmem)⟩

/-- Taking markers off what is written for a text leaves what is written for the text without its
markers. -/
theorem unwrapChars_escaped {cs : List Char} (hr : '\r' ∉ cs) :
    unwrapChars (escaped cs ++ ['"']) = escaped (unmark cs) ++ ['"'] := by
  fun_induction unmark cs with
  | case1 => exact unwrapChars_of_not_mem (by decide)
  | case2 c cs inner rest hheld ih =>
    obtain ⟨hcs, hinner⟩ := held?_eq_some_iff.1 hheld
    have hmarks : Marks (escaped (c :: cs) ++ ['"']) (escaped inner) (escaped rest ++ ['"']) := by
      refine ⟨?_, fun hmem => hinner (mem_escaped (by decide) (by decide) hmem).1⟩
      rw [hcs, escaped_append, escaped_append, escaped_cons]
      simp [escapeChar, marker, escaped]
    have hline : '\n' ∉ escaped inner :=
      fun hmem => (mem_escaped (by decide) (by decide) hmem).2.1 rfl
    rw [unwrapChars_of_marks hmarks hline, ih fun hmem => hr (by rw [hcs]; simp [hmem]),
      escaped_append, List.append_assoc]
  | case3 c cs hheld ih =>
    obtain ⟨_, hr'⟩ := not_or.1 (mt List.mem_cons.2 hr)
    have hnone : ∀ inner rest, ¬ Marks (c :: cs) inner rest := by
      intro inner rest hm
      rw [held?_eq_some_iff.2 hm] at hheld
      cases hheld
    rw [escaped_cons, escaped_cons, List.append_assoc, List.append_assoc]
    -- markers start with this letter, and it is none of those that escapes are made of
    by_cases hc : c = 'E'
    · subst hc
      show unwrapChars ('E' :: (escaped cs ++ ['"'])) = _
      rw [unwrapChars_cons, ih hr']
      · rfl
      · intro inner rest hm
        have hescaped : Marks (escaped ('E' :: cs) ++ ['"']) inner rest := hm
        obtain ⟨inner', rest', hm'⟩ := marks_of_marks_escaped hr hescaped
        exact absurd hm' (hnone inner' rest')
    · have hfront : 'E' ∉ escapeChar c := by
        intro hmem
        rcases mem_escapeChar hmem with h | h | h
        · exact absurd h (by decide)
        · exact absurd h (by decide)
        · exact hc h.1.symm
      rw [unwrapChars_front hfront, ih hr']

/-- What is left of a text in code: neither its carriage returns nor its markers. -/
def kept (cs : List Char) : List Char := unmark (withoutReturns cs)

/-- **Markers are taken off a literal as they are taken off its text.** -/
theorem unwrapChars_quoteChars (cs : List Char) :
    unwrapChars (quoteChars cs) = quoteChars (kept cs) := by
  have hinside := unwrapChars_escaped (not_mem_withoutReturns cs)
  rw [escaped_withoutReturns] at hinside
  rw [quoteChars_eq, quoteChars_eq, ← List.singleton_append, unwrapChars_front (by decide), hinside]
  rfl

/-- What a literal is read as that has lost its markers. -/
theorem unquote_kept (cs : List Char) : unquote (quoteChars (kept cs)) = some (kept cs) := by
  rw [unquote_quoteChars, withoutReturns_of_not_mem]
  exact fun hmem => not_mem_withoutReturns cs (mem_of_mem_unmark hmem)

/-- A text without carriage returns and markers stands in code as it is. -/
theorem kept_of_plain {cs : List Char} (hr : '\r' ∉ cs) (hm : ¬ Marked cs) : kept cs = cs := by
  rw [kept, withoutReturns_of_not_mem hr, (unmark_eq_self_iff cs).2 hm]

/-- A literal is one line. -/
theorem not_mem_quoteChars (cs : List Char) : '\n' ∉ quoteChars cs := by
  rw [quoteChars_eq]
  intro hmem
  simp only [List.mem_cons, List.mem_append, List.not_mem_nil, or_false] at hmem
  rcases hmem with h | h | h
  · exact absurd h (by decide)
  · exact (mem_escaped (by decide) (by decide) h).2.1 rfl
  · exact absurd h (by decide)

end QmlExport.Code
