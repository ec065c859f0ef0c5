import QmlExport.Proofs.Code.Layout

/-!
# The form of a text that is laid out

What laying out keeps of a text is its *spacing*: the lines that say something, each with the number
of blank lines right above it. From there on everything is fixed:

    text ──spacing──▶ spacing ──evened──▶ even spacing ──unspaced──▶ lines ──indentFrom──▶ result

`evened` leaves one blank line of several and none above the first line, and `squeeze` does just that
(`squeeze_eq`). The lines that come out have the even spacing again (`spacing_reindent`), and evening
twice is evening once, so **laying out a text a second time changes nothing** (`reindent_reindent`).

`LaidOut` lists what can be seen of a result; every result has all of it (`laidOut_reindent`).
-/

namespace QmlExport.Code

open Text

/-! ## Spacing -/

/-- The lines that say something, each with the number of blank lines right above it, when so many
blank lines stand before the first of the given lines. -/
def spaced : Nat → List (List Char) → List (Nat × List Char)
  | _, [] => []
  | above, l :: ls => if l.isEmpty then spaced (above + 1) ls else (above, l) :: spaced 0 ls

/-- The lines of a text that say something, trimmed, each with the number of blank lines right above
it. -/
def spacing (text : List Char) : List (Nat × List Char) :=
  spaced 0 ((pieces (· == '\n') text).map trim)

/-- One blank line in place of several. -/
def capped (es : List (Nat × List Char)) : List (Nat × List Char) :=
  es.map fun e => (min e.1 1, e.2)

/-- No blank line above the first line, and one in place of several above the others. -/
def evened : List (Nat × List Char) → List (Nat × List Char)
  | [] => []
  | (_, l) :: es => (0, l) :: capped es

/-- Lines with so many blank lines above them. -/
def unspaced (es : List (Nat × List Char)) : List (List Char) :=
  es.flatMap fun e => List.replicate e.1 [] ++ [e.2]

@[simp] theorem spaced_nil (above : Nat) : spaced above [] = [] := rfl

@[simp] theorem spaced_blank (above : Nat) (ls : List (List Char)) :
    spaced above ([] :: ls) = spaced (above + 1) ls := rfl

@[simp] theorem spaced_line (above : Nat) {l : List Char} (h : l ≠ []) (ls : List (List Char)) :
    spaced above (l :: ls) = (above, l) :: spaced 0 ls := by
  rw [spaced, if_neg (by simpa using h)]

@[simp] theorem unspaced_cons (e : Nat × List Char) (es : List (Nat × List Char)) :
    unspaced (e :: es) = List.replicate e.1 [] ++ e.2 :: unspaced es := by
  simp [unspaced]

theorem spaced_replicate (above n : Nat) (ls : List (List Char)) :
    spaced above (List.replicate n [] ++ ls) = spaced (above + n) ls := by
  induction n generalizing above with
  | zero => rfl
  | succ n ih =>
    rw [List.replicate_succ, List.cons_append, spaced_blank, ih, Nat.add_assoc, Nat.add_comm 1]

/-- Lines that say something have the spacing with which they were written. -/
theorem spaced_unspaced {es : List (Nat × List Char)} (h : ∀ e ∈ es, e.2 ≠ [])
    (rest : List (List Char)) : spaced 0 (unspaced es ++ rest) = es ++ spaced 0 rest := by
  induction es with
  | nil => rfl
  | cons e es ih =>
    obtain ⟨he, hes⟩ := List.forall_mem_cons.1 h
    rw [unspaced_cons, List.append_assoc, List.cons_append, spaced_replicate, spaced_line _ he,
      ih hes, Nat.zero_add, List.cons_append]

/-- Of the lines, only the blank ones are not among those with a spacing. -/
theorem map_snd_spaced (above : Nat) (ls : List (List Char)) :
    (spaced above ls).map Prod.snd = ls.filter fun l => !l.isEmpty := by
  induction ls generalizing above with
  | nil => rfl
  | cons l ls ih =>
    by_cases hl : l = []
    · simp [hl, ih]
    · simp [hl, ih]

theorem map_snd_spacing (text : List Char) : (spacing text).map Prod.snd = spoken text :=
  map_snd_spaced 0 _

/-! ## Even spacing -/

theorem capped_capped (es : List (Nat × List Char)) : capped (capped es) = capped es := by
  simp [capped]

/-- Nothing is left to be evened. -/
theorem evened_evened (es : List (Nat × List Char)) : evened (evened es) = evened es := by
  cases es with
  | nil => rfl
  | cons e es => simp [evened, capped_capped]

theorem map_snd_evened (es : List (Nat × List Char)) :
    (evened es).map Prod.snd = es.map Prod.snd := by
  cases es with
  | nil => rfl
  | cons e es => simp [evened, capped]

/-- One blank line in front counts as much as several. -/
theorem capped_spaced_succ (above : Nat) (ls : List (List Char)) :
    capped (spaced (above + 2) ls) = capped (spaced (above + 1) ls) := by
  induction ls generalizing above with
  | nil => rfl
  | cons l ls ih =>
    by_cases hl : l = []
    · rw [hl, spaced_blank, spaced_blank, ih]
    · simp [hl, capped]

/-- The first line that says something has no blank lines above it, once these are dropped. -/
theorem capped_dropWhile (above : Nat) (ls : List (List Char)) :
    capped (spaced 0 (ls.dropWhile List.isEmpty)) = evened (spaced above ls) := by
  induction ls generalizing above with
  | nil => rfl
  | cons l ls ih =>
    by_cases hl : l = []
    · rw [hl, spaced_blank, ← ih]
      rfl
    · rw [List.dropWhile_cons_of_neg (by simpa using hl), spaced_line _ hl, spaced_line _ hl]
      rfl

theorem go_cons {l : List Char} (h : l ≠ []) (ls : List (List Char)) :
    squeeze.go (l :: ls) = l :: squeeze.go ls := by
  cases ls with
  | nil => simp [squeeze.go, h]
  | cons m ls => simp [squeeze.go, h]

/-- Of each run of blank lines that something follows, one is kept. -/
theorem go_eq (ls : List (List Char)) : squeeze.go ls = unspaced (capped (spaced 0 ls)) := by
  induction ls with
  | nil => rfl
  | cons l ls ih =>
    by_cases hl : l = []
    case neg =>
      rw [go_cons hl, spaced_line _ hl, ih]
      simp [capped]
    case pos =>
      subst hl
      cases ls with
      | nil => rfl
      | cons m ls =>
        by_cases hm : m = []
        · -- the second blank line stands for both
          subst hm
          rw [show squeeze.go ([] :: [] :: ls) = squeeze.go ([] :: ls) from rfl, ih, spaced_blank,
            spaced_blank, spaced_blank, capped_spaced_succ]
        · have hgo : squeeze.go ([] :: m :: ls) = [] :: squeeze.go (m :: ls) := by
            simp [squeeze.go, hm]
          rw [hgo, ih, spaced_line _ hm, spaced_blank, spaced_line _ hm]
          simp [capped]

/-- **What is laid out are the lines with even spacing.** -/
theorem squeeze_eq (ls : List (List Char)) : squeeze ls = unspaced (evened (spaced 0 ls)) := by
  rw [squeeze, go_eq, capped_dropWhile 0]

/-! ## Results -/

section

variable (text : List Char)

/-- A result depends on the even spacing alone. -/
theorem reindentChars_eq :
    reindentChars text = unlines (indentFrom 0 (unspaced (evened (spacing text)))) := by
  rw [reindentChars, squeeze_eq]
  rfl

theorem ne_nil_of_mem_evened : ∀ e ∈ evened (spacing text), e.2 ≠ [] := by
  intro e he
  have hmem : e.2 ∈ spoken text := by
    rw [← map_snd_spacing, ← map_snd_evened]
    exact List.mem_map_of_mem he
  exact (trimmed_of_mem_spoken hmem).2.1

/-- **A text that is laid out has even spacing.** -/
theorem spacing_reindent : spacing (reindentChars text) = evened (spacing text) := by
  have hlines : (pieces (· == '\n') (reindentChars text)).map trim =
      unspaced (evened (spacing text)) ++ [[]] := by
    rw [pieces_reindentChars, List.map_append, map_trim_indentFrom (layable_squeeze text),
      squeeze_eq]
    rfl
  rw [spacing, hlines, spaced_unspaced (ne_nil_of_mem_evened text)]
  simp

theorem reindent_reindent (text : String) : reindent (reindent text) = reindent text := by
  rw [reindent, reindent, String.toList_ofList, reindentChars_eq (reindentChars text.toList),
    spacing_reindent, evened_evened, ← reindentChars_eq]

end

/-! ## Lines of results -/

/-- A line behind a multiple of four spaces, without blanks at its end. A blank line is empty. -/
def Indented (l : List Char) : Prop :=
  l = [] ∨ trim l ≠ [] ∧ ∃ k, l = List.replicate (4 * k) ' ' ++ trim l

/-- A line that says something ends in a character that is no blank. -/
theorem Indented.ends {l : List Char} (h : Indented l) (hne : trim l ≠ []) :
    ∃ front c, l = front ++ [c] ∧ isBlank c = false := by
  rcases h with rfl | ⟨_, k, hl⟩
  · exact absurd rfl hne
  · rcases trimEnd_eq_nil_or (trimStart l) with hnil | ⟨as, c, hc, htrim⟩
    · exact absurd hnil hne
    · refine ⟨List.replicate (4 * k) ' ' ++ as, c, ?_, hc⟩
      rw [List.append_assoc, ← htrim]
      exact hl

theorem indented_indentFrom {ls : List (List Char)} (h : Layable ls) (depth : Nat) :
    ∀ l ∈ indentFrom depth ls, Indented l := by
  induction ls generalizing depth with
  | nil => exact nofun
  | cons l ls ih =>
    obtain ⟨⟨ht, _⟩, hls⟩ := List.forall_mem_cons.1 h
    rw [indentFrom]
    split
    · exact List.forall_mem_cons.2 ⟨.inl rfl, ih hls depth⟩
    · next hl =>
      refine List.forall_mem_cons.2 ⟨.inr ?_, ih hls _⟩
      rw [trim_indentLine, show trim l = l from ht]
      exact ⟨by simpa using hl, _, indentLine_eq _ l⟩

/-- The lines of a result, each ended by a line feed. Trimmed, they have the even spacing. -/
theorem exists_lines (text : List Char) : ∃ ls, reindentChars text = unlines ls ∧
    pieces (· == '\n') (reindentChars text) = ls ++ [[]] ∧
    ls.map trim = unspaced (evened (spacing text)) ∧ ∀ l ∈ ls, Indented l := by
  refine ⟨_, rfl, pieces_reindentChars text, ?_, indented_indentFrom (layable_squeeze text) 0⟩
  rw [map_trim_indentFrom (layable_squeeze text), squeeze_eq]
  rfl

/-- Even spacing starts with a line that says something. -/
theorem head_unspaced (text : List Char) : unspaced (evened (spacing text)) = [] ∨
    ∃ l ls, unspaced (evened (spacing text)) = l :: ls ∧ l ≠ [] := by
  have hsaid := ne_nil_of_mem_evened text
  cases hes : spacing text with
  | nil => exact .inl rfl
  | cons e es =>
    rw [hes] at hsaid
    exact .inr ⟨e.2, unspaced (capped es), by simp [evened], hsaid (0, e.2) List.mem_cons_self⟩

/-- Even spacing ends with a line that says something. -/
theorem last_unspaced (text : List Char) : unspaced (evened (spacing text)) = [] ∨
    ∃ ls l, unspaced (evened (spacing text)) = ls ++ [l] ∧ l ≠ [] := by
  have hsaid := ne_nil_of_mem_evened text
  rcases List.eq_nil_or_concat (evened (spacing text)) with hes | ⟨es, e, hes⟩
  · exact .inl (by rw [hes]; rfl)
  · rw [hes] at hsaid ⊢
    refine .inr ⟨unspaced es ++ List.replicate e.1 [], e.2, ?_, hsaid e (by simp)⟩
    simp [unspaced]

/-! ## The form of results -/

/-- What can be seen of a text that was laid out. -/
structure LaidOut (text result : String) : Prop where
  /-- The same is said, in the same order: what stands in the lines that are not blank, trimmed. -/
  lines : spoken result.toList = spoken text.toList
  /-- Above a line there is one blank line if there were any, and none otherwise; there is none above
  the first line. -/
  gaps : spacing result.toList = evened (spacing text.toList)
  /-- The first line is not blank. -/
  starts : result = "" ∨ ∃ l ls, pieces (· == '\n') result.toList = l :: ls ∧ trim l ≠ []
  /-- One line feed stands at the end, behind a character that is no blank. -/
  ends : result = "" ∨ ∃ front c, result.toList = front ++ [c, '\n'] ∧ isBlank c = false
  /-- Every line stands behind a multiple of four spaces, and none has blanks at its end. -/
  indented : ∀ l ∈ pieces (· == '\n') result.toList, Indented l
  /-- Laying it out again changes nothing. -/
  again : reindent result = result

/-- **Every text is brought into this form**, whatever stands in it. -/
theorem laidOut_reindent (text : String) : LaidOut text (reindent text) := by
  obtain ⟨ls, hresult, hpieces, htrim, hindented⟩ := exists_lines text.toList
  have hchars : (reindent text).toList = reindentChars text.toList := String.toList_ofList
  have hempty : unspaced (evened (spacing text.toList)) = [] → reindent text = "" := by
    intro hnil
    rw [hnil, List.map_eq_nil_iff] at htrim
    rw [reindent, hresult, htrim]
    rfl
  constructor
  case lines => rw [hchars, spoken_reindent]
  case gaps => rw [hchars, spacing_reindent]
  case starts =>
    refine (head_unspaced text.toList).imp hempty ?_
    rintro ⟨l, rest, hfirst, hl⟩
    obtain ⟨m, ms, rfl, rfl, rfl⟩ := List.map_eq_cons_iff.1 (htrim.trans hfirst)
    exact ⟨m, ms ++ [[]], by rw [hchars, hpieces]; rfl, hl⟩
  case ends =>
    refine (last_unspaced text.toList).imp hempty ?_
    rintro ⟨rest, l, hlast, hl⟩
    obtain ⟨ms, m', rfl, rfl, hm⟩ := List.map_eq_append_iff.1 (htrim.trans hlast)
    obtain ⟨m, rfl, rfl⟩ := List.map_eq_singleton_iff.1 hm
    obtain ⟨front, c, rfl, hc⟩ := (hindented m (by simp)).ends hl
    refine ⟨unlines ms ++ front, c, ?_, hc⟩
    rw [hchars, hresult]
    simp [unlines]
  case indented =>
    rw [hchars, hpieces]
    intro l hl
    rcases List.mem_append.1 hl with hl | hl
    · exact hindented l hl
    · exact .inl (List.mem_singleton.1 hl)
  case again => exact reindent_reindent text

end QmlExport.Code
