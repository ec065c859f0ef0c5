import QmlExport.Proofs.Code.Layout
import QmlExport.Proofs.Code.Literals

/-!
# Delimiters

What the delimiters of a line do, for the kinds of lines that code is made of. A *quiet* text has no
braces, brackets and quotes. It opens and closes nothing, and no more does a literal, whatever stands
in it, for the scan leaves a literal where it was meant to end (`scan_quoteChars`).

A line is *even* if it closes what it opens. Along the lines of a text the depth is *steady* if no
line closes more than is open.
-/

namespace QmlExport.Code

open Text

/-- A text without braces, brackets and quotes. -/
def Quiet (cs : List Char) : Prop := ∀ c ∈ cs, c ∉ ['{', '}', '[', ']', '"']

instance (cs : List Char) : Decidable (Quiet cs) := List.decidableBAll _ _

theorem Quiet.append {as bs : List Char} (ha : Quiet as) (hb : Quiet bs) : Quiet (as ++ bs) := by
  intro c hc
  rcases List.mem_append.1 hc with hc | hc
  · exact ha c hc
  · exact hb c hc

theorem Quiet.subset {cs ds : List Char} (h : Quiet cs) (hsub : ∀ c ∈ ds, c ∈ cs) : Quiet ds :=
  fun c hc => h c (hsub c hc)

/-- A text of letters and digits is quiet. -/
theorem quiet_of_isAlphanum {cs : List Char} (h : ∀ c ∈ cs, c.isAlphanum) : Quiet cs := by
  intro c hc hmem
  have hall : ['{', '}', '[', ']', '"'].all fun d => !d.isAlphanum := by decide
  have hother := List.all_eq_true.1 hall c hmem
  simp [h c hc] at hother

namespace Delimiters

/-- As much is closed as is opened, and nothing before anything else stands on the line. -/
def Even (d : Delimiters) : Prop := d.opens = d.closes ∧ d.leading = 0

/-- A quiet text in front can only tell that the line has begun. -/
theorem scan_quiet {cs : List Char} (h : Quiet cs) (led : Bool) (rest : List Char) :
    ∃ led', scan .code led (cs ++ rest) = scan .code led' rest := by
  induction cs generalizing led with
  | nil => exact ⟨led, rfl⟩
  | cons c cs ih =>
    obtain ⟨hc, hcs⟩ := List.forall_mem_cons.1 h
    obtain ⟨hopen, hclose, hbracket, hend, hquote⟩ :
        c ≠ '{' ∧ c ≠ '}' ∧ c ≠ '[' ∧ c ≠ ']' ∧ c ≠ '"' := by simpa using hc
    rw [List.cons_append, scan, if_neg hquote, if_neg (by simp [hopen, hbracket]),
      if_neg (by simp [hclose, hend])]
    split
    · exact ih hcs led
    · exact ih hcs true

/-- **A quiet line opens and closes nothing.** -/
theorem ofLine_of_quiet {cs : List Char} (h : Quiet cs) : ofLine cs = ⟨0, 0, 0⟩ := by
  obtain ⟨led, hscan⟩ := scan_quiet h false []
  rw [List.append_nil] at hscan
  rw [ofLine, hscan, scan]

/-- A quiet line that ends in a brace opens a block. -/
theorem ofLine_opening {cs : List Char} (h : Quiet cs) : ofLine (cs ++ ['{']) = ⟨1, 0, 0⟩ := by
  obtain ⟨led, hscan⟩ := scan_quiet h false ['{']
  rw [ofLine, hscan]
  rfl

/-- Inside a literal only its end counts. -/
theorem scan_escaped (cs : List Char) (led : Bool) (rest : List Char) :
    scan .literal led (escaped cs ++ '"' :: rest) = scan .code led rest := by
  induction cs with
  | nil => rfl
  | cons c cs ih =>
    rw [escaped_cons, List.append_assoc, ← ih]
    unfold escapeChar
    split
    · rfl
    · rfl
    · rfl
    · rfl
    · next hq hb _ _ =>
      have hquote : c ≠ '"' := fun heq => hq heq
      have hback : c ≠ '\\' := fun heq => hb heq
      rw [List.singleton_append, scan, if_neg hback, if_neg hquote]

/-- **A literal opens and closes nothing**, whatever stands in it. -/
theorem scan_quoteChars (cs : List Char) (led : Bool) (rest : List Char) :
    scan .code led (quoteChars cs ++ rest) = scan .code true rest := by
  have hsplit : quoteChars cs ++ rest = '"' :: (escaped cs ++ '"' :: rest) := by
    simp [quoteChars_eq]
  rw [hsplit, scan, if_pos rfl, scan_escaped]

/-- A quiet text with a literal behind it opens and closes nothing. -/
theorem ofLine_quoted {name : List Char} (h : Quiet name) (cs : List Char) :
    ofLine (name ++ quoteChars cs) = ⟨0, 0, 0⟩ := by
  obtain ⟨led, hscan⟩ := scan_quiet h false (quoteChars cs)
  have hquote := scan_quoteChars cs led []
  rw [List.append_nil] at hquote
  rw [ofLine, hscan, hquote, scan]

end Delimiters

/-! ## Depth -/

/-- Along the lines, starting at a depth, no line closes more than is open, and after them the depth
is `last`. -/
inductive Steady : Nat → List (List Char) → Nat → Prop
  | nil (depth : Nat) : Steady depth [] depth
  | cons {depth last : Nat} {l : List Char} {ls : List (List Char)}
      (leading : (Delimiters.ofLine l).leading ≤ depth)
      (closes : (Delimiters.ofLine l).closes ≤ depth + (Delimiters.ofLine l).opens)
      (rest : Steady ((Delimiters.ofLine l).after depth) ls last) : Steady depth (l :: ls) last

theorem Steady.append {depth middle last : Nat} {ls ms : List (List Char)}
    (h : Steady depth ls middle) (h' : Steady middle ms last) : Steady depth (ls ++ ms) last := by
  induction h with
  | nil => exact h'
  | cons leading closes _ ih => exact .cons leading closes (ih h')

/-- Lines behind others are indented from the depth that those leave. -/
theorem indentFrom_append {depth middle : Nat} {ls : List (List Char)}
    (h : Steady depth ls middle) (hne : ∀ l ∈ ls, l ≠ []) (ms : List (List Char)) :
    indentFrom depth (ls ++ ms) = indentFrom depth ls ++ indentFrom middle ms := by
  induction h with
  | nil => rfl
  | cons _ _ _ ih =>
    obtain ⟨hl, hls⟩ := List.forall_mem_cons.1 hne
    simp only [List.cons_append, indentFrom, if_neg (show ¬ List.isEmpty _ by simpa using hl),
      ih hls]

end QmlExport.Code
