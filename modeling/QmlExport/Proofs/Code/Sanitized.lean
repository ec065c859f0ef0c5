import Mathlib.Data.List.Rotate
import QmlExport.Proofs.Code.Identities

/-!
# Sanitized names

`sanitize` brings every name into one form, that of identifiers, and there are two ways to get there:

    letters and digits, some letter     ──turned by the digits in front──▶ identifier
    digits only, or nothing at all      ──placeholder for the first one──▶ identifier

A name with a letter loses nothing but what is neither letter nor digit (`toList_sanitize_of_letter`),
one without keeps its digits but for the first (`toList_sanitize_of_no_letter`).

**Identifiers are exactly the names that are left as they are** (`sanitize_eq_self_iff`), so nothing
happens to a name that was sanitized before. `Sanitized` lists what is known of a result; every result
has all of it (`sanitized_sanitize`).
-/

namespace QmlExport.Identifier

/-! ## Fixed points -/

/-- **Identifiers are exactly what is left as it is.** -/
theorem sanitize_eq_self_iff (name : String) : sanitize name = name ↔ IsIdentifier name := by
  constructor
  · intro h
    rw [← h]
    exact isIdentifier_sanitize name
  · exact sanitize_of_isIdentifier

/-! ## Names with a letter -/

/-- Whether there is a letter is seen from the letters and digits alone. -/
theorem any_core (name : String) : (core name).any Char.isAlpha = name.toList.any Char.isAlpha := by
  have hletter : (fun c : Char => c.isAlphanum && c.isAlpha) = Char.isAlpha := by
    funext c
    cases hc : c.isAlpha <;> simp [Char.isAlphanum, hc]
  rw [core, List.any_filter, hletter]

/-- How many digits stand in front. -/
def leading (cs : List Char) : Nat := (cs.takeWhile Char.isDigit).length

/-- Moving the digits at the front to the end is turning the whole row. -/
theorem rotateDigits_eq_rotate (cs : List Char) : rotateDigits cs = cs.rotate (leading cs) := by
  have hturn := List.rotate_append_length_eq (cs.takeWhile Char.isDigit) (cs.dropWhile Char.isDigit)
  rw [List.takeWhile_append_dropWhile] at hturn
  exact hturn.symm

theorem toList_sanitize_of_letter {name : String} (h : name.toList.any Char.isAlpha) :
    (sanitize name).toList = (core name).rotate (leading (core name)) := by
  rw [toList_sanitize, withLetter, any_core, if_pos h, rotateDigits_eq_rotate]

/-! ## Names without a letter -/

/-- What is kept of a name without a letter are its digits. -/
theorem core_of_no_letter {name : String} (h : ¬ name.toList.any Char.isAlpha) :
    core name = name.toList.filter Char.isDigit := by
  apply List.filter_congr
  intro c hc
  have hletter : c.isAlpha = false :=
    Bool.eq_false_iff.2 fun hletter => h (List.any_eq_true.2 ⟨c, hc, hletter⟩)
  rw [Char.isAlphanum, hletter, Bool.false_or]

theorem toList_sanitize_of_no_letter {name : String} (h : ¬ name.toList.any Char.isAlpha) :
    (sanitize name).toList = placeholder :: (name.toList.filter Char.isDigit).drop 1 := by
  have hcore : ¬ (core name).any Char.isAlpha := by rwa [any_core]
  rw [toList_sanitize, rotateDigits_withLetter hcore, core_of_no_letter h]

/-! ## Lower case -/

/-- Only the first character of an identifier changes in lower case, and it becomes a small letter. -/
theorem toList_lowerFirst {name : String} (h : IsIdentifier name) :
    ∃ c cs, name.toList = c :: cs ∧ (lowerFirst name).toList = c.toLower :: cs ∧
      c.toLower.isLower := by
  obtain ⟨c, cs, hname, hc, _⟩ := h
  refine ⟨c, cs, hname, ?_, isLower_toLower hc⟩
  rw [lowerFirst, hname, String.toList_ofList]

theorem isIdentifier_lowerFirst {name : String} (h : IsIdentifier name) :
    IsIdentifier (lowerFirst name) := by
  obtain ⟨c, cs, hname, hlower, hc⟩ := toList_lowerFirst h
  obtain ⟨d, ds, hname', _, hall⟩ := h
  obtain ⟨rfl, rfl⟩ := List.cons.inj (hname.symm.trans hname')
  refine ⟨c.toLower, cs, hlower, ?_, List.forall_mem_cons.2 ⟨isAlphanum_of_isLower hc, ?_⟩⟩
  · exact Bool.or_eq_true_iff.2 (.inr hc)
  · exact (List.forall_mem_cons.1 hall).2

/-! ## Results -/

/-- What is known of the identifier that a name is turned into. -/
structure Sanitized (name result : String) : Prop where
  /-- ASCII letters and digits, a letter first. -/
  form : IsIdentifier result
  /-- The name is left as it is if and only if it has this form already. -/
  fixed_iff : result = name ↔ IsIdentifier name
  /-- The result is left as it is. -/
  again : sanitize result = result
  /-- Of a name with a letter all letters and digits are there, turned by the digits in front; of any
  other name there are the digits but for the first one, behind the placeholder. -/
  characters : result.toList =
    if name.toList.any Char.isAlpha then (core name).rotate (leading (core name))
    else placeholder :: (name.toList.filter Char.isDigit).drop 1
  /-- In lower case it is an identifier still. -/
  lowered : IsIdentifier (lowerFirst result)
  /-- The first character is then a small letter, and the others are the same as before. -/
  small : ∃ c cs, result.toList = c :: cs ∧ (lowerFirst result).toList = c.toLower :: cs ∧
    c.toLower.isLower

/-- **Every name is turned into an identifier, and identifiers into themselves.** -/
theorem sanitized_sanitize (name : String) : Sanitized name (sanitize name) where
  form := isIdentifier_sanitize name
  fixed_iff := sanitize_eq_self_iff name
  again := sanitize_of_isIdentifier (isIdentifier_sanitize name)
  characters := by
    by_cases h : name.toList.any Char.isAlpha
    · rw [if_pos h]
      exact toList_sanitize_of_letter h
    · rw [if_neg h]
      exact toList_sanitize_of_no_letter h
  lowered := isIdentifier_lowerFirst (isIdentifier_sanitize name)
  small := toList_lowerFirst (isIdentifier_sanitize name)

end QmlExport.Identifier
