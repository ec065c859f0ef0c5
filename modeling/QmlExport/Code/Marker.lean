/-!
# Markers

Design tools wrap enumeration constants as `ENUM(Text.WordWrap)`. `unwrap` takes the markers off:
of each `ENUM(` that is followed by a closing parenthesis on its line it keeps what stands between,
up to the first such parenthesis, and goes on behind it. Everything else stays.
-/

namespace QmlExport.Code

/-- What stands before and after the first closing parenthesis of the current line. -/
def closing : List Char → Option (List Char × List Char)
  | [] => none
  | c :: cs =>
    if c = ')' then some ([], cs)
    else if c = '\n' then none
    else (closing cs).map fun (inner, rest) => (c :: inner, rest)

theorem closing_eq_some {cs inner rest : List Char} (h : closing cs = some (inner, rest)) :
    cs = inner ++ ')' :: rest := by
  induction cs generalizing inner with
  | nil => simp [closing] at h
  | cons c cs ih =>
    rw [closing] at h
    split at h
    · next hc => simp at h; obtain ⟨rfl, rfl⟩ := h; simp [hc]
    · split at h
      · simp at h
      · obtain ⟨⟨i, r⟩, hi, he⟩ := Option.map_eq_some_iff.1 h
        simp at he
        obtain ⟨rfl, rfl⟩ := he
        simp [ih hi]

theorem length_closing_lt {cs inner rest : List Char} (h : closing cs = some (inner, rest)) :
    rest.length < cs.length := by
  rw [closing_eq_some h]; simp; omega

/-- Unwrap every marker of a text, as characters. -/
def unwrapChars : List Char → List Char
  | 'E' :: 'N' :: 'U' :: 'M' :: '(' :: cs =>
    match _h : closing cs with
    | some (inner, rest) => inner ++ unwrapChars rest
    | none => 'E' :: unwrapChars ('N' :: 'U' :: 'M' :: '(' :: cs)
  | c :: cs => c :: unwrapChars cs
  | [] => []
termination_by cs => cs.length
decreasing_by
  · have := length_closing_lt ‹_›; simp; omega
  · simp
  · simp

/-- Unwrap every marker of a text. -/
def unwrap (text : String) : String := String.ofList (unwrapChars text.toList)

end QmlExport.Code
