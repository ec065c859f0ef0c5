import QmlExport.Proofs.Json.Tokens
import QmlExport.Proofs.Text.Octets

/-!
# Reading back what is printed: values

The parser turns the tokens of a value back into that value, whatever is open around it:

    assemble (v.tokens ++ ts) .value stack = assemble ts (.after v) stack

With `Writes.tokens_document` and `Utf8.decode_encode` this closes the circle: **every writable value
is read back from the octets of its text** (`parse_compact`).
-/

namespace QmlExport.Json

open Text

/-! ## Assembling -/

/-- The tokens of a value start with one that starts a value. -/
theorem tokens_eq_cons (v : Value) :
    ∃ t ts next, v.tokens = t :: ts ∧ starting? t = some next ∧ t ≠ .closeArray := by
  match v with
  | .null | .bool _ | .number _ | .string _ => exact ⟨_, _, _, rfl, rfl, by simp⟩
  | .array [] | .array (_ :: _) => exact ⟨_, _, _, rfl, rfl, by simp⟩
  | .object [] | .object ((_, _) :: _) => exact ⟨_, _, _, rfl, rfl, by simp⟩

/-- Where an array is open, its first item is read like any other. -/
theorem assemble_firstItem (v : Value) (ts : List Token) (stack : List Frame) :
    assemble (v.tokens ++ ts) .firstItem stack =
      assemble (v.tokens ++ ts) .value (.items [] :: stack) := by
  obtain ⟨t, us, next, htokens, hstart, hne⟩ := tokens_eq_cons v
  rw [htokens, List.cons_append, assemble, assemble, if_neg hne, hstart]

mutual
/-- **The tokens of a value are assembled to that value.** -/
theorem assemble_tokens (v : Value) (ts : List Token) (stack : List Frame) :
    assemble (v.tokens ++ ts) .value stack = assemble ts (.after v) stack := by
  match v with
  | .null | .bool _ | .number _ | .string _ => rfl
  | .array [] | .object [] => rfl
  | .array (v :: vs) =>
    rw [Value.tokens, List.append_assoc, List.cons_append, List.cons_append]
    show assemble ((v.tokens ++ tokensOfItems vs) ++ _) .firstItem stack = _
    rw [List.append_assoc, assemble_firstItem, assemble_tokens v]
    exact assemble_tokensOfItems vs v [] ts stack
  | .object ((k, v) :: ms) =>
    rw [Value.tokens]
    simp only [List.append_assoc, List.cons_append]
    show assemble (v.tokens ++ _) .value (.member [] k :: stack) = _
    rw [assemble_tokens v]
    exact assemble_tokensOfMembers ms v k [] ts stack

theorem assemble_tokensOfItems (vs : List Value) (v : Value) (before : List Value)
    (ts : List Token) (stack : List Frame) :
    assemble (tokensOfItems vs ++ .closeArray :: ts) (.after v) (.items before :: stack) =
      assemble ts (.after (.array (before.reverse ++ v :: vs))) stack := by
  match vs with
  | [] =>
    show assemble ts (.after (.array (v :: before).reverse)) stack = _
    rw [List.reverse_cons]
  | w :: vs =>
    rw [tokensOfItems]
    simp only [List.append_assoc, List.cons_append]
    show assemble (w.tokens ++ _) .value (.items (v :: before) :: stack) = _
    rw [assemble_tokens w, assemble_tokensOfItems vs w (v :: before) ts stack, List.reverse_cons,
      List.append_assoc]
    rfl

theorem assemble_tokensOfMembers (ms : List (Option String × Value)) (v : Value)
    (k : Option String) (before : List (Option String × Value)) (ts : List Token)
    (stack : List Frame) :
    assemble (tokensOfMembers ms ++ .closeObject :: ts) (.after v) (.member before k :: stack) =
      assemble ts (.after (.object (before.reverse ++ (k, v) :: ms))) stack := by
  match ms with
  | [] =>
    show assemble ts (.after (.object ((k, v) :: before).reverse)) stack = _
    rw [List.reverse_cons]
  | (l, w) :: ms =>
    rw [tokensOfMembers]
    simp only [List.append_assoc, List.cons_append]
    show assemble (w.tokens ++ _) .value (.member ((k, v) :: before) l :: stack) = _
    rw [assemble_tokens w, assemble_tokensOfMembers ms w l ((k, v) :: before) ts stack,
      List.reverse_cons, List.append_assoc]
    rfl
end

/-! ## Documents -/

/-- **A value is read back from a text that writes it**, also when a new line ends the text. -/
theorem Writes.parse {s : List Char} {v : Value} (h : Writes s v) {ending : List Char}
    (hending : ending = [] ∨ ending = ['\n']) :
    parse (Utf8.encode (String.ofList (s ++ ending))) = some v := by
  unfold Json.parse parseSource
  rw [Utf8.decode_encode, String.toList_ofList, h.tokens_document hending]
  show assemble v.tokens .value [] = some v
  rw [← List.append_nil v.tokens, assemble_tokens]
  rfl

/-- **A writable value is read back from its printed text.** -/
theorem parse_compact (v : Value) (hv : v.Writable) :
    parse (Utf8.encode v.compact) = some v := by
  rw [Value.compact, ← List.append_nil v.render]
  exact (writes_render hv).parse (.inl rfl)

end QmlExport.Json
