import QmlExport.Proofs.Json.RoundTrip

/-!
# Reading back what is laid out over lines

On several lines a value has the tokens that it has on one: new lines and indents stand between
tokens only, behind `[`, `{` and `,`, in front of `]` and `}`, and one blank behind `:`. So the text
over lines writes the value as well (`writes_renderAt`), and **is read back as the value**
(`parse_pretty`).
-/

namespace QmlExport.Json

open Text

/-! ## Blanks -/

theorem isSpace_newLine (level : Nat) : ∀ c ∈ newLine level, isSpace c := by
  intro c hc
  rcases List.mem_cons.1 hc with rfl | hc
  · decide
  · rw [List.eq_of_mem_replicate hc]
    decide

theorem tokens_newLine (level : Nat) (cs : Source) :
    tokens ((newLine level).map some ++ cs) = tokens cs :=
  tokens_blanks (isSpace_newLine level) cs

/-- A colon and the blank behind it. -/
theorem tokens_colon (cs : Source) :
    tokens (some ':' :: some ' ' :: cs) = (tokens cs).map (.colon :: ·) := by
  have hblank : ∀ c ∈ [' '], isSpace c := List.forall_mem_singleton.2 rfl
  rw [tokens_punctuation (t := .colon) (by decide), ← tokens_blanks hblank cs]
  rfl

theorem apart_newLine (level : Nat) (cs : Source) : Apart ((newLine level).map some ++ cs) :=
  apart_cons (by decide)

theorem apart_renderItemsAt (level : Nat) (vs : List Value) {cs : Source} (hcs : Apart cs) :
    Apart ((renderItemsAt level vs).map some ++ cs) := by
  cases vs with
  | nil => exact hcs
  | cons v vs => exact apart_cons (by decide)

theorem apart_renderMembersAt (level : Nat) (ms : List (Option String × Value)) {cs : Source}
    (hcs : Apart cs) : Apart ((renderMembersAt level ms).map some ++ cs) := by
  cases ms with
  | nil => exact hcs
  | cons m ms => exact apart_cons (by decide)

/-! ## Values -/

mutual
/-- **A value over several lines is cut into its tokens.** -/
theorem writes_renderAt (level : Nat) (v : Value) (hv : v.Writable) :
    Writes (v.renderAt level) v := by
  intro cs hcs
  match v with
  | .null | .bool _ | .number _ | .string _ => exact writes_render hv cs hcs
  | .array [] | .object [] => exact writes_render hv cs hcs
  | .array (v :: vs) =>
    have hend := apart_newLine level (some ']' :: cs)
    simp only [Value.renderAt, List.map_cons, List.map_append, List.map_nil, List.cons_append,
      List.append_assoc, List.nil_append]
    rw [tokens_punctuation (t := .openArray) (by decide), tokens_newLine,
      writes_renderAt (level + 1) v hv.1 _ (apart_renderItemsAt level vs hend),
      tokens_renderItemsAt level vs hv.2 hend, tokens_newLine,
      tokens_punctuation (t := .closeArray) (by decide)]
    simp only [Option.map_map, Function.comp_def, Value.tokens, List.cons_append,
      List.append_assoc, List.nil_append]
  | .object ((k, v) :: ms) =>
    have hend := apart_newLine level (some '}' :: cs)
    simp only [Value.renderAt, List.map_cons, List.map_append, List.map_nil, List.cons_append,
      List.append_assoc, List.nil_append]
    rw [tokens_punctuation (t := .openObject) (by decide), tokens_newLine, tokens_text hv.1,
      tokens_colon, writes_renderAt (level + 1) v hv.2.1 _ (apart_renderMembersAt level ms hend),
      tokens_renderMembersAt level ms hv.2.2 hend, tokens_newLine,
      tokens_punctuation (t := .closeObject) (by decide)]
    simp only [Option.map_map, Function.comp_def, Value.tokens, List.cons_append,
      List.append_assoc, List.nil_append]

theorem tokens_renderItemsAt (level : Nat) (vs : List Value) (hvs : WritableItems vs)
    {cs : Source} (hcs : Apart cs) :
    tokens ((renderItemsAt level vs).map some ++ cs) = (tokens cs).map (tokensOfItems vs ++ ·) := by
  match vs with
  | [] => exact Option.map_id'.symm
  | v :: vs =>
    simp only [renderItemsAt, List.map_cons, List.map_append, List.cons_append, List.append_assoc]
    rw [tokens_punctuation (t := .comma) (by decide), tokens_newLine,
      writes_renderAt (level + 1) v hvs.1 _ (apart_renderItemsAt level vs hcs),
      tokens_renderItemsAt level vs hvs.2 hcs]
    simp only [Option.map_map, Function.comp_def, tokensOfItems, List.cons_append,
      List.append_assoc]

theorem tokens_renderMembersAt (level : Nat) (ms : List (Option String × Value))
    (hms : WritableMembers ms) {cs : Source} (hcs : Apart cs) :
    tokens ((renderMembersAt level ms).map some ++ cs) =
      (tokens cs).map (tokensOfMembers ms ++ ·) := by
  match ms with
  | [] => exact Option.map_id'.symm
  | (k, v) :: ms =>
    simp only [renderMembersAt, List.map_cons, List.map_append, List.cons_append,
      List.append_assoc]
    rw [tokens_punctuation (t := .comma) (by decide), tokens_newLine, tokens_text hms.1,
      tokens_colon, writes_renderAt (level + 1) v hms.2.1 _ (apart_renderMembersAt level ms hcs),
      tokens_renderMembersAt level ms hms.2.2 hcs]
    simp only [Option.map_map, Function.comp_def, tokensOfMembers, List.cons_append,
      List.append_assoc]
end

/-- **A writable value is read back from its text over several lines.** -/
theorem parse_pretty (v : Value) (hv : v.Writable) :
    parse (Utf8.encode v.pretty) = some v := by
  rw [Value.pretty, ← List.append_nil (v.renderAt 0)]
  exact (writes_renderAt 0 v hv).parse (.inl rfl)

end QmlExport.Json
