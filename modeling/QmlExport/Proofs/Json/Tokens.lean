import QmlExport.Json.Parser
import QmlExport.Json.Printer
import QmlExport.Proofs.Decimal.Digits

/-!
# Reading back what is printed: tokens

`Value.tokens` is the row of tokens that a value is printed as, and the lexer gives exactly that
row back:

    tokens (v.render.map some ++ cs) = (tokens cs).map (v.tokens ++ ·)

for every `Writable` value `v` and every continuation `cs` that does not go on a number
(`tokens_render`). A value is writable when its strings are texts and its numerals are printable.
-/

namespace QmlExport.Json

open QmlExport.Decimal

/-! ## Writable values and their tokens -/

mutual
/-- Every string is a text and every numeral is one that readers accept, all the way down. -/
def Value.Writable : Value → Prop
  | .number n => n.Printable
  | .string t => t.isSome
  | .array items => WritableItems items
  | .object members => WritableMembers members
  | _ => True

/-- `Writable` for all items. -/
def WritableItems : List Value → Prop
  | [] => True
  | v :: vs => v.Writable ∧ WritableItems vs

/-- `Writable` for all members and their names. -/
def WritableMembers : List (Option String × Value) → Prop
  | [] => True
  | (k, v) :: ms => k.isSome ∧ v.Writable ∧ WritableMembers ms
end

mutual
/-- The tokens that a value is printed as. -/
def Value.tokens : Value → List Token
  | .null => [.null]
  | .bool b => [.bool b]
  | .number n => [.number n]
  | .string t => [.string t]
  | .array [] => [.openArray, .closeArray]
  | .array (v :: vs) => .openArray :: v.tokens ++ tokensOfItems vs ++ [.closeArray]
  | .object [] => [.openObject, .closeObject]
  | .object ((k, v) :: ms) =>
    .openObject :: .string k :: .colon :: v.tokens ++ tokensOfMembers ms ++ [.closeObject]

/-- The tokens of further items. -/
def tokensOfItems : List Value → List Token
  | [] => []
  | v :: vs => .comma :: v.tokens ++ tokensOfItems vs

/-- The tokens of further members. -/
def tokensOfMembers : List (Option String × Value) → List Token
  | [] => []
  | (k, v) :: ms => .comma :: .string k :: .colon :: v.tokens ++ tokensOfMembers ms
end

/-! ## String literals -/

/-- A piece that is read where a character was written, and that spells it. -/
structure Stands (p : Piece) (c : Char) : Prop where
  read : ∀ cs, literal ((escapeChar c).map some ++ cs) =
    (literal cs).map fun (ps, rest) => (p :: ps, rest)
  spell : ∀ ps, spell (p :: ps) = (spell ps).map (c :: ·)

/-- Four digits name every control character. -/
theorem hex4?_control : ∀ n < 32, hex4? '0' '0' (hexDigit (n / 16)) (hexDigit (n % 16)) = some n := by
  decide

theorem spell_char (c : Char) (ps : List Piece) :
    spell (.char c :: ps) = (spell ps).map (c :: ·) := by
  rw [spell]

/-- An escaped unit below the surrogates stands for itself, whatever follows. -/
theorem spell_unit {n : Nat} (hn : n < 0xD800) (ps : List Piece) :
    spell (.unit n :: ps) = (spell ps).map (Char.ofNat n :: ·) := by
  have hhigh : isHighSurrogate n = false := by simp [isHighSurrogate]; omega
  have hlow : isLowSurrogate n = false := by simp [isLowSurrogate]; omega
  cases ps with
  | nil => simp [spell, hhigh, hlow]
  | cons p ps =>
    cases p with
    | char c => simp [spell, hhigh, hlow]
    | unit m => rw [spell]; simp [hhigh, hlow]
    | malformed => simp [spell, hhigh, hlow]

/-- A character with an escape of one letter. -/
theorem stands_letter {c e : Char} (hw : escapeChar c = ['\\', e]) (he : escaped? e = some c) :
    Stands (.char c) c where
  read cs := by
    have hu : e ≠ 'u' := by
      rintro rfl
      simp [escaped?] at he
    rw [hw]
    simp only [List.map_cons, List.map_nil, List.cons_append, List.nil_append]
    rw [literal]
    · rw [he]
      exact Option.map_eq_bind.symm
    · exact fun _ _ _ _ _ _ => hu
  spell := spell_char c

/-- A control character without an escape of its own. -/
theorem stands_control {c : Char} (hc : c.toNat < 0x20)
    (hw : escapeChar c =
      ['\\', 'u', '0', '0', hexDigit (c.toNat / 16), hexDigit (c.toNat % 16)]) :
    Stands (.unit c.toNat) c where
  read cs := by
    rw [hw]
    simp only [List.map_cons, List.map_nil, List.cons_append, List.nil_append]
    rw [literal, hex4?_control c.toNat hc]
    exact Option.map_eq_bind.symm
  spell ps := by
    rw [spell_unit (by omega), Char.ofNat_toNat]

/-- A character that is written as it is. -/
theorem stands_itself {c : Char} (hq : c ≠ '"') (hb : c ≠ '\\') (hc : ¬ c.toNat < 0x20)
    (hw : escapeChar c = [c]) : Stands (.char c) c where
  read cs := by
    rw [hw]
    simp only [List.map_cons, List.map_nil, List.cons_append, List.nil_append]
    rw [literal]
    · rw [if_neg (by simp [hb, hc])]
      exact Option.map_eq_bind.symm
    · exact hq
    · exact fun _ _ _ _ _ _ => hb
    · exact fun _ _ _ => hb
  spell := spell_char c

/-- Every character is written as some piece. -/
theorem exists_stands (c : Char) : ∃ p, Stands p c := by
  by_cases hc : c ∈ ['"', '\\', '\n', '\r', '\t', '\x08', '\x0c']
  · refine ⟨.char c, ?_⟩
    simp only [List.mem_cons, List.not_mem_nil, or_false] at hc
    rcases hc with rfl | rfl | rfl | rfl | rfl | rfl | rfl
    all_goals exact stands_letter rfl rfl
  · have hw : escapeChar c =
        if c.toNat < 0x20 then
          ['\\', 'u', '0', '0', hexDigit (c.toNat / 16), hexDigit (c.toNat % 16)]
        else [c] := by
      unfold escapeChar
      split <;> simp_all
    by_cases hlow : c.toNat < 0x20
    · rw [if_pos hlow] at hw
      exact ⟨_, stands_control hlow hw⟩
    · rw [if_neg hlow] at hw
      refine ⟨_, stands_itself ?_ ?_ hlow hw⟩
      · rintro rfl
        exact hc (by decide)
      · rintro rfl
        exact hc (by decide)

/-- **A string literal is read back.** -/
theorem literal_renderString (s : String) (cs : Source) :
    ∃ ps, literal ((s.toList.flatMap escapeChar).map some ++ some '"' :: cs) = some (ps, cs) ∧
      spell ps = some s.toList := by
  induction s.toList with
  | nil => exact ⟨[], rfl, rfl⟩
  | cons c s ih =>
    obtain ⟨ps, hread, hspell⟩ := ih
    obtain ⟨p, hp⟩ := exists_stands c
    refine ⟨p :: ps, ?_, ?_⟩
    · rw [List.flatMap_cons, List.map_append, List.append_assoc, hp.read, hread]
      rfl
    · rw [hp.spell, hspell]
      rfl

/-! ## Numerals -/

/-- What follows does not go on a number. -/
def Apart (cs : Source) : Prop :=
  ∀ c, cs.head? = some (some c) → c.isDigit = false ∧ c ≠ '.' ∧ c ≠ 'e' ∧ c ≠ 'E'

theorem apart_nil : Apart [] := by
  intro c h
  cases h

theorem apart_cons {c : Char} {cs : Source} (hc : c ∈ [',', ']', '}', '\n']) :
    Apart (some c :: cs) := by
  intro d h
  cases h
  simp only [List.mem_cons, List.not_mem_nil, or_false] at hc
  rcases hc with rfl | rfl | rfl | rfl <;> decide

/-- Digits are gathered up to something that is none. -/
theorem digits_append {ds : List Char} (hds : ∀ c ∈ ds, c.isDigit) {cs : Source}
    (hcs : ∀ c, cs.head? = some (some c) → c.isDigit = false) :
    digits (ds.map some ++ cs) = (ds, cs) := by
  induction ds with
  | nil =>
    show digits cs = ([], cs)
    cases cs with
    | nil => rfl
    | cons c cs =>
      cases c with
      | none => rfl
      | some c =>
        rw [digits, if_neg]
        simp [hcs c rfl]
  | cons d ds ih =>
    have hd : d.isDigit := hds d List.mem_cons_self
    rw [List.map_cons, List.cons_append, digits, if_pos hd,
      ih fun c hc => hds c (List.mem_cons_of_mem _ hc)]

theorem digits1?_append {ds : List Char} (hds : Digits ds) {cs : Source}
    (hcs : ∀ c, cs.head? = some (some c) → c.isDigit = false) :
    digits1? (ds.map some ++ cs) = some (ds, cs) := by
  obtain ⟨hne, hall⟩ := hds
  unfold digits1?
  rw [digits_append hall hcs]
  cases ds with
  | nil => exact absurd rfl hne
  | cons d ds => rfl

theorem whole?_append {ds : List Char} (hds : WholeDigits ds) {cs : Source}
    (hcs : ∀ c, cs.head? = some (some c) → c.isDigit = false) :
    whole? (ds.map some ++ cs) = some (ds, cs) := by
  obtain ⟨hds, rfl | hhead⟩ := hds
  · rfl
  · rw [← digits1?_append hds hcs]
    cases ds with
    | nil => exact absurd rfl hds.1
    | cons d ds =>
      rw [List.map_cons, List.cons_append, whole?]
      intro cs' h
      cases h
      exact hhead rfl

/-- What is written of a fraction. -/
def fractionText : Option (List Char) → List Char
  | none => []
  | some ds => '.' :: ds

/-- What is written of an exponent. -/
def exponentText : Option Exponent → List Char
  | none => []
  | some e => e.render

theorem render_numeral (n : Numeral) :
    n.render = (if n.negative then ['-'] else []) ++
      (n.whole ++ (fractionText n.fraction ++ exponentText n.exponent)) := by
  obtain ⟨negative, whole, fraction, exponent⟩ := n
  cases fraction <;> cases exponent <;> simp [Numeral.render, fractionText, exponentText]

/-- Digits alone have no sign. -/
theorem exponentSign_digits {ds : List Char} (hds : Digits ds) (cs : Source) :
    exponentSign (ds.map some ++ cs) = (.unsigned, ds.map some ++ cs) := by
  cases ds with
  | nil => exact absurd rfl hds.1
  | cons d ds =>
    have hd : d.isDigit := hds.2 d List.mem_cons_self
    rw [List.map_cons, List.cons_append, exponentSign]
    · rintro cs' h
      cases h
      exact absurd hd (by decide)
    · rintro cs' h
      cases h
      exact absurd hd (by decide)

theorem exponentBody?_of_sign {sign : ExponentSign} {ds : List Char} (hds : Digits ds)
    {cs body : Source} (hbody : exponentSign body = (sign, ds.map some ++ cs)) (hcs : Apart cs) :
    exponentBody? body = some (some ⟨sign, ds⟩, cs) := by
  unfold exponentBody?
  rw [hbody]
  show (digits1? (ds.map some ++ cs)).map _ = _
  rw [digits1?_append hds fun c hc => (hcs c hc).1]
  rfl

theorem exponent?_append {e : Option Exponent} (hds : ∀ x, e = some x → Digits x.digits)
    {cs : Source} (hcs : Apart cs) : exponent? ((exponentText e).map some ++ cs) = some (e, cs) := by
  cases e with
  | none =>
    show exponent? cs = some (none, cs)
    rw [exponent?]
    · rintro cs' rfl
      exact (hcs 'e' rfl).2.2.1 rfl
    · rintro cs' rfl
      exact (hcs 'E' rfl).2.2.2 rfl
  | some x =>
    have hx := hds x rfl
    obtain ⟨sign, ds⟩ := x
    cases sign with
    | unsigned => exact exponentBody?_of_sign hx (exponentSign_digits hx cs) hcs
    | plus =>
      show exponentBody? (some '+' :: (ds.map some ++ cs)) = _
      exact exponentBody?_of_sign hx rfl hcs
    | minus =>
      show exponentBody? (some '-' :: (ds.map some ++ cs)) = _
      exact exponentBody?_of_sign hx rfl hcs

/-- An exponent, or what follows a number, neither goes on digits nor starts a fraction. -/
theorem head_exponentText {e : Option Exponent} {cs : Source} (hcs : Apart cs) {c : Char}
    (h : ((exponentText e).map some ++ cs).head? = some (some c)) : c.isDigit = false ∧ c ≠ '.' := by
  cases e with
  | none => exact ⟨(hcs c h).1, (hcs c h).2.1⟩
  | some x =>
    obtain ⟨sign, ds⟩ := x
    have hc : 'e' = c := by cases sign <;> exact Option.some.inj (Option.some.inj h)
    subst hc
    decide

theorem fraction?_append {f : Option (List Char)} (hds : ∀ ds, f = some ds → Digits ds)
    {cs : Source} (hcs : ∀ c, cs.head? = some (some c) → c.isDigit = false ∧ c ≠ '.') :
    fraction? ((fractionText f).map some ++ cs) = some (f, cs) := by
  cases f with
  | none =>
    show fraction? cs = some (none, cs)
    rw [fraction?]
    rintro cs' rfl
    exact (hcs '.' rfl).2 rfl
  | some ds =>
    show (digits1? (ds.map some ++ cs)).map _ = _
    rw [digits1?_append (hds ds rfl) fun c hc => (hcs c hc).1]
    rfl

/-- A fraction, or what follows it, does not go on digits. -/
theorem head_fractionText {f : Option (List Char)} {cs : Source}
    (hcs : ∀ c, cs.head? = some (some c) → c.isDigit = false ∧ c ≠ '.') {c : Char}
    (h : ((fractionText f).map some ++ cs).head? = some (some c)) : c.isDigit = false := by
  cases f with
  | none => exact (hcs c h).1
  | some ds =>
    cases h
    rfl

/-- **A printable numeral is read back.** -/
theorem numeral?_append {n : Numeral} (hn : n.Printable) {cs : Source} (hcs : Apart cs) :
    numeral? n.negative
      ((n.whole ++ (fractionText n.fraction ++ exponentText n.exponent)).map some ++ cs) =
      some (n, cs) := by
  have hexponent := fun c => head_exponentText (e := n.exponent) hcs (c := c)
  have hfraction := fun c => head_fractionText (f := n.fraction) hexponent (c := c)
  simp only [List.map_append, List.append_assoc, numeral?]
  rw [whole?_append hn.whole hfraction, Option.bind_eq_bind, Option.bind_some,
    fraction?_append hn.fraction hexponent, Option.bind_eq_bind, Option.bind_some,
    exponent?_append hn.exponent hcs, Option.bind_eq_bind, Option.bind_some]

/-! ## Tokens -/

/-- What a value starts with. -/
theorem token?_number {n : Numeral} (hn : n.Printable) {cs : Source} (hcs : Apart cs) :
    token? (n.render.map some ++ cs) = some (.number n, cs) := by
  have hread := numeral?_append hn hcs
  rw [render_numeral]
  cases hneg : n.negative with
  | true =>
    rw [hneg] at hread
    exact congrArg (Option.map fun r : Numeral × Source => (Token.number r.1, r.2)) hread
  | false =>
    rw [hneg] at hread
    obtain ⟨⟨hne, hall⟩, _⟩ := hn.whole
    cases hw : n.whole with
    | nil => exact absurd hw hne
    | cons d ds =>
      have hd : d.isDigit := hall d (hw ▸ List.mem_cons_self)
      rw [hw] at hread
      -- every other token starts with a character that is no digit
      have hskip : ∀ c : Char, c.isDigit = false → some d ≠ some c := by
        rintro c hc h
        cases h
        rw [hd] at hc
        cases hc
      simp only [Bool.false_eq_true, if_false, List.nil_append]
      unfold token?
      split
      all_goals first
        | (rw [hread]; rfl)
        | (next h => exact absurd (List.cons.inj h).1 (hskip _ (by decide)))

theorem token?_text {t : Option String} (ht : t.isSome) (cs : Source) :
    token? ((renderText t).map some ++ cs) = some (.string t, cs) := by
  obtain ⟨s, rfl⟩ := Option.isSome_iff_exists.1 ht
  obtain ⟨ps, hread, hspell⟩ := literal_renderString s cs
  have hrender : (renderText (some s)).map some ++ cs =
      some '"' :: ((s.toList.flatMap escapeChar).map some ++ some '"' :: cs) := by
    simp [renderText, renderString]
  rw [hrender]
  show (literal _).map _ = _
  rw [hread]
  show some (Token.string ((spell ps).map String.ofList), cs) = _
  rw [hspell, Option.map_some, String.ofList_toList]

/-- One token is taken off a document that does not start with a blank. -/
theorem tokens_step {cs rest : Source} {t : Token} (hs : skipSpace cs = cs)
    (ht : token? cs = some (t, rest)) : tokens cs = (tokens rest).map (t :: ·) := by
  rw [tokens]
  split
  · next h =>
    rw [hs] at h
    rw [h] at ht
    cases ht
  · next c cs' h =>
    rw [hs] at h
    rw [← h, ht]

theorem skipSpace_cons {c : Char} (hc : isSpace c = false) (cs : Source) :
    skipSpace (some c :: cs) = some c :: cs := by
  rw [skipSpace, if_neg (by simp [hc])]

theorem tokens_number {n : Numeral} (hn : n.Printable) {cs : Source} (hcs : Apart cs) :
    tokens (n.render.map some ++ cs) = (tokens cs).map (.number n :: ·) := by
  refine tokens_step ?_ (token?_number hn hcs)
  obtain ⟨⟨hne, hall⟩, _⟩ := hn.whole
  rw [render_numeral]
  split
  · exact skipSpace_cons (by decide) _
  · cases hw : n.whole with
    | nil => exact absurd hw hne
    | cons d ds =>
      have hd : d.isDigit := hall d (hw ▸ List.mem_cons_self)
      refine skipSpace_cons ?_ _
      simp only [isSpace, Bool.or_eq_false_iff, decide_eq_false_iff_not]
      refine ⟨⟨⟨?_, ?_⟩, ?_⟩, ?_⟩
      all_goals
        rintro rfl
        exact absurd hd (by decide)

theorem tokens_text {t : Option String} (ht : t.isSome) (cs : Source) :
    tokens ((renderText t).map some ++ cs) = (tokens cs).map (.string t :: ·) :=
  tokens_step (skipSpace_cons (by decide) _) (token?_text ht cs)

/-- The tokens of one character. -/
def punctuation : List (Char × Token) :=
  [('[', .openArray), (']', .closeArray), ('{', .openObject), ('}', .closeObject), (':', .colon),
    (',', .comma)]

theorem tokens_punctuation {c : Char} {t : Token} (h : (c, t) ∈ punctuation) (cs : Source) :
    tokens (some c :: cs) = (tokens cs).map (t :: ·) := by
  simp only [punctuation, List.mem_cons, Prod.mk.injEq, List.not_mem_nil, or_false] at h
  rcases h with ⟨rfl, rfl⟩ | ⟨rfl, rfl⟩ | ⟨rfl, rfl⟩ | ⟨rfl, rfl⟩ | ⟨rfl, rfl⟩ | ⟨rfl, rfl⟩
  all_goals exact tokens_step (skipSpace_cons (by decide) _) rfl

/-! ## Values -/

theorem apart_renderItems (vs : List Value) {cs : Source} (hcs : Apart cs) :
    Apart ((renderItems vs).map some ++ cs) := by
  cases vs with
  | nil => exact hcs
  | cons v vs => exact apart_cons (by decide)

theorem apart_renderMembers (ms : List (Option String × Value)) {cs : Source} (hcs : Apart cs) :
    Apart ((renderMembers ms).map some ++ cs) := by
  cases ms with
  | nil => exact hcs
  | cons m ms => exact apart_cons (by decide)

mutual
/-- **A printed value is cut into its tokens.** -/
theorem tokens_render (v : Value) (hv : v.Writable) {cs : Source} (hcs : Apart cs) :
    tokens (v.render.map some ++ cs) = (tokens cs).map (v.tokens ++ ·) := by
  match v with
  | .null => exact tokens_step (skipSpace_cons (by decide) _) rfl
  | .bool true => exact tokens_step (skipSpace_cons (by decide) _) rfl
  | .bool false => exact tokens_step (skipSpace_cons (by decide) _) rfl
  | .number n => exact tokens_number hv hcs
  | .string t => exact tokens_text hv cs
  | .array [] =>
    show tokens (some '[' :: some ']' :: cs) = _
    rw [tokens_punctuation (t := .openArray) (by decide),
      tokens_punctuation (t := .closeArray) (by decide), Option.map_map]
    rfl
  | .array (v :: vs) =>
    -- behind an item stands a comma or the bracket, and neither goes on a number
    have hend : Apart (some ']' :: cs) := apart_cons (by decide)
    simp only [Value.render, List.map_cons, List.map_append, List.map_nil, List.cons_append,
      List.append_assoc, List.nil_append]
    rw [tokens_punctuation (t := .openArray) (by decide),
      tokens_render v hv.1 (apart_renderItems vs hend), tokens_renderItems vs hv.2 hend,
      tokens_punctuation (t := .closeArray) (by decide)]
    simp only [Option.map_map, Function.comp_def, Value.tokens, List.cons_append,
      List.append_assoc, List.nil_append]
  | .object [] =>
    show tokens (some '{' :: some '}' :: cs) = _
    rw [tokens_punctuation (t := .openObject) (by decide),
      tokens_punctuation (t := .closeObject) (by decide), Option.map_map]
    rfl
  | .object ((k, v) :: ms) =>
    have hend : Apart (some '}' :: cs) := apart_cons (by decide)
    simp only [Value.render, List.map_cons, List.map_append, List.map_nil, List.cons_append,
      List.append_assoc, List.nil_append]
    rw [tokens_punctuation (t := .openObject) (by decide), tokens_text hv.1,
      tokens_punctuation (t := .colon) (by decide),
      tokens_render v hv.2.1 (apart_renderMembers ms hend), tokens_renderMembers ms hv.2.2 hend,
      tokens_punctuation (t := .closeObject) (by decide)]
    simp only [Option.map_map, Function.comp_def, Value.tokens, List.cons_append,
      List.append_assoc, List.nil_append]

theorem tokens_renderItems (vs : List Value) (hvs : WritableItems vs) {cs : Source}
    (hcs : Apart cs) :
    tokens ((renderItems vs).map some ++ cs) = (tokens cs).map (tokensOfItems vs ++ ·) := by
  match vs with
  | [] => exact Option.map_id'.symm
  | v :: vs =>
    simp only [renderItems, List.map_cons, List.map_append, List.cons_append, List.append_assoc]
    rw [tokens_punctuation (t := .comma) (by decide),
      tokens_render v hvs.1 (apart_renderItems vs hcs), tokens_renderItems vs hvs.2 hcs]
    simp only [Option.map_map, Function.comp_def, tokensOfItems, List.cons_append,
      List.append_assoc]

theorem tokens_renderMembers (ms : List (Option String × Value)) (hms : WritableMembers ms)
    {cs : Source} (hcs : Apart cs) :
    tokens ((renderMembers ms).map some ++ cs) = (tokens cs).map (tokensOfMembers ms ++ ·) := by
  match ms with
  | [] => exact Option.map_id'.symm
  | (k, v) :: ms =>
    simp only [renderMembers, List.map_cons, List.map_append, List.cons_append, List.append_assoc]
    rw [tokens_punctuation (t := .comma) (by decide), tokens_text hms.1,
      tokens_punctuation (t := .colon) (by decide),
      tokens_render v hms.2.1 (apart_renderMembers ms hcs), tokens_renderMembers ms hms.2.2 hcs]
    simp only [Option.map_map, Function.comp_def, tokensOfMembers, List.cons_append,
      List.append_assoc]
end

/-! ## Texts -/

/-- Blanks in front of a token are passed over. -/
theorem tokens_blanks {bs : List Char} (hbs : ∀ c ∈ bs, isSpace c) (cs : Source) :
    tokens (bs.map some ++ cs) = tokens cs := by
  have hskip : skipSpace (bs.map some ++ cs) = skipSpace cs := by
    induction bs with
    | nil => rfl
    | cons b bs ih =>
      rw [List.map_cons, List.cons_append, skipSpace, if_pos (hbs b List.mem_cons_self),
        ih fun c hc => hbs c (List.mem_cons_of_mem _ hc)]
  rw [tokens, tokens.eq_def cs, hskip]

/-- The text is cut into the tokens of the value, whatever stands behind it. -/
def Writes (s : List Char) (v : Value) : Prop :=
  ∀ cs, Apart cs → tokens (s.map some ++ cs) = (tokens cs).map (v.tokens ++ ·)

theorem writes_render {v : Value} (hv : v.Writable) : Writes v.render v :=
  fun _ hcs => tokens_render v hv hcs

/-- The tokens of a whole document, which may end in a new line. -/
theorem Writes.tokens_document {s : List Char} {v : Value} (h : Writes s v) {ending : List Char}
    (hending : ending = [] ∨ ending = ['\n']) :
    tokens ((s ++ ending).map some) = some v.tokens := by
  have hapart : Apart (ending.map some) := by
    rcases hending with rfl | rfl
    · exact apart_nil
    · exact apart_cons (by decide)
  have hblank : ∀ c ∈ ending, isSpace c := by
    rcases hending with rfl | rfl
    · exact nofun
    · exact List.forall_mem_singleton.2 rfl
  have hnone : tokens (ending.map some) = some [] := by
    rw [← List.append_nil (ending.map some), tokens_blanks hblank, tokens]
    rfl
  rw [List.map_append, h _ hapart, hnone, Option.map_some, List.append_nil]

end QmlExport.Json
