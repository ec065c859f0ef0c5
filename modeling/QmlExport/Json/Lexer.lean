import QmlExport.Json.Value
import QmlExport.Text.Utf8

/-!
# JSON tokens

The lexer cuts a decoded document into tokens. Its input is what UTF-8 decoding yields, so a
malformed octet shows up as a gap: inside a string literal a gap only spoils the literal, anywhere
else it is an error. `tokens` drops the four blanks of the grammar and fails at the first place
where no token starts.
-/

namespace QmlExport.Json

open QmlExport.Decimal

/-- A decoded document. -/
abbrev Source := List (Option Char)

/-- The tokens of the grammar. -/
inductive Token
  | openArray
  | closeArray
  | openObject
  | closeObject
  | colon
  | comma
  | null
  | bool (b : Bool)
  | number (n : Numeral)
  | string (text : Option String)
  deriving DecidableEq, Repr

/-! ### String literals -/

/-- One unit of a string literal: a character, an escaped 16-bit unit, or a malformed octet. -/
inductive Piece
  | char (c : Char)
  | unit (n : Nat)
  | malformed
  deriving DecidableEq, Repr

/-- The value of a hexadecimal digit. -/
def hexValue? (c : Char) : Option Nat :=
  if c.isDigit then some (c.toNat - 48)
  else if 'a' ≤ c && c ≤ 'f' then some (c.toNat - 87)
  else if 'A' ≤ c && c ≤ 'F' then some (c.toNat - 55)
  else none

/-- The value of four hexadecimal digits. -/
def hex4? (a b c d : Char) : Option Nat := do
  let a ← hexValue? a
  let b ← hexValue? b
  let c ← hexValue? c
  let d ← hexValue? d
  some (((a * 16 + b) * 16 + c) * 16 + d)

/-- The character that a one-letter escape stands for. -/
def escaped? : Char → Option Char
  | '"' => some '"'
  | '\\' => some '\\'
  | '/' => some '/'
  | 'b' => some '\x08'
  | 'f' => some '\x0c'
  | 'n' => some '\n'
  | 'r' => some '\r'
  | 't' => some '\t'
  | _ => none

/-- The pieces of a string literal behind its opening quote, and what follows the closing one. -/
def literal : Source → Option (List Piece × Source)
  | [] => none
  | some '"' :: cs => some ([], cs)
  | some '\\' :: some 'u' :: some a :: some b :: some c :: some d :: cs => do
    let n ← hex4? a b c d
    let (ps, rest) ← literal cs
    some (.unit n :: ps, rest)
  | some '\\' :: some e :: cs => do
    let c ← escaped? e
    let (ps, rest) ← literal cs
    some (.char c :: ps, rest)
  | some c :: cs =>
    if c = '\\' || c.toNat < 0x20 then none
    else do
      let (ps, rest) ← literal cs
      some (.char c :: ps, rest)
  | none :: cs => do
    let (ps, rest) ← literal cs
    some (.malformed :: ps, rest)

/-- Whether a unit is the first half of a surrogate pair. -/
def isHighSurrogate (n : Nat) : Bool := 0xD800 ≤ n && n < 0xDC00

/-- Whether a unit is the second half of a surrogate pair. -/
def isLowSurrogate (n : Nat) : Bool := 0xDC00 ≤ n && n < 0xE000

/-- The text that pieces spell, if every surrogate has its partner and nothing is malformed. -/
def spell : List Piece → Option (List Char)
  | [] => some []
  | .char c :: ps => (spell ps).map (c :: ·)
  | .malformed :: _ => none
  | .unit n :: .unit m :: ps =>
    if isHighSurrogate n then
      if isLowSurrogate m then
        (spell ps).map (Char.ofNat (0x10000 + (n - 0xD800) * 0x400 + (m - 0xDC00)) :: ·)
      else none
    else if isLowSurrogate n then none
    else (spell (.unit m :: ps)).map (Char.ofNat n :: ·)
  | .unit n :: ps =>
    if isHighSurrogate n || isLowSurrogate n then none
    else (spell ps).map (Char.ofNat n :: ·)

/-! ### Numbers -/

/-- The digits at the start, and the rest. -/
def digits : Source → List Char × Source
  | some c :: cs =>
    if c.isDigit then
      let (ds, rest) := digits cs
      (c :: ds, rest)
    else ([], some c :: cs)
  | cs => ([], cs)

/-- At least one digit. -/
def digits1? (cs : Source) : Option (List Char × Source) :=
  match digits cs with
  | ([], _) => none
  | (ds, rest) => some (ds, rest)

/-- Whole digits: a zero alone, or a row of digits that starts with another one. -/
def whole? : Source → Option (List Char × Source)
  | some '0' :: cs => some (['0'], cs)
  | cs => digits1? cs

/-- A fraction, if one starts here. -/
def fraction? : Source → Option (Option (List Char) × Source)
  | some '.' :: cs => (digits1? cs).map fun (ds, rest) => (some ds, rest)
  | cs => some (none, cs)

/-- The sign of an exponent. -/
def exponentSign : Source → ExponentSign × Source
  | some '+' :: cs => (.plus, cs)
  | some '-' :: cs => (.minus, cs)
  | cs => (.unsigned, cs)

/-- The sign and the digits of an exponent. -/
def exponentBody? (cs : Source) : Option (Option Exponent × Source) :=
  let (sign, cs) := exponentSign cs
  (digits1? cs).map fun (ds, rest) => (some ⟨sign, ds⟩, rest)

/-- An exponent, if one starts here. -/
def exponent? : Source → Option (Option Exponent × Source)
  | some 'e' :: cs => exponentBody? cs
  | some 'E' :: cs => exponentBody? cs
  | cs => some (none, cs)

/-- A numeral without its sign. -/
def numeral? (negative : Bool) (cs : Source) : Option (Numeral × Source) := do
  let (whole, cs) ← whole? cs
  let (fraction, cs) ← fraction? cs
  let (exponent, cs) ← exponent? cs
  some (⟨negative, whole, fraction, exponent⟩, cs)

/-! ### Tokens -/

/-- The blanks of the grammar. -/
def isSpace (c : Char) : Bool := c = ' ' || c = '\n' || c = '\t' || c = '\r'

/-- Drop blanks at the start. -/
def skipSpace : Source → Source
  | some c :: cs => if isSpace c then skipSpace cs else some c :: cs
  | cs => cs

/-- The token at the start of a document that does not start with a blank. -/
def token? : Source → Option (Token × Source)
  | some '[' :: cs => some (.openArray, cs)
  | some ']' :: cs => some (.closeArray, cs)
  | some '{' :: cs => some (.openObject, cs)
  | some '}' :: cs => some (.closeObject, cs)
  | some ':' :: cs => some (.colon, cs)
  | some ',' :: cs => some (.comma, cs)
  | some '"' :: cs => (literal cs).map fun (ps, rest) =>
      (.string ((spell ps).map String.ofList), rest)
  | some 'n' :: some 'u' :: some 'l' :: some 'l' :: cs => some (.null, cs)
  | some 't' :: some 'r' :: some 'u' :: some 'e' :: cs => some (.bool true, cs)
  | some 'f' :: some 'a' :: some 'l' :: some 's' :: some 'e' :: cs => some (.bool false, cs)
  | some '-' :: cs => (numeral? true cs).map fun (n, rest) => (.number n, rest)
  | cs => (numeral? false cs).map fun (n, rest) => (.number n, rest)

/-! ### Every token takes something away -/

theorem length_skipSpace_le (cs : Source) : (skipSpace cs).length ≤ cs.length := by
  fun_induction skipSpace cs <;> simp_all
  omega

theorem length_literal_lt {cs : Source} {ps rest} (h : literal cs = some (ps, rest)) :
    rest.length < cs.length := by
  fun_induction literal cs generalizing ps rest with
  | case1 => simp at h
  | case2 cs => simp at h; simp [h.2]
  | case3 a b c d cs ih =>
    simp only [Option.bind_eq_bind, Option.bind_eq_some_iff] at h
    obtain ⟨n, _, ⟨qs, r⟩, hq, h⟩ := h
    simp at h; have := ih hq; simp [← h.2]; omega
  | case4 e cs _ ih =>
    simp only [Option.bind_eq_bind, Option.bind_eq_some_iff] at h
    obtain ⟨n, _, ⟨qs, r⟩, hq, h⟩ := h
    simp at h; have := ih hq; simp [← h.2]; omega
  | case5 => simp at h
  | case6 c cs _ _ _ _ ih =>
    simp only [Option.bind_eq_bind, Option.bind_eq_some_iff] at h
    obtain ⟨⟨qs, r⟩, hq, h⟩ := h
    simp at h; have := ih hq; simp [← h.2]; omega
  | case7 cs ih =>
    simp only [Option.bind_eq_bind, Option.bind_eq_some_iff] at h
    obtain ⟨⟨qs, r⟩, hq, h⟩ := h
    simp at h; have := ih hq; simp [← h.2]; omega

theorem length_digits (cs : Source) :
    (digits cs).1.length + (digits cs).2.length = cs.length := by
  fun_induction digits cs <;> simp_all
  omega

theorem length_digits1_lt {cs : Source} {ds rest} (h : digits1? cs = some (ds, rest)) :
    rest.length < cs.length := by
  have hl := length_digits cs
  unfold digits1? at h
  split at h
  · simp at h
  · next es r hd heq =>
    simp at h
    obtain ⟨rfl, rfl⟩ := h
    rw [heq] at hl
    cases es with
    | nil => simp_all
    | cons d ds => simp at hl; omega

theorem length_whole_lt {cs : Source} {ds rest} (h : whole? cs = some (ds, rest)) :
    rest.length < cs.length := by
  unfold whole? at h
  split at h
  · simp at h; simp [← h.2]
  · exact length_digits1_lt h

theorem length_fraction_le {cs : Source} {f rest} (h : fraction? cs = some (f, rest)) :
    rest.length ≤ cs.length := by
  unfold fraction? at h
  split at h
  · obtain ⟨⟨ds, r⟩, hd, hr⟩ := Option.map_eq_some_iff.1 h
    have := length_digits1_lt hd
    simp at hr; obtain ⟨_, rfl⟩ := hr; simp; omega
  · simp at h; simp [← h.2]

theorem length_exponentSign_le (cs : Source) : (exponentSign cs).2.length ≤ cs.length := by
  unfold exponentSign; split <;> simp

theorem length_exponentBody_lt {cs : Source} {e rest} (h : exponentBody? cs = some (e, rest)) :
    rest.length < cs.length := by
  have hs := length_exponentSign_le cs
  unfold exponentBody? at h
  generalize exponentSign cs = p at h hs
  obtain ⟨⟨ds, r⟩, hd, hr⟩ := Option.map_eq_some_iff.1 h
  have := length_digits1_lt hd
  simp at hr; obtain ⟨_, rfl⟩ := hr; omega

theorem length_exponent_le {cs : Source} {e rest} (h : exponent? cs = some (e, rest)) :
    rest.length ≤ cs.length := by
  unfold exponent? at h
  split at h
  · have := length_exponentBody_lt h; simp; omega
  · have := length_exponentBody_lt h; simp; omega
  · simp at h; simp [← h.2]

theorem length_numeral_lt {neg : Bool} {cs : Source} {n rest}
    (h : numeral? neg cs = some (n, rest)) : rest.length < cs.length := by
  simp only [numeral?, Option.bind_eq_bind, Option.bind_eq_some_iff] at h
  obtain ⟨⟨w, c₁⟩, hw, ⟨f, c₂⟩, hf, ⟨e, c₃⟩, he, h⟩ := h
  have h₁ := length_whole_lt hw
  have h₂ := length_fraction_le hf
  have h₃ := length_exponent_le he
  simp at h
  obtain ⟨_, rfl⟩ := h
  simp at h₂ h₃
  omega

theorem length_token_lt {cs : Source} {t rest} (h : token? cs = some (t, rest)) :
    rest.length < cs.length := by
  unfold token? at h
  split at h
  all_goals first
    | (simp only [Option.some.injEq, Prod.mk.injEq] at h
       obtain ⟨_, rfl⟩ := h
       simp only [List.length_cons]; omega)
    | skip
  · obtain ⟨⟨ps, r⟩, hl, hr⟩ := Option.map_eq_some_iff.1 h
    have := length_literal_lt hl
    simp at hr; simp [← hr.2]; omega
  · obtain ⟨⟨n, r⟩, hl, hr⟩ := Option.map_eq_some_iff.1 h
    have := length_numeral_lt hl
    simp at hr; simp [← hr.2]; omega
  · obtain ⟨⟨n, r⟩, hl, hr⟩ := Option.map_eq_some_iff.1 h
    have := length_numeral_lt hl
    simp at hr; simp [← hr.2]; omega

/-- The tokens of a document. -/
def tokens (cs : Source) : Option (List Token) :=
  match _hs : skipSpace cs with
  | [] => some []
  | c :: cs' =>
    match _ht : token? (c :: cs') with
    | none => none
    | some (t, rest) => (tokens rest).map (t :: ·)
termination_by cs.length
decreasing_by
  have h₁ := length_skipSpace_le cs
  have h₂ := length_token_lt ‹_›
  rw [‹skipSpace cs = _›] at h₁
  omega

end QmlExport.Json
