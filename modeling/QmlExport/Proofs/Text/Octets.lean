import QmlExport.Text.Base64

/-!
# Texts and octets round trip

Two codecs turn one kind of data into another and back without loss:

* `Utf8.decode_encode` — the octets of a text decode, without a gap, to the characters of the text;
* `Base64.decode?_encode` — the Base64 text of octets stands for just these octets.

Both are inductions on the data, one well-formed sequence (one group of three octets) at a time.

The octets of texts are in the same order as the texts (`Utf8.encode_lt_iff`).
-/

namespace QmlExport.Text

/-! ## UTF-8 -/

namespace Utf8

/-- The code points of characters, with the surrogates left out. -/
theorem toNat_valid (c : Char) : c.toNat < 0xD800 ∨ (0xDFFF < c.toNat ∧ c.toNat < 0x110000) := by
  have h := c.valid
  simp only [UInt32.isValidChar, Nat.isValidChar] at h
  exact h

theorem scalar?_toNat {c : Char} {least : Nat} (h : least ≤ c.toNat) :
    scalar? least c.toNat = some c := by
  have hv := toNat_valid c
  have hc : (decide (least ≤ c.toNat) && (decide (c.toNat < 0xD800) ||
      (decide (0xDFFF < c.toNat) && decide (c.toNat < 0x110000)))) = true := by
    simp only [Bool.and_eq_true, Bool.or_eq_true, decide_eq_true_eq]
    exact ⟨h, hv⟩
  simp only [scalar?, hc, if_true, Char.ofNat_toNat]

theorem toNat_ofNat {n : Nat} (h : n < 256) : (UInt8.ofNat n).toNat = n := by
  rw [UInt8.toNat_ofNat']
  exact Nat.mod_eq_of_lt h

/-- A continuation octet carries its six bits. -/
theorem tailBits_ofNat {n : Nat} (h : n < 0x40) : tailBits (.ofNat (0x80 + n)) = some n := by
  have hn : (UInt8.ofNat (0x80 + n)).toNat = 0x80 + n := toNat_ofNat (by omega)
  have hl : (0x80 : UInt8) ≤ .ofNat (0x80 + n) := by
    rw [UInt8.le_iff_toNat_le, hn]
    exact Nat.le_add_right _ _
  have hu : UInt8.ofNat (0x80 + n) < (0xC0 : UInt8) := by
    rw [UInt8.lt_iff_toNat_lt, hn]
    exact Nat.add_lt_add_left h 0x80
  rw [tailBits, if_pos (by simp only [hl, hu, decide_true, Bool.and_self]), hn,
    Nat.add_sub_cancel_left]

/-- How the leading octet of a sequence compares with a bound. -/
theorem ofNat_lt {n : Nat} (b : UInt8) (hn : n < 256) (h : n < b.toNat) : UInt8.ofNat n < b := by
  rw [UInt8.lt_iff_toNat_lt, toNat_ofNat hn]
  exact h

theorem not_ofNat_lt {n : Nat} (b : UInt8) (hn : n < 256) (h : b.toNat ≤ n) :
    ¬ UInt8.ofNat n < b := by
  rw [UInt8.lt_iff_toNat_lt, toNat_ofNat hn]
  exact Nat.not_lt.2 h

theorem head?_one {c : Char} (h : c.toNat < 0x80) (rest : Bytes) :
    head? (.ofNat c.toNat) rest = some (c, 0) := by
  unfold head?
  rw [if_pos (ofNat_lt 0x80 (by omega) h), toNat_ofNat (by omega),
    Char.ofNat_toNat]

theorem head?_two {c : Char} (h1 : ¬ c.toNat < 0x80) (h2 : c.toNat < 0x800) (rest : Bytes) :
    head? (.ofNat (0xC0 + c.toNat / 0x40)) (.ofNat (0x80 + c.toNat % 0x40) :: rest) =
      some (c, 1) := by
  have hb : 0xC0 + c.toNat / 0x40 < 256 := by omega
  have hc : (0xC0 + c.toNat / 0x40 - 0xC0) * 0x40 + c.toNat % 0x40 = c.toNat := by omega
  unfold head?
  rw [if_neg (not_ofNat_lt 0x80 hb (by show 0x80 ≤ _; omega)),
    if_neg (not_ofNat_lt 0xC0 hb (by show 0xC0 ≤ _; omega)),
    if_pos (ofNat_lt 0xE0 hb (by show _ < 0xE0; omega))]
  simp only [tailBits_ofNat (Nat.mod_lt _ (by omega : 0x40 > 0)), toNat_ofNat hb, hc,
    scalar?_toNat (Nat.not_lt.1 h1), Option.bind_eq_bind, Option.bind_some]

theorem head?_three {c : Char} (h2 : ¬ c.toNat < 0x800) (h3 : c.toNat < 0x10000) (rest : Bytes) :
    head? (.ofNat (0xE0 + c.toNat / 0x1000))
      (.ofNat (0x80 + c.toNat / 0x40 % 0x40) :: .ofNat (0x80 + c.toNat % 0x40) :: rest) =
      some (c, 2) := by
  have hb : 0xE0 + c.toNat / 0x1000 < 256 := by omega
  have hc : (0xE0 + c.toNat / 0x1000 - 0xE0) * 0x1000 + c.toNat / 0x40 % 0x40 * 0x40 +
      c.toNat % 0x40 = c.toNat := by omega
  unfold head?
  rw [if_neg (not_ofNat_lt 0x80 hb (by show 0x80 ≤ _; omega)),
    if_neg (not_ofNat_lt 0xC0 hb (by show 0xC0 ≤ _; omega)),
    if_neg (not_ofNat_lt 0xE0 hb (by show 0xE0 ≤ _; omega)),
    if_pos (ofNat_lt 0xF0 hb (by show _ < 0xF0; omega))]
  simp only [tailBits_ofNat (Nat.mod_lt _ (by omega : 0x40 > 0)), toNat_ofNat hb, hc,
    scalar?_toNat (Nat.not_lt.1 h2), Option.bind_eq_bind, Option.bind_some]

theorem head?_four {c : Char} (h3 : ¬ c.toNat < 0x10000) (rest : Bytes) :
    head? (.ofNat (0xF0 + c.toNat / 0x40000))
      (.ofNat (0x80 + c.toNat / 0x1000 % 0x40) :: .ofNat (0x80 + c.toNat / 0x40 % 0x40) ::
        .ofNat (0x80 + c.toNat % 0x40) :: rest) = some (c, 3) := by
  have hv := toNat_valid c
  have hb : 0xF0 + c.toNat / 0x40000 < 256 := by omega
  have hc : (0xF0 + c.toNat / 0x40000 - 0xF0) * 0x40000 + c.toNat / 0x1000 % 0x40 * 0x1000 +
      c.toNat / 0x40 % 0x40 * 0x40 + c.toNat % 0x40 = c.toNat := by omega
  unfold head?
  rw [if_neg (not_ofNat_lt 0x80 hb (by show 0x80 ≤ _; omega)),
    if_neg (not_ofNat_lt 0xC0 hb (by show 0xC0 ≤ _; omega)),
    if_neg (not_ofNat_lt 0xE0 hb (by show 0xE0 ≤ _; omega)),
    if_neg (not_ofNat_lt 0xF0 hb (by show 0xF0 ≤ _; omega)),
    if_pos (ofNat_lt 0xF8 hb (by show _ < 0xF8; omega))]
  have ht : ∀ n, tailBits (.ofNat (0x80 + n % 0x40)) = some (n % 0x40) := fun n =>
    tailBits_ofNat (Nat.mod_lt n (by decide))
  -- evaluating the scalar would count to 0x40000, so the steps are put together by hand
  refine Option.bind_eq_some_iff.2 ⟨_, ht _, Option.bind_eq_some_iff.2 ⟨_, ht _,
    Option.bind_eq_some_iff.2 ⟨_, ht _, Option.bind_eq_some_iff.2 ⟨c, ?_, rfl⟩⟩⟩⟩
  rw [toNat_ofNat hb, hc]
  exact scalar?_toNat (Nat.not_lt.1 h3)

/-- The octets of a character decode to it, whatever follows. -/
theorem decode_encodeChar_append (c : Char) (rest : Bytes) :
    decode (encodeChar c ++ rest) = some c :: decode rest := by
  simp only [encodeChar]
  -- one case for each length of a sequence
  split
  · next h1 => rw [List.singleton_append, decode, head?_one h1]; rfl
  split
  · next h1 h2 =>
    rw [List.cons_append, List.singleton_append, decode, head?_two h1 h2]; rfl
  split
  · next h1 h2 h3 =>
    rw [List.cons_append, List.cons_append, List.singleton_append, decode, head?_three h2 h3]; rfl
  · next h1 h2 h3 =>
    rw [List.cons_append, List.cons_append, List.cons_append, List.singleton_append, decode,
      head?_four h3]
    rfl

theorem decode_flatMap_encodeChar (cs : List Char) :
    decode (cs.flatMap encodeChar) = cs.map some := by
  induction cs with
  | nil => rw [List.flatMap_nil, decode]; rfl
  | cons c cs ih => rw [List.flatMap_cons, decode_encodeChar_append, ih, List.map_cons]

/-- **A text survives UTF-8**: its octets decode to its characters, without a gap. -/
theorem decode_encode (s : String) : decode (encode s) = s.toList.map some :=
  decode_flatMap_encodeChar s.toList

/-! ### The order of texts -/

/-- The octets of a character, by how many there are. -/
theorem encodeChar_cases (c : Char) :
    (c.toNat < 0x80 ∧ encodeChar c = [.ofNat c.toNat]) ∨
    (0x80 ≤ c.toNat ∧ c.toNat < 0x800 ∧
      encodeChar c = [.ofNat (0xC0 + c.toNat / 0x40), .ofNat (0x80 + c.toNat % 0x40)]) ∨
    (0x800 ≤ c.toNat ∧ c.toNat < 0x10000 ∧ encodeChar c = [.ofNat (0xE0 + c.toNat / 0x1000),
      .ofNat (0x80 + c.toNat / 0x40 % 0x40), .ofNat (0x80 + c.toNat % 0x40)]) ∨
    (0x10000 ≤ c.toNat ∧ c.toNat < 0x110000 ∧ encodeChar c = [.ofNat (0xF0 + c.toNat / 0x40000),
      .ofNat (0x80 + c.toNat / 0x1000 % 0x40), .ofNat (0x80 + c.toNat / 0x40 % 0x40),
      .ofNat (0x80 + c.toNat % 0x40)]) := by
  have hvalid := toNat_valid c
  unfold encodeChar
  simp only
  split
  · exact .inl ⟨‹_›, rfl⟩
  · split
    · exact .inr (.inl ⟨by omega, ‹_›, rfl⟩)
    · split
      · exact .inr (.inr (.inl ⟨by omega, ‹_›, rfl⟩))
      · exact .inr (.inr (.inr ⟨by omega, by omega, rfl⟩))

/-- A lesser character has lesser octets, whatever follows. -/
theorem encodeChar_append_lt {c d : Char} (h : c < d) (x y : Bytes) :
    encodeChar c ++ x < encodeChar d ++ y := by
  have hlt : c.toNat < d.toNat := h
  -- octets are compared as digits; the first in which the two differ decides
  rcases encodeChar_cases c with ⟨hc, ec⟩ | ⟨hc, hc', ec⟩ | ⟨hc, hc', ec⟩ | ⟨hc, hc', ec⟩ <;>
  rcases encodeChar_cases d with ⟨hd, ed⟩ | ⟨hd, hd', ed⟩ | ⟨hd, hd', ed⟩ | ⟨hd, hd', ed⟩ <;>
  simp only [ec, ed, List.cons_append, List.nil_append, List.cons_lt_cons_iff,
    UInt8.lt_iff_toNat_lt, ← UInt8.toNat_inj, UInt8.toNat_ofNat'] <;>
  simp (disch := omega) only [Nat.mod_eq_of_lt] <;> omega

theorem flatMap_encodeChar_lt {cs ds : List Char} (h : cs < ds) :
    cs.flatMap encodeChar < ds.flatMap encodeChar := by
  induction h with
  | @nil d ds =>
    have hne : encodeChar d ≠ [] := by
      rcases encodeChar_cases d with ⟨_, ed⟩ | ⟨_, _, ed⟩ | ⟨_, _, ed⟩ | ⟨_, _, ed⟩ <;> simp [ed]
    obtain ⟨b, bs, hb⟩ := List.exists_cons_of_ne_nil hne
    rw [List.flatMap_nil, List.flatMap_cons, hb]
    exact .nil
  | cons _ ih => exact List.append_left_lt ih
  | rel h => exact encodeChar_append_lt h _ _

/-- **The order of octets is that of characters.** -/
theorem encode_lt_iff {s t : String} : encode s < encode t ↔ s < t := by
  constructor
  · intro h
    rcases Std.lt_trichotomy s t with hst | rfl | hts
    · exact hst
    · exact absurd h (List.lt_irrefl _)
    · exact absurd h (List.lt_asymm (flatMap_encodeChar_lt hts))
  · exact fun h => flatMap_encodeChar_lt h

theorem encode_le_iff {s t : String} : encode s ≤ encode t ↔ s ≤ t := by
  rw [← List.not_lt, encode_lt_iff, String.not_lt]

end Utf8

/-! ## Base64 -/

namespace Base64

theorem bits?_symbol {n : Nat} (h : n < 64) : bits? (symbol n) = some n := by
  have hall : ∀ n < 64, bits? (symbol n) = some n := by decide
  exact hall n h

theorem symbol_ne_padding_all : ∀ n < 64, symbol n ≠ '=' := by decide

/-- A group of four characters that is not padded stands for three octets. -/
theorem decodeChars_group {w x y z : Char} (hz : z ≠ '=') (rest : List Char) :
    decodeChars (w :: x :: y :: z :: rest) = (do
      let w ← bits? w
      let x ← bits? x
      let y ← bits? y
      let z ← bits? z
      let more ← decodeChars rest
      some (.ofNat (w * 4 + x / 16) :: .ofNat (x % 16 * 16 + y / 4) :: .ofNat (y % 4 * 64 + z) ::
        more)) := by
  rw [decodeChars]
  · rintro rfl h
    exact absurd h hz
  · intro h
    exact absurd h hz

/-- A group whose last character is padding stands for two octets. -/
theorem decodeChars_padded {w x y : Char} (hy : y ≠ '=') :
    decodeChars [w, x, y, '='] = (do
      let w ← bits? w
      let x ← bits? x
      let y ← bits? y
      if y % 4 = 0 then some [.ofNat (w * 4 + x / 16), .ofNat (x % 16 * 16 + y / 4)]
      else none) := by
  rw [decodeChars]
  intro h
  exact absurd h hy

/-- An octet is told by its value. -/
theorem ofNat_of_eq {n : Nat} {c : UInt8} (h : n = c.toNat) : UInt8.ofNat n = c := by
  rw [h, UInt8.ofNat_toNat]

theorem decodeChars_encodeChars (bs : Bytes) : decodeChars (encodeChars bs) = some bs := by
  fun_induction encodeChars bs with
  | case1 => rfl
  | case2 a n =>
    -- one octet is left: two symbols and two characters of padding
    have ha : a.toNat < 256 := a.toNat_lt
    have hn : n = a.toNat := rfl
    simp only [decodeChars, bits?_symbol (show n / 4 < 64 by omega),
      bits?_symbol (show n % 4 * 16 < 64 by omega), Option.bind_eq_bind, Option.bind_some]
    rw [if_pos (by omega), ofNat_of_eq (c := a) (by omega)]
  | case3 a b n =>
    -- two octets are left: three symbols and one character of padding
    have ha : a.toNat < 256 := a.toNat_lt
    have hb : b.toNat < 256 := b.toNat_lt
    have hn : n = a.toNat * 256 + b.toNat := rfl
    rw [decodeChars_padded (symbol_ne_padding_all (n % 16 * 4) (by omega))]
    simp only [bits?_symbol (show n / 1024 < 64 by omega),
      bits?_symbol (show n / 16 % 64 < 64 by omega), bits?_symbol (show n % 16 * 4 < 64 by omega),
      Option.bind_eq_bind, Option.bind_some]
    rw [if_pos (by omega), ofNat_of_eq (c := a) (by omega), ofNat_of_eq (c := b) (by omega)]
  | case4 a b c rest n ih =>
    have ha : a.toNat < 256 := a.toNat_lt
    have hb : b.toNat < 256 := b.toNat_lt
    have hc : c.toNat < 256 := c.toNat_lt
    have hn : n = (a.toNat * 256 + b.toNat) * 256 + c.toNat := rfl
    rw [decodeChars_group (symbol_ne_padding_all (n % 64) (by omega)), ih]
    simp only [bits?_symbol (show n / 262144 < 64 by omega),
      bits?_symbol (show n / 4096 % 64 < 64 by omega),
      bits?_symbol (show n / 64 % 64 < 64 by omega), bits?_symbol (show n % 64 < 64 by omega),
      Option.bind_eq_bind, Option.bind_some]
    rw [ofNat_of_eq (c := a) (by omega), ofNat_of_eq (c := b) (by omega),
      ofNat_of_eq (c := c) (by omega)]

/-- **Octets survive Base64**: reading the text of octets gives them back. -/
theorem decode?_encode (bs : Bytes) : decode? (encode bs) = some bs := by
  rw [decode?, encode, String.toList_ofList]
  exact decodeChars_encodeChars bs

end Base64

end QmlExport.Text
