import QmlExport.Fonts.Naming
import QmlExport.Proofs.Code.Names
import QmlExport.Proofs.Text.Lines

/-!
# The parts of a font file's name

The parts of a name stand side by side, with nothing but the last dot to keep them apart:

    family, weight, style, '.', extension

Still a name can be taken apart again. The extension is what stands behind the last dot
(`eq_of_dotted`). A weight is written as a name or in digits; no name of a weight is the beginning
of another one, and no style begins with a digit, so where the weight ends is seen from the text
behind the family (`weightLabel_append_inj`). Of a style only the case of its letters is lost
(`capitalize_eq_iff`).

So **two variants of a family share the name of their file just when they agree in extension and
weight and, up to case, in style** (`same_fileName_iff`). That takes keys in ASCII: other letters
may share their small or capital forms.
-/

namespace QmlExport.Fonts

open Text Decimal

/-! ## Extensions -/

theorem dot_not_mem_extensionOf (url : String) : '.' ∉ (extensionOf url).toList := by
  unfold extensionOf
  simp only
  split
  · decide
  · rw [String.toList_ofList]
    intro hdot
    simpa using not_isSep_of_mem_pieces (lastPiece_mem _) _ hdot

/-- What stands on either side of the last dot. -/
theorem eq_of_dotted {as bs cs ds : List Char} (hb : '.' ∉ bs) (hd : '.' ∉ ds)
    (h : as ++ '.' :: bs = cs ++ '.' :: ds) : as = cs ∧ bs = ds := by
  have hlast := congrArg (lastPiece (· == '.')) h
  rw [lastPiece_append rfl, lastPiece_append rfl, lastPiece_of_forall_not (beq_of_not_mem hb),
    lastPiece_of_forall_not (beq_of_not_mem hd)] at hlast
  subst hlast
  exact ⟨List.append_cancel_right h, rfl⟩

/-! ## Weights -/

/-- A weight is written as its name, or else in digits. -/
theorem weightLabel_cases (weight : Nat) :
    (weight, weightLabel weight) ∈ weightNames ∨
      (weightLabel weight).toList = digitsOf weight := by
  unfold weightLabel weightName?
  cases h : weightNames.lookup weight with
  | none => exact .inr String.toList_ofList
  | some name =>
    left
    obtain ⟨front, back, heq, _⟩ := List.lookup_eq_some_iff.1 h
    rw [heq]
    simp

/-- No name of a weight is the beginning of another one. -/
theorem weightNames_prefix_free :
    ∀ v ∈ weightNames, ∀ w ∈ weightNames, v.2.toList <+: w.2.toList → v = w := by
  decide

/-- A text that does not begin with a digit. -/
def Undigited (cs : List Char) : Prop := ∀ c ∈ cs.head?, c.isDigit = false

theorem Undigited.takeWhile {cs : List Char} (h : Undigited cs) :
    cs.takeWhile Char.isDigit = [] := by
  cases cs with
  | nil => rfl
  | cons c cs => exact List.takeWhile_cons_of_neg (by simp [h c rfl])

theorem undigited_cons {c : Char} {cs : List Char} :
    Undigited (c :: cs) ↔ c.isDigit = false := by
  simp [Undigited]

theorem undigited_dropWhile (cs : List Char) : Undigited (cs.dropWhile Char.isDigit) := by
  have hhead := List.head?_dropWhile_not Char.isDigit cs
  intro c hc
  rwa [Option.mem_def.1 hc] at hhead

/-- No name of a weight begins with a digit. -/
theorem undigited_weightName {w : Nat × String} (h : w ∈ weightNames) (rest : List Char) :
    Undigited (w.2.toList ++ rest) := by
  have hfirst : ∀ w ∈ weightNames, ∃ c cs, w.2.toList = c :: cs ∧ c.isDigit = false := by
    simp [weightNames]
  obtain ⟨c, cs, hname, hc⟩ := hfirst w h
  rw [hname]
  exact undigited_cons.2 hc

theorem takeWhile_digitsOf (n : Nat) {rest : List Char} (h : Undigited rest) :
    (digitsOf n ++ rest).takeWhile Char.isDigit = digitsOf n := by
  rw [List.takeWhile_append_of_pos fun _ => isDigit_of_mem_digitsOf, h.takeWhile, List.append_nil]

/-- A weight that is written in digits does not look like one that has a name. -/
theorem digitsOf_append_ne {n : Nat} {as bs : List Char} (ha : Undigited as) (hb : Undigited bs) :
    digitsOf n ++ as ≠ bs := by
  rintro rfl
  have hdigits := hb.takeWhile
  rw [takeWhile_digitsOf n ha] at hdigits
  exact digitsOf_ne_nil n hdigits

/-- **A weight is seen from the text that begins with it.** -/
theorem weightLabel_append_inj {v w : Nat} {as bs : List Char} (ha : Undigited as)
    (hb : Undigited bs) (h : (weightLabel v).toList ++ as = (weightLabel w).toList ++ bs) :
    v = w ∧ as = bs := by
  suffices hweight : v = w by
    subst hweight
    exact ⟨rfl, List.append_cancel_left h⟩
  rcases weightLabel_cases v with hv | hv
  · rcases weightLabel_cases w with hw | hw
    · have hsame : (v, weightLabel v) = (w, weightLabel w) := by
        rcases List.prefix_or_prefix_of_prefix ⟨as, h⟩ ⟨bs, rfl⟩ with hle | hle
        · exact weightNames_prefix_free _ hv _ hw hle
        · exact (weightNames_prefix_free _ hw _ hv hle).symm
      exact congrArg Prod.fst hsame
    · rw [hw] at h
      exact absurd h.symm (digitsOf_append_ne hb (undigited_weightName hv as))
  · rcases weightLabel_cases w with hw | hw
    · rw [hv] at h
      exact absurd h (digitsOf_append_ne ha (undigited_weightName hw bs))
    · have hdigits := congrArg (List.takeWhile Char.isDigit) h
      rw [hv, hw, takeWhile_digitsOf v ha, takeWhile_digitsOf w hb] at hdigits
      exact digitsOf_injective hdigits

/-! ## Styles -/

/-- What holds of the characters of ASCII, one after the other. -/
theorem of_ascii {P : Char → Prop} (hall : ∀ n < 0x80, P (Char.ofNat n)) {c : Char}
    (h : c.toNat < 0x80) : P c := by
  have hc := hall c.toNat h
  rwa [Char.ofNat_toNat] at hc

/-- The small form of a letter tells as much about it as the capital form. -/
theorem toUpper_eq_iff {c d : Char} (hc : c.toNat < 0x80) (hd : d.toNat < 0x80) :
    c.toUpper = d.toUpper ↔ c.toLower = d.toLower := by
  have hlower : ∀ {c : Char}, c.toNat < 0x80 → c.toUpper.toLower = c.toLower :=
    of_ascii (P := fun c => c.toUpper.toLower = c.toLower) (by decide)
  have hupper : ∀ {c : Char}, c.toNat < 0x80 → c.toLower.toUpper = c.toUpper :=
    of_ascii (P := fun c => c.toLower.toUpper = c.toUpper) (by decide)
  constructor
  · intro h
    rw [← hlower hc, ← hlower hd, h]
  · intro h
    rw [← hupper hc, ← hupper hd, h]

theorem isDigit_toUpper {c : Char} (hc : c.toNat < 0x80) (h : c.isDigit = false) :
    c.toUpper.isDigit = false :=
  of_ascii (P := fun c => c.isDigit = false → c.toUpper.isDigit = false) (by decide) hc h

/-- A text in ASCII. -/
def Ascii (cs : List Char) : Prop := ∀ c ∈ cs, c.toNat < 0x80

theorem capitalize_cons {c : Char} {cs : List Char} (h : Ascii (c :: cs)) :
    capitalize (c :: cs) = c.toUpper :: asciiLower cs := by
  obtain ⟨hc, hcs⟩ := List.forall_mem_cons.1 h
  have hlower : cs.flatMap lower = cs.map Char.toLower := by
    rw [List.map_eq_flatMap]
    exact List.flatMap_congr fun d hd => if_pos (hcs d hd)
  rw [capitalize, hlower, upper, if_pos hc]
  rfl

/-- **Of a style only the case of its letters is lost.** -/
theorem capitalize_eq_iff {as bs : List Char} (ha : Ascii as) (hb : Ascii bs) :
    capitalize as = capitalize bs ↔ sameIgnoringCase as bs := by
  rw [sameIgnoringCase, beq_iff_eq]
  cases as with
  | nil =>
    cases bs with
    | nil => exact iff_of_true rfl rfl
    | cons b bs =>
      rw [capitalize_cons hb]
      exact iff_of_false nofun nofun
  | cons a as =>
    cases bs with
    | nil =>
      rw [capitalize_cons ha]
      exact iff_of_false nofun nofun
    | cons b bs =>
      rw [capitalize_cons ha, capitalize_cons hb, List.cons.injEq,
        toUpper_eq_iff (ha a List.mem_cons_self) (hb b List.mem_cons_self), ← List.cons.injEq]
      rfl

/-- What is known of a style that a key in ASCII spells. -/
structure IsStyle (s : String) : Prop where
  ascii : Ascii s.toList
  undigited : Undigited s.toList
  nonempty : s.toList ≠ []

/-- A style is what stands behind the digits in front of the key. -/
theorem isStyle_parse {key : String} (h : Ascii key.toList) :
    ∀ s ∈ (Variant.parse key).style, IsStyle s := by
  intro s hs
  unfold Variant.parse at hs
  simp only at hs
  split at hs
  · cases hs
  · next hother =>
    obtain rfl := Option.some.inj hs
    exact {
      ascii := by
        rw [String.toList_ofList]
        exact fun c hc => h c ((List.dropWhile_suffix _).subset hc)
      undigited := by
        rw [String.toList_ofList]
        exact undigited_dropWhile _
      nonempty := fun hempty => hother (.inl (String.toList_eq_nil_iff.1 hempty)) }

theorem undigited_capitalize {cs : List Char} (ha : Ascii cs) (h : Undigited cs) :
    Undigited (capitalize cs) := by
  cases cs with
  | nil => exact h
  | cons c cs =>
    rw [capitalize_cons ha, undigited_cons]
    exact isDigit_toUpper (ha c List.mem_cons_self) (undigited_cons.1 h)

theorem undigited_styleLabel {style : Option String} (h : ∀ s ∈ style, IsStyle s) :
    Undigited (styleLabel style).toList := by
  cases style with
  | none => exact nofun
  | some s =>
    rw [styleLabel, String.toList_ofList]
    exact undigited_capitalize (h s rfl).ascii (h s rfl).undigited

/-- Two styles that differ at most in the case of their letters. -/
abbrev SameStyle : Option String → Option String → Prop :=
  Option.Rel fun s t => sameIgnoringCase s.toList t.toList

theorem styleLabel_ne_empty {s : String} (h : IsStyle s) : styleLabel (some s) ≠ "" := by
  intro hempty
  have hnil := congrArg String.toList hempty
  rw [styleLabel, String.toList_ofList] at hnil
  have hascii := h.ascii
  cases hs : s.toList with
  | nil => exact h.nonempty hs
  | cons c cs =>
    rw [hs] at hnil hascii
    rw [capitalize_cons hascii] at hnil
    cases hnil

theorem styleLabel_eq_iff {style style' : Option String} (h : ∀ s ∈ style, IsStyle s)
    (h' : ∀ s ∈ style', IsStyle s) :
    styleLabel style = styleLabel style' ↔ SameStyle style style' := by
  cases style with
  | none =>
    cases style' with
    | none => exact iff_of_true rfl .none
    | some t => exact iff_of_false (styleLabel_ne_empty (h' t rfl)).symm nofun
  | some s =>
    cases style' with
    | none => exact iff_of_false (styleLabel_ne_empty (h s rfl)) nofun
    | some t =>
      rw [styleLabel, styleLabel, String.ofList_inj,
        capitalize_eq_iff (h s rfl).ascii (h' t rfl).ascii]
      exact ⟨fun hsame => .some hsame, fun | .some hsame => hsame⟩

/-! ## Names -/

theorem toList_fileName (family key url : String) :
    (fileName family key url).toList = ((Identifier.sanitize family).toList ++
      ((weightLabel (Variant.parse key).weight).toList ++
        (styleLabel (Variant.parse key).style).toList)) ++ '.' :: (extensionOf url).toList := by
  simp [fileName]

/-- **Two variants of a family share the name of their file just when they agree in extension and
weight and, up to the case of its letters, in style.** -/
theorem same_fileName_iff (family : String) {key key' : String} (h : Ascii key.toList)
    (h' : Ascii key'.toList) (url url' : String) :
    fileName family key url = fileName family key' url' ↔
      extensionOf url = extensionOf url' ∧
        (Variant.parse key).weight = (Variant.parse key').weight ∧
          SameStyle (Variant.parse key).style (Variant.parse key').style := by
  have hstyle := isStyle_parse h
  have hstyle' := isStyle_parse h'
  rw [← styleLabel_eq_iff hstyle hstyle']
  constructor
  · intro heq
    have hchars := congrArg String.toList heq
    rw [toList_fileName, toList_fileName] at hchars
    obtain ⟨hstem, hext⟩ :=
      eq_of_dotted (dot_not_mem_extensionOf url) (dot_not_mem_extensionOf url') hchars
    obtain ⟨hweight, hlabel⟩ := weightLabel_append_inj (undigited_styleLabel hstyle)
      (undigited_styleLabel hstyle') (List.append_cancel_left hstem)
    exact ⟨String.toList_inj.1 hext, hweight, String.toList_inj.1 hlabel⟩
  · rintro ⟨hext, hweight, hlabel⟩
    rw [fileName, fileName, hext, hweight, hlabel]

theorem same_fileName_italic : Ascii "0700italic".toList ∧ Ascii "700ITALIC".toList ∧
    fileName "Open Sans" "0700italic" "x/a.woff2?v=1.2" =
      fileName "Open Sans" "700ITALIC" "b.woff2" := by
  have hkey : Ascii "0700italic".toList := List.forall_iff_forall_mem.1 (by decide)
  have hkey' : Ascii "700ITALIC".toList := List.forall_iff_forall_mem.1 (by decide)
  exact ⟨hkey, hkey', (same_fileName_iff "Open Sans" hkey hkey' _ _).2
    ⟨by decide, by decide, .some (by decide)⟩⟩

/-- Beyond ASCII there are letters that meet in lower case alone: the sign for kelvin and a k. -/
example : fileName "Inter" "x\u212a" "a.ttf" = fileName "Inter" "xk" "a.ttf" := by decide

end QmlExport.Fonts
