import Mathlib.Data.List.DropRight
import QmlExport.Package.Name
import QmlExport.Proofs.Decimal.Digits
import QmlExport.Proofs.Disk.Paths
import QmlExport.Proofs.Run.Classification

/-!
# Names of packages

A package is put under its name into a directory that somebody chose, so the name must not lead
anywhere else. **Every name is a single segment of a path, of visible characters, and no dot segment**
(`IsSegment`), whatever the package is named after.

What is left of a name is found in four steps, each of which has a description of its own:

    name ──Stripped isBlank──▶ trimmed ──Bared──▶ without the extension
         ──linked──▶ kept characters and underscores ──Stripped isEdge──▶ stem

`Cleaned` puts them together, and it is a function again (`cleaned_iff`). So a package is named in one
of three ways (`Named`), and which one is decided by what it is named after (`fileName_eq_iff`):

    fileName (numberText millis) base = name ↔ Named millis base name.
-/

namespace QmlExport

namespace Text

/-! ## Stripping -/

section

variable {p : Char → Bool}

/-- What is left of a text when all characters of a kind are taken off its ends. -/
structure Stripped (p : Char → Bool) (cs s : List Char) : Prop where
  around : ∃ front back, cs = front ++ s ++ back ∧ (∀ c ∈ front, p c) ∧ ∀ c ∈ back, p c
  /-- It does not start with a character of this kind. -/
  first : ∀ c ∈ s.head?, p c = false
  /-- Nor does it end with one. -/
  last : ∀ c ∈ s.getLast?, p c = false

/-- **Stripping is dropping at the front and at the end.** -/
theorem stripped_iff {cs s : List Char} : Stripped p cs s ↔ s = (cs.dropWhile p).rdropWhile p := by
  constructor
  · rintro ⟨⟨front, back, rfl, hfront, hback⟩, hfirst, hlast⟩
    rw [List.append_assoc, List.dropWhile_append_of_pos hfront]
    cases s with
    | nil =>
      have hnil : back.dropWhile p = [] := List.dropWhile_eq_nil_iff.2 hback
      rw [List.nil_append, hnil, List.rdropWhile_nil]
    | cons c s =>
      have hc : p c = false := hfirst c rfl
      rw [List.cons_append, List.dropWhile_cons_of_neg (by simp [hc]), ← List.cons_append]
      -- from behind, first the end goes, and then there is something to stop at
      have hstop : (c :: s).reverse.dropWhile p = (c :: s).reverse := by
        rw [← List.head?_reverse] at hlast
        cases hrev : (c :: s).reverse with
        | nil => rfl
        | cons d ds =>
          rw [hrev] at hlast
          exact List.dropWhile_cons_of_neg (by simp [hlast d rfl])
      have hback' : ∀ d ∈ back.reverse, p d := fun d hd => hback d (List.mem_reverse.1 hd)
      rw [List.rdropWhile, List.reverse_append, List.dropWhile_append_of_pos hback', hstop,
        List.reverse_reverse]
  · rintro rfl
    refine ⟨⟨cs.takeWhile p, (cs.dropWhile p).rtakeWhile p, ?_, ?_, ?_⟩, ?_, ?_⟩
    · rw [List.append_assoc, List.rdropWhile_append_rtakeWhile, List.takeWhile_append_dropWhile]
    · exact fun c hc => List.all_eq_true.1 List.all_takeWhile c hc
    · exact fun c hc => List.mem_rtakeWhile_imp hc
    · -- what is left starts where dropping at the front stopped
      intro c hc
      obtain ⟨rest, hrest⟩ := List.rdropWhile_prefix p (l := cs.dropWhile p)
      have hhead := List.head?_dropWhile_not p cs
      rw [← hrest, List.head?_append, Option.mem_def.1 hc] at hhead
      simpa using hhead
    · intro c hc
      obtain ⟨hne, rfl⟩ := List.mem_getLast?_eq_getLast hc
      exact Bool.eq_false_iff.2 (List.rdropWhile_last_not p _ hne)

/-- Dropping at the end, read from the front. -/
theorem rdropWhile_cons (c : Char) (cs : List Char) : (c :: cs).rdropWhile p =
    match cs.rdropWhile p with
    | [] => if p c then [] else [c]
    | d :: ds => c :: d :: ds := by
  have hrest : cs.reverse.dropWhile p = (cs.rdropWhile p).reverse := by simp [List.rdropWhile]
  rw [List.rdropWhile, List.reverse_cons, List.dropWhile_append, hrest]
  cases cs.rdropWhile p with
  | nil => by_cases hc : p c <;> simp [hc]
  | cons d ds => simp

/-- Whatever goes from behind and stops at the first other character drops at the end. -/
theorem eq_rdropWhile {drop : List Char → List Char} (hnil : drop [] = [])
    (hcons : ∀ c cs, drop (c :: cs) =
      match drop cs with
      | [] => if p c then [] else [c]
      | d :: ds => c :: d :: ds) (cs : List Char) : drop cs = cs.rdropWhile p := by
  induction cs with
  | nil => exact hnil
  | cons c cs ih =>
    have hdrop := hcons c cs
    rw [ih] at hdrop
    exact hdrop.trans (rdropWhile_cons c cs).symm

theorem trimEnd_eq (cs : List Char) : trimEnd cs = cs.rdropWhile isBlank :=
  eq_rdropWhile rfl (fun _ _ => rfl) cs

theorem stripped_trim {cs s : List Char} : Stripped isBlank cs s ↔ s = trim cs := by
  rw [stripped_iff, trim, trimEnd_eq]
  rfl

end

end Text

namespace Package

open Text Decimal
open Run (sameIgnoringCase_iff)
open Upload (numberText)

/-! ## Characters of names -/

/-- Characters that say something to a terminal. -/
def isControl (c : Char) : Bool := c.toNat < 0x20 || (0x7F ≤ c.toNat && c.toNat < 0xA0)

/-- A character that is seen and separates nothing. -/
def Plain (c : Char) : Prop := c ≠ '/' ∧ c ≠ '\\' ∧ isBlank c = false ∧ isControl c = false

instance (c : Char) : Decidable (Plain c) := inferInstanceAs (Decidable (_ ∧ _))

/-- Blanks beyond the first characters. -/
def farBlanks : List Nat :=
  [0x1680, 0x2000, 0x2001, 0x2002, 0x2003, 0x2004, 0x2005, 0x2006, 0x2007, 0x2008, 0x2009, 0x200A,
    0x2028, 0x2029, 0x202F, 0x205F, 0x3000]

/-- Beyond the first characters, what is not plain is one of a few blanks. -/
theorem plain_of_far {c : Char} (hfar : 0xA1 ≤ c.toNat) (h : c.toNat ∉ farBlanks) : Plain c := by
  have hne : ∀ d : Char, d.toNat < 0xA1 → c ≠ d := by
    rintro d hd rfl
    omega
  refine ⟨hne '/' (by decide), hne '\\' (by decide), ?_, ?_⟩
  · simp only [farBlanks, List.mem_cons, List.not_mem_nil, or_false, not_or] at h
    simp only [isBlank, Bool.or_eq_false_iff, Bool.and_eq_false_iff, decide_eq_false_iff_not,
      beq_eq_false_iff_ne]
    omega
  · simp only [isControl, Bool.or_eq_false_iff, Bool.and_eq_false_iff, decide_eq_false_iff_not]
    omega

/-- **What a name keeps is plain.** -/
theorem plain_of_isKept {c : Char} (h : isKept c) : Plain c := by
  have hnear : ∀ n < 0xA1, isKept (Char.ofNat n) → Plain (Char.ofNat n) := by decide +kernel
  have hfar : ∀ n ∈ farBlanks, ¬ isKept (Char.ofNat n) := by decide +kernel
  rw [← Char.ofNat_toNat c] at h
  by_cases hn : c.toNat < 0xA1
  · rw [← Char.ofNat_toNat c]
    exact hnear c.toNat hn h
  · exact plain_of_far (Nat.not_lt.1 hn) fun hmem => hfar c.toNat hmem h

/-! ## The extension of uploads -/

/-- What is left of a text without the extension of uploads, in any ASCII case. -/
inductive Bared : List Char → List Char → Prop
  | ending {bare ext : List Char} (h : sameIgnoringCase ext Upload.extension.toList) :
    Bared (bare ++ ext) bare
  /-- A text that does not end in it stays as it is. -/
  | other {cs : List Char}
    (h : ¬ ∃ bare ext, sameIgnoringCase ext Upload.extension.toList ∧ cs = bare ++ ext) :
    Bared cs cs

theorem endsWith_extension_iff {cs : List Char} :
    endsWith Upload.extension.toList (asciiLower cs) ↔
      ∃ bare ext, sameIgnoringCase ext Upload.extension.toList ∧ cs = bare ++ ext := by
  have hlower : asciiLower Upload.extension.toList = Upload.extension.toList := by decide
  unfold endsWith
  simp only [sameIgnoringCase_iff, hlower, List.isSuffixOf_iff_suffix]
  constructor
  · rintro ⟨front, hsuffix⟩
    obtain ⟨bare, ext, hcs, _, hext⟩ := List.map_eq_append_iff.1 hsuffix.symm
    exact ⟨bare, ext, hext, hcs⟩
  · rintro ⟨bare, ext, hext, rfl⟩
    exact ⟨asciiLower bare, by rw [← hext]; exact (List.map_append ..).symm⟩

theorem withoutExtension_append {bare ext : List Char}
    (h : sameIgnoringCase ext Upload.extension.toList) : withoutExtension (bare ++ ext) = bare := by
  unfold withoutExtension
  rw [if_pos (endsWith_extension_iff.2 ⟨bare, ext, h, rfl⟩), ← Run.length_eq_of_sameIgnoringCase h,
    List.length_append, Nat.add_sub_cancel, List.take_left]

theorem bared_iff {cs bare : List Char} : Bared cs bare ↔ bare = withoutExtension cs := by
  constructor
  · rintro (h | h)
    · exact (withoutExtension_append h).symm
    · rw [withoutExtension, if_neg (mt endsWith_extension_iff.1 h)]
  · rintro rfl
    by_cases h : ∃ bare ext, sameIgnoringCase ext Upload.extension.toList ∧ cs = bare ++ ext
    · obtain ⟨bare, ext, hext, rfl⟩ := h
      rw [withoutExtension_append hext]
      exact .ending hext
    · rw [withoutExtension, if_neg (mt endsWith_extension_iff.1 h)]
      exact .other h

/-! ## Kept characters -/

/-- What stands behind the last character that is kept, from behind. -/
def sinceKept (front : List Char) : List Char := front.reverse.takeWhile fun c => !isKept c

/-- Some character is kept, and a blank stands behind the last one. -/
def gapBehind (front : List Char) : Bool := front.any isKept && (sinceKept front).any isBlank

/-- The characters that are kept of a text, in order, when `front` stands before it. Each of them has
an underscore before it if a blank stands between it and the one kept before. -/
def linked (front : List Char) : List Char → List Char
  | [] => []
  | c :: cs =>
    (if isKept c then (if gapBehind front then ['_', c] else [c]) else []) ++
      linked (front ++ [c]) cs

theorem sinceKept_concat (front : List Char) (c : Char) :
    sinceKept (front ++ [c]) = if isKept c then [] else c :: sinceKept front := by
  rw [sinceKept, List.reverse_append, List.reverse_singleton, List.singleton_append,
    List.takeWhile_cons]
  cases isKept c <;> rfl

/-- What is remembered on the way tells what stands before. -/
theorem keepFrom_eq (front cs : List Char) :
    keepFrom ((sinceKept front).any isBlank) (front.any isKept) cs = linked front cs := by
  induction cs generalizing front with
  | nil => rfl
  | cons c cs ih =>
    have hnext := ih (front ++ [c])
    rw [sinceKept_concat, List.any_append, List.any_cons, List.any_nil, Bool.or_false] at hnext
    rw [keepFrom, linked, ← hnext]
    by_cases hkept : isKept c
    · have hblank : isBlank c = false := (plain_of_isKept hkept).2.2.1
      rw [if_neg (by simp [hblank]), if_pos hkept, if_pos hkept, if_pos hkept, List.any_nil, hkept,
        Bool.or_true, gapBehind, Bool.and_comm]
      cases front.any isKept && (sinceKept front).any isBlank <;> rfl
    · by_cases hblank : isBlank c
      · simp [hblank, hkept]
      · simp [hblank, hkept]

theorem isKept_of_mem_linked {front cs : List Char} : ∀ c ∈ linked front cs, isKept c := by
  induction cs generalizing front with
  | nil => exact nofun
  | cons d cs ih =>
    have hunderscore : isKept '_' := rfl
    intro c hc
    rcases List.mem_append.1 hc with hc | hc
    · grind
    · exact ih c hc

/-! ## Stems -/

/-- What is left of a name: of the text between its blanks, without the extension of uploads, the
kept characters with their underscores, and of these what stands between dots and underscores. -/
def Cleaned (name : String) (s : List Char) : Prop :=
  ∃ trimmed bare, Stripped isBlank name.toList trimmed ∧ Bared trimmed bare ∧
    Stripped isEdge (linked [] bare) s

theorem dropEdgesAtEnd_eq (cs : List Char) : dropEdgesAtEnd cs = cs.rdropWhile isEdge :=
  eq_rdropWhile rfl (fun _ _ => rfl) cs

/-- **Cleaning is a function of the name.** -/
theorem cleaned_iff {name : String} {s : List Char} : Cleaned name s ↔ s = stem name := by
  have hstem : stem name =
      ((linked [] (withoutExtension (trim name.toList))).dropWhile isEdge).rdropWhile isEdge := by
    rw [← keepFrom_eq, ← dropEdgesAtEnd_eq]
    rfl
  rw [hstem, ← stripped_iff]
  constructor
  · rintro ⟨trimmed, bare, htrimmed, hbare, hs⟩
    rwa [← stripped_trim.1 htrimmed, ← bared_iff.1 hbare]
  · exact fun hs => ⟨_, _, stripped_trim.2 rfl, bared_iff.2 rfl, hs⟩

/-- Something of which a package can be named: it is made of letters, digits and marks, and no dots
or underscores stand at its ends. -/
structure IsStem (s : List Char) : Prop where
  nonempty : s ≠ []
  kept : ∀ c ∈ s, isAlphanumeric c ∨ c = '-' ∨ c = '_' ∨ c = '.'
  first : ∀ c ∈ s.head?, c ≠ '.' ∧ c ≠ '_'
  last : ∀ c ∈ s.getLast?, c ≠ '.' ∧ c ≠ '_'

theorem Cleaned.isKept {name : String} {s : List Char} (h : Cleaned name s) :
    ∀ c ∈ s, isKept c := by
  obtain ⟨_, _, _, _, ⟨front, back, hlinked, _, _⟩, _, _⟩ := h
  intro c hc
  apply isKept_of_mem_linked c
  rw [hlinked]
  exact List.mem_append_left _ (List.mem_append_right _ hc)

theorem Cleaned.isStem {name : String} {s : List Char} (h : Cleaned name s) (hne : s ≠ []) :
    IsStem s := by
  have hedge : ∀ {c : Char}, isEdge c = false → c ≠ '.' ∧ c ≠ '_' := by
    intro c hc
    simpa [isEdge] using hc
  refine ⟨hne, ?_, ?_, ?_⟩
  · intro c hc
    simpa [Package.isKept, isMark, or_assoc] using h.isKept c hc
  · obtain ⟨_, _, _, _, hs⟩ := h
    exact fun c hc => hedge (hs.first c hc)
  · obtain ⟨_, _, _, _, hs⟩ := h
    exact fun c hc => hedge (hs.last c hc)

/-! ## Names -/

/-- The name of a package that is named after nothing. -/
def timedName (millis : Nat) : String := "qmlbridge-export-" ++ numberText millis ++ ".zip"

/-- What a package can be named, made in this millisecond. -/
inductive Named (millis : Nat) : Option String → String → Prop
  /-- After what is left of what it is named after. -/
  | stem {base : String} {s : List Char} (h : Cleaned base s) (hs : IsStem s) :
    Named millis (some base) (String.ofList s ++ ".zip")
  /-- After nothing. -/
  | nameless : Named millis none (timedName millis)
  /-- After something of which nothing is left. -/
  | spent {base : String} (h : Cleaned base []) : Named millis (some base) (timedName millis)

/-- A name that stands for itself wherever it is put into a path, and shows all its characters. -/
structure IsSegment (name : String) : Prop where
  segments : Path.segments ⟨name⟩ = [name]
  named : name ≠ "" ∧ name ≠ "." ∧ name ≠ ".."
  plain : ∀ c ∈ name.toList, Plain c
  /-- Below a directory, it stands behind what all paths below that directory begin with. -/
  below : ∀ directory : Path, (directory.join ⟨name⟩).text.toList = directory.front ++ name.toList

theorem named_fileName (millis : Nat) (base : Option String) :
    Named millis base (fileName (numberText millis) base) := by
  have hzip : ∀ s : String, s ++ "." ++ extension = s ++ ".zip" := by
    intro s
    rw [String.append_assoc]
    rfl
  have htimed : fallbackName (numberText millis) = timedName millis := hzip _
  unfold fileName
  rw [htimed]
  cases base with
  | none => exact .nameless
  | some base =>
    rw [Option.map_some]
    cases hstem : Package.stem base with
    | nil => exact .spent (cleaned_iff.2 hstem.symm)
    | cons c cs =>
      have hcleaned : Cleaned base (c :: cs) := cleaned_iff.2 hstem.symm
      simp only [hzip]
      exact .stem hcleaned (hcleaned.isStem (by simp))

/-- In one millisecond, a package has one name. -/
theorem Named.unique {millis : Nat} {base : Option String} {name other : String}
    (h : Named millis base name) (h' : Named millis base other) : name = other := by
  cases h with
  | nameless =>
    cases h'
    rfl
  | stem h hs =>
    cases h' with
    | stem h' _ => rw [cleaned_iff.1 h, cleaned_iff.1 h']
    | spent h' => exact absurd ((cleaned_iff.1 h).trans (cleaned_iff.1 h').symm) hs.nonempty
  | spent h =>
    cases h' with
    | stem h' hs => exact absurd ((cleaned_iff.1 h').trans (cleaned_iff.1 h).symm) hs.nonempty
    | spent _ => rfl

theorem fileName_eq_iff {millis : Nat} {base : Option String} {name : String} :
    fileName (numberText millis) base = name ↔ Named millis base name :=
  ⟨fun h => h ▸ named_fileName millis base, fun h => (named_fileName millis base).unique h⟩

/-- **A package is named with the time exactly when nothing is left to name it after.** -/
theorem named_timedName_iff {base : Option String} :
    (∀ millis, Named millis base (timedName millis)) ↔ ∀ b ∈ base, Cleaned b [] := by
  constructor
  · rintro htimed b rfl
    cases hstem : Package.stem b with
    | nil => exact cleaned_iff.2 hstem.symm
    | cons c cs =>
      -- a stem is the same at any time, so it cannot be the time of two milliseconds
      have hcleaned : Cleaned b (c :: cs) := cleaned_iff.2 hstem.symm
      have hname : ∀ millis, timedName millis = String.ofList (c :: cs) ++ ".zip" := fun millis =>
        (htimed millis).unique (.stem hcleaned (hcleaned.isStem (by simp)))
      exact absurd ((hname 0).trans (hname 1).symm) (by decide +kernel)
  · intro hspent millis
    cases base with
    | none => exact .nameless
    | some b => exact .spent (hspent b rfl)

theorem isSegment_of_isKept {s : String} (h : ∀ c ∈ s.toList, isKept c) :
    IsSegment (s ++ ".zip") := by
  have hend : (".zip" : String).toList.all isKept := by decide +kernel
  have hplain : ∀ c ∈ (s ++ ".zip").toList, Plain c := by
    rw [String.toList_append]
    intro c hc
    exact plain_of_isKept (List.forall_mem_append.2 ⟨h, List.all_eq_true.1 hend⟩ c hc)
  have hlength : ∀ t : String, t.length < 4 → s ++ ".zip" ≠ t := by
    rintro t ht rfl
    rw [String.length_append, show (".zip" : String).length = 4 from rfl] at ht
    omega
  have hsingle : Path.Single (s ++ ".zip") := fun hslash => (hplain _ hslash).1 rfl
  refine ⟨hsingle.segments, ?_, hplain, fun directory => ?_⟩
  · exact ⟨hlength "" (by decide), hlength "." (by decide), hlength ".." (by decide)⟩
  · exact Path.toList_join directory (Path.isAbsolute_eq_false hsingle)

theorem isSegment_timedName (millis : Nat) : IsSegment (timedName millis) := by
  have hfront : ("qmlbridge-export-" : String).toList.all isKept := by decide +kernel
  have hdigits : (numberText millis).toList = digitsOf millis := String.toList_ofList
  apply isSegment_of_isKept
  rw [String.toList_append, hdigits]
  refine List.forall_mem_append.2 ⟨List.all_eq_true.1 hfront, fun c hc => ?_⟩
  have halphanum : c.isAlphanum := by simp [Char.isAlphanum, isDigit_of_mem_digitsOf hc]
  rw [isKept, isAlphanumeric_of_isAlphanum halphanum, Bool.true_or]

theorem Named.isSegment {millis : Nat} {base : Option String} {name : String}
    (h : Named millis base name) : IsSegment name := by
  cases h with
  | nameless => exact isSegment_timedName millis
  | spent _ => exact isSegment_timedName millis
  | stem h _ =>
    apply isSegment_of_isKept
    rw [String.toList_ofList]
    exact h.isKept

/-- **Whatever a package is named after, its name leads nowhere else.** It is found in one way of the
three, and the time is in it exactly when nothing is left of what the package is named after. -/
theorem fileName_safe (base : Option String) :
    (∀ millis name, fileName (numberText millis) base = name ↔ Named millis base name) ∧
      (∀ millis, IsSegment (fileName (numberText millis) base)) ∧
      ((∀ millis, fileName (numberText millis) base = timedName millis) ↔
        ∀ b ∈ base, Cleaned b []) := by
  refine ⟨fun _ _ => fileName_eq_iff, fun millis => (named_fileName millis base).isSegment, ?_⟩
  simp only [fileName_eq_iff]
  exact named_timedName_iff

end Package

end QmlExport
