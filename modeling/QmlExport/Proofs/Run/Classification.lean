import QmlExport.Proofs.Disk.Paths
import QmlExport.Proofs.Text.Lines
import QmlExport.Run.Split

/-!
# What the files of an archive are

A file of an archive is an image or a document by the final segment of its path, which is what stands
behind the last slash or backslash (`finalSegment_iff`):

    a/b\home.PNG       ──▶  home.PNG        an image: a stem, a dot, and `png`
    b/Home.Metadata    ──▶  Home.Metadata   a document: it ends with `.metadata`
    b/.png             ──▶  .png            neither: there is no stem

The case of letters does not matter for what a file is (`isImage_iff`, `isDocument_iff`), and **no
document is an image** (`DocumentNamed.not_imageNamed`).
-/

namespace QmlExport.Run

open Text

/-! ## Final segments -/

/-- The final segment of a path: what stands behind the last slash or backslash. -/
def FinalSegment (path segment : String) : Prop :=
  (∀ c ∈ segment.toList, c ≠ '/' ∧ c ≠ '\\') ∧
    (path = segment ∨ ∃ front sep, (sep = '/' ∨ sep = '\\') ∧
      path.toList = front ++ sep :: segment.toList)

theorem finalSegment_iff {path segment : String} :
    FinalSegment path segment ↔ entryFileName path = segment := by
  have hlist : entryFileName path = segment ↔
      lastPiece (fun c => c == '/' || c == '\\') path.toList = segment.toList := by
    rw [entryFileName, ← String.toList_inj, String.toList_ofList]
  rw [hlist, lastPiece_eq_iff, FinalSegment]
  simp [String.toList_inj]

theorem finalSegment_entryFileName (path : String) : FinalSegment path (entryFileName path) :=
  finalSegment_iff.2 rfl

theorem single_entryFileName (path : String) : Path.Single (entryFileName path) :=
  fun h => ((finalSegment_entryFileName path).1 _ h).1 rfl

/-! ## Images -/

/-- A name with a stem and the extension of images. -/
def ImageNamed (name : String) : Prop :=
  ∃ stem ext, name.toList = stem ++ '.' :: ext ∧ stem ≠ [] ∧
    ∃ known ∈ imageExtensions, sameIgnoringCase known.toList ext

/-- Texts that are the same but for the case of their letters have the same lower case. -/
theorem sameIgnoringCase_iff {as bs : List Char} :
    sameIgnoringCase as bs ↔ asciiLower as = asciiLower bs := beq_iff_eq

theorem length_eq_of_sameIgnoringCase {as bs : List Char} (h : sameIgnoringCase as bs) :
    as.length = bs.length := by
  have hlength := congrArg List.length (sameIgnoringCase_iff.1 h)
  rwa [asciiLower, asciiLower, List.length_map, List.length_map] at hlength

/-- There is no dot in the extension of an image. -/
theorem dot_not_mem_of_known {known : String} (hknown : known ∈ imageExtensions) {ext : List Char}
    (h : sameIgnoringCase known.toList ext) : '.' ∉ ext := by
  intro hmem
  have hdot : '.' ∈ asciiLower ext := List.mem_map_of_mem (f := Char.toLower) hmem
  rw [← sameIgnoringCase_iff.1 h] at hdot
  have hnone : ∀ known ∈ imageExtensions, '.' ∉ asciiLower known.toList := by decide
  exact hnone known hknown hdot

/-- **A file is an image if its name has a stem and the extension of images.** -/
theorem isImage_iff {name : String} (h : Path.Single name) : isImage name ↔ ImageNamed name := by
  have hnonempty : ∀ known ∈ imageExtensions, known.toList.length ≠ 0 := by decide
  have hany : isImage name ↔ ∃ ext, Path.extension? ⟨name⟩ = some ext ∧
      ∃ known ∈ imageExtensions, sameIgnoringCase known.toList ext.toList := by
    unfold isImage
    cases Path.extension? ⟨name⟩ <;> simp
  rw [hany]
  constructor
  · rintro ⟨ext, hext, known, hknown, hsame⟩
    have hne : ext ≠ "" := by
      rintro rfl
      exact hnonempty known hknown (length_eq_of_sameIgnoringCase hsame)
    obtain ⟨stem, hname, hstem, _⟩ := (h.extension?_eq_some_iff hne).1 hext
    exact ⟨stem, ext.toList, hname, hstem, known, hknown, hsame⟩
  · rintro ⟨stem, ext, hname, hstem, known, hknown, hsame⟩
    have hne : String.ofList ext ≠ "" := by
      intro heq
      have hnil : ext = [] := by rw [← String.toList_ofList (l := ext), heq]; rfl
      rw [hnil] at hsame
      exact hnonempty known hknown (length_eq_of_sameIgnoringCase hsame)
    refine ⟨String.ofList ext, (h.extension?_eq_some_iff hne).2 ⟨stem, ?_⟩, known, hknown, ?_⟩
    · rw [String.toList_ofList]
      exact ⟨hname, hstem, dot_not_mem_of_known hknown hsame⟩
    · rwa [String.toList_ofList]

/-! ## Documents -/

/-- A name with the ending of documents, in any case. -/
def DocumentNamed (name : String) : Prop :=
  ∃ stem ending, name.toList = stem ++ ending ∧ sameIgnoringCase ending documentEnding.toList

theorem isDocument_iff {name : String} : isDocument name ↔ DocumentNamed name := by
  have hlower : asciiLower documentEnding.toList = documentEnding.toList := by decide
  unfold isDocument endsWith DocumentNamed
  simp only [sameIgnoringCase_iff, hlower, List.isSuffixOf_iff_suffix]
  constructor
  · rintro ⟨front, hsuffix⟩
    obtain ⟨stem, ending, hname, _, hending⟩ := List.map_eq_append_iff.1 hsuffix.symm
    exact ⟨stem, ending, hname, hending⟩
  · rintro ⟨stem, ending, hname, hending⟩
    refine ⟨asciiLower stem, ?_⟩
    rw [hname, ← hending]
    exact (List.map_append ..).symm

/-- What stands behind the last dot of a document, in lower case. -/
theorem DocumentNamed.lastPiece {name : String} (h : DocumentNamed name) :
    lastPiece (· == '.') (asciiLower name.toList) = "metadata".toList := by
  obtain ⟨stem, ending, hname, hsame⟩ := h
  have hlower : asciiLower documentEnding.toList = '.' :: "metadata".toList := by decide
  rw [hname, asciiLower, List.map_append, ← asciiLower, ← asciiLower, sameIgnoringCase_iff.1 hsame,
    hlower, lastPiece_append rfl]
  decide

/-- **No document is an image.** -/
theorem DocumentNamed.not_imageNamed {name : String} (h : DocumentNamed name) :
    ¬ ImageNamed name := by
  rintro ⟨stem, ext, hname, _, known, hknown, hsame⟩
  have hlast := h.lastPiece
  have hdot : Char.toLower '.' = '.' := by decide
  rw [hname, asciiLower, List.map_append, List.map_cons, hdot, lastPiece_append rfl, ← asciiLower,
    ← sameIgnoringCase_iff.1 hsame] at hlast
  have hother : ∀ known ∈ imageExtensions,
      Text.lastPiece (· == '.') (asciiLower known.toList) ≠ "metadata".toList := by decide
  exact hother known hknown hlast

/-- What is named as the document of an upload should be is a document. -/
theorem documentNamed_of_expected {name uploadName : String}
    (h : sameIgnoringCase name.toList (expectedDocument uploadName).toList) :
    DocumentNamed name := by
  have hlower := sameIgnoringCase_iff.1 h
  rw [expectedDocument, String.toList_append, asciiLower, asciiLower, List.map_append] at hlower
  obtain ⟨stem, ending, hname, _, hending⟩ := List.map_eq_append_iff.1 hlower
  exact ⟨stem, ending, hname, sameIgnoringCase_iff.2 hending⟩

end QmlExport.Run
