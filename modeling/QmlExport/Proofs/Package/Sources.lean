import QmlExport.Proofs.Code.Rows
import QmlExport.Proofs.Package.Members

/-!
# Sources of images

The code names an image by a path from its own file: up through the directories that the file lies
in, and then down into the directory of images. `resolve` follows such a path. **Resolved from where
its file lies in a package, every source leads to the image with the file name of the asset**
(`resolve_imageSource`), for a file of a generated tree lies in as many directories as the code was
made for.
-/

namespace QmlExport

open Text

/-! ## Following a path -/

/-- Follow one segment of a path from a directory. -/
def follow (directory : List (List Char)) (segment : List Char) : List (List Char) :=
  if segment = ['.', '.'] then directory.dropLast
  else if segment = ['.'] then directory
  else directory ++ [segment]

/-- Where a path leads that stands in a file at this location. -/
def resolve (location reference : String) : String :=
  String.ofList (glue '/' ((pieces (· == '/') reference.toList).foldl follow
    (pieces (· == '/') location.toList).dropLast))

theorem follow_of_ne {segment : List Char} (hup : segment ≠ ['.', '.']) (hstay : segment ≠ ['.'])
    (directory : List (List Char)) : follow directory segment = directory ++ [segment] := by
  rw [follow, if_neg hup, if_neg hstay]

/-- Going up through all directories leads to the top. -/
theorem foldl_follow_up (directory : List (List Char)) :
    (List.replicate directory.length ['.', '.']).foldl follow directory = [] := by
  induction hn : directory.length generalizing directory with
  | zero => exact List.length_eq_zero_iff.1 hn
  | succ k ih =>
    have hlength : directory.dropLast.length = k := by rw [List.length_dropLast, hn]; rfl
    rw [List.replicate_succ, List.foldl_cons, follow, if_pos rfl]
    exact ih directory.dropLast hlength

namespace Code

open Design

/-- A source is the file name of the asset behind a front without carriage returns and without the
first letter of a marker. -/
theorem imageSource_eq (depth : Nat) (a : Asset) : ∃ front,
    (imageSource depth a).toList = front ++ a.fileName.toList ∧
      'E' ∉ front ∧ '\r' ∉ front := by
  induction depth with
  | zero =>
    refine ⟨imagesDirectory.toList ++ ['/'], ?_, by decide⟩
    simp [imageSource, upward]
  | succ depth ih =>
    obtain ⟨front, hsplit, hfront⟩ := ih
    refine ⟨['.', '.', '/'] ++ front, ?_, ?_⟩
    · rw [List.append_assoc, ← hsplit]
      simp [imageSource, upward, List.replicate_succ]
    · simpa using hfront

/-- The way up is one piece for each directory. -/
theorem pieces_upward (depth : Nat) (rest : List Char) :
    pieces (· == '/') ((upward depth).toList ++ rest) =
      List.replicate depth ['.', '.'] ++ pieces (· == '/') rest := by
  induction depth with
  | zero => simp [upward]
  | succ depth ih =>
    have hsplit : (upward (depth + 1)).toList ++ rest =
        ['.', '.'] ++ '/' :: ((upward depth).toList ++ rest) := by
      simp [upward, List.replicate_succ]
    have hup : '/' ∉ ['.', '.'] := by decide
    rw [hsplit, pieces_append rfl, pieces_of_not_mem hup, ih, List.replicate_succ]
    rfl

/-- **As many steps up as there are directories lead to the top**, wherever the path goes on. -/
theorem resolve_upward {location : String} {depth : Nat}
    (hlocation : (pieces (· == '/') location.toList).length = depth + 1) (rest : String) :
    resolve location (upward depth ++ rest) = resolve "" rest := by
  have hlength : (pieces (· == '/') location.toList).dropLast.length = depth := by
    rw [List.length_dropLast, hlocation]
    rfl
  have htop := foldl_follow_up (pieces (· == '/') location.toList).dropLast
  rw [hlength] at htop
  rw [resolve, String.toList_append, pieces_upward, List.foldl_append, htop]
  rfl

/-- A file name is what stands behind the last slash. -/
theorem slash_not_mem_fileName (a : Asset) : '/' ∉ a.fileName.toList := by
  rw [Asset.fileName, String.toList_ofList]
  intro hmem
  exact absurd (not_isSep_of_mem_pieces (lastPiece_mem _) _ hmem) (by decide)

/-- **A source leads to the image with the file name of the asset**, from any file that lies in so
many directories. -/
theorem resolve_imageSource {location : String} {depth : Nat} {a : Asset}
    (hlocation : (pieces (· == '/') location.toList).length = depth + 1)
    (hup : a.fileName ≠ "..") (hstay : a.fileName ≠ ".") :
    resolve location (imageSource depth a) = imagesDirectory ++ "/" ++ a.fileName := by
  have hdirectory : '/' ∉ imagesDirectory.toList := by decide
  have hslash := slash_not_mem_fileName a
  have hpieces : pieces (· == '/') (imagesDirectory ++ "/" ++ a.fileName).toList =
      [imagesDirectory.toList, a.fileName.toList] := by
    have hsplit : (imagesDirectory ++ "/" ++ a.fileName).toList =
        imagesDirectory.toList ++ '/' :: a.fileName.toList := by
      simp
    rw [hsplit, pieces_append rfl, pieces_of_not_mem hdirectory, pieces_of_not_mem hslash]
    rfl
  have himages : follow [] imagesDirectory.toList = [imagesDirectory.toList] :=
    follow_of_ne (by decide) (by decide) []
  have hname : follow [imagesDirectory.toList] a.fileName.toList =
      [imagesDirectory.toList, a.fileName.toList] :=
    follow_of_ne (fun h => hup (String.toList_inj.1 h)) (fun h => hstay (String.toList_inj.1 h)) _
  rw [imageSource, String.append_assoc, String.append_assoc, resolve_upward hlocation, resolve,
    ← String.append_assoc, hpieces]
  show String.ofList (glue '/' (follow (follow [] _) _)) = _
  rw [himages, hname, ← String.toList_inj]
  simp [glue]

/-! ## Leaves -/

mutual
/-- The names on the way to a file are identifiers. -/
theorem isIdentifier_of_mem_files {n : Nat} (e : Entry) (h : e.Tidy n) :
    ∀ leaf ∈ e.files, ∀ name ∈ leaf.1, Identifier.IsIdentifier name := by
  match e, n with
  | .file code, _ =>
    intro leaf hleaf name hname
    rw [List.mem_singleton.1 hleaf] at hname
    exact absurd hname List.not_mem_nil
  | .directory es, 0 => exact absurd h id
  | .directory es, n + 1 => exact isIdentifier_of_mem_filesOf es h.2

theorem isIdentifier_of_mem_filesOf {n : Nat} (es : List (String × Entry))
    (h : ∀ e ∈ es, Identifier.IsIdentifier e.1 ∧ e.2.Tidy n) :
    ∀ leaf ∈ filesOf es, ∀ name ∈ leaf.1, Identifier.IsIdentifier name := by
  match es with
  | [] => exact fun leaf hleaf => absurd hleaf List.not_mem_nil
  | (first, e) :: es =>
    obtain ⟨⟨hfirst, he⟩, hes⟩ := List.forall_mem_cons.1 h
    intro leaf hleaf name hname
    rw [filesOf] at hleaf
    rcases List.mem_append.1 hleaf with hleaf | hleaf
    · obtain ⟨inner, hinner, rfl⟩ := List.mem_map.1 hleaf
      rcases List.mem_cons.1 hname with rfl | hname
      · exact hfirst
      · exact isIdentifier_of_mem_files e he inner hinner name hname
    · exact isIdentifier_of_mem_filesOf es hes leaf hleaf name hname
end

end Code

namespace Package

open Code

/-- Names without slashes are cut apart again. -/
theorem length_pieces_join {names : List String} {ending : List Char} (hne : names ≠ [])
    (hnames : ∀ name ∈ names, '/' ∉ name.toList) (hending : '/' ∉ ending) :
    (pieces (· == '/') ((join "/" names).toList ++ ending)).length = names.length := by
  induction names with
  | nil => exact absurd rfl hne
  | cons name names ih =>
    obtain ⟨hname, hrest⟩ := List.forall_mem_cons.1 hnames
    cases names with
    | nil =>
      have hall : '/' ∉ name.toList ++ ending := by simp [hname, hending]
      rw [join, pieces_of_not_mem hall]
      rfl
    | cons other names =>
      have hsplit : (join "/" (name :: other :: names)).toList ++ ending =
          name.toList ++ '/' :: ((join "/" (other :: names)).toList ++ ending) := by
        simp [join]
      rw [hsplit, pieces_append rfl, pieces_of_not_mem hname, List.length_append,
        ih (List.cons_ne_nil _ _) hrest, List.length_singleton, List.length_cons (a := name),
        Nat.add_comm]

/-- The path of a leaf has as many pieces as the leaf has names. -/
theorem length_pieces_leafMember {n : Nat} {tree : Directory} (h : tree.Tidy n)
    {leaf : List String × String} (hleaf : leaf ∈ filesOf tree) :
    (pieces (· == '/') (leafMember "" leaf).path.toList).length = leaf.1.length := by
  have hnames : ∀ name ∈ leaf.1, '/' ∉ name.toList := by
    intro name hname hslash
    obtain ⟨c, cs, hchars, _, hall⟩ := isIdentifier_of_mem_filesOf tree h.2 leaf hleaf name hname
    rw [hchars] at hslash
    exact absurd (hall _ hslash) (by decide)
  have hpath : (leafMember "" leaf).path.toList =
      (join "/" leaf.1).toList ++ ('.' :: codeExtension.toList) := by
    simp [leafMember, Zip.Member.path]
  rw [hpath, length_pieces_join (path_ne_nil hleaf) hnames (by decide)]

end Package

end QmlExport
