import QmlExport.Package
import QmlExport.Proofs.Code.Tidy

/-!
# The members of a package

The code tree of a package mirrors the stored tree: **its files are the leaves in order, each under
its path and with its octets, a directory stands before what lies in it, and no two members share a
path** (`Mirrors`). The names of a generated tree are identifiers, so the second sanitizing of file
names changes none (`mirrors_codeMembers`).

Images, fonts and code lie in different directories, so no two members of a whole package share a
path either (`nodup_members`).
-/

namespace QmlExport.Package

open Store Text Identifier Code
open Zip (Member)

/-! ## Leaves -/

/-- The member for a leaf of the code tree. -/
def leafMember (above : String) (leaf : List String × String) : Member :=
  .file (above ++ Text.join "/" leaf.1 ++ "." ++ codeExtension) (Utf8.encode leaf.2)

/-- Every path of a leaf names at least the file. -/
theorem path_ne_nil {es : List (String × Entry)} {leaf : List String × String}
    (h : leaf ∈ filesOf es) : leaf.1 ≠ [] := by
  induction es with
  | nil => exact absurd h List.not_mem_nil
  | cons e es ih =>
    obtain ⟨name, e⟩ := e
    rw [filesOf] at h
    rcases List.mem_append.1 h with h | h
    · obtain ⟨f, _, rfl⟩ := List.mem_map.1 h
      exact List.cons_ne_nil _ _
    · exact ih h

/-- A leaf seen from a directory is one seen from the directory inside. -/
theorem leafMember_cons (above name : String) {leaf : List String × String} (h : leaf.1 ≠ []) :
    leafMember above (name :: leaf.1, leaf.2) = leafMember (above ++ name ++ "/") leaf := by
  obtain ⟨path, code⟩ := leaf
  cases path with
  | nil => exact absurd rfl h
  | cons segment path =>
    have hjoin : Text.join "/" (name :: segment :: path) =
        name ++ "/" ++ Text.join "/" (segment :: path) := rfl
    simp only [leafMember, hjoin, String.append_assoc]

mutual
theorem filter_entryMembers {n : Nat} (above name : String) (e : Entry) (hname : IsIdentifier name)
    (h : e.Tidy n) :
    (entryMembers above name e).filter Member.isFile =
      e.files.map fun leaf => leafMember above (name :: leaf.1, leaf.2) := by
  match e, n with
  | .file code, _ =>
    rw [entryMembers, sanitize_of_isIdentifier hname]
    rfl
  | .directory es, 0 => exact absurd h id
  | .directory es, n + 1 =>
    rw [entryMembers, List.filter_cons_of_neg (by simp [Member.isFile]),
      filter_codeMembers (above ++ name ++ "/") es h.2, Entry.files]
    apply List.map_congr_left
    intro leaf hleaf
    exact (leafMember_cons above name (path_ne_nil hleaf)).symm

/-- **The files of a tidy directory are its leaves in order.** -/
theorem filter_codeMembers {n : Nat} (above : String) (es : List (String × Entry))
    (h : ∀ e ∈ es, IsIdentifier e.1 ∧ e.2.Tidy n) :
    (codeMembers above es).filter Member.isFile = (filesOf es).map (leafMember above) := by
  match es with
  | [] => rfl
  | (name, e) :: es =>
    obtain ⟨he, hes⟩ := List.forall_mem_cons.1 h
    rw [codeMembers, filesOf, List.filter_append, List.map_append, List.map_map,
      filter_entryMembers above name e he.1 he.2, filter_codeMembers above es hes]
    rfl
end

/-! ## Paths -/

theorem codeMembers_eq_flatMap (above : String) (es : List (String × Entry)) :
    codeMembers above es = es.flatMap fun e => entryMembers above e.1 e.2 := by
  induction es with
  | nil => rfl
  | cons e es ih => rw [codeMembers, ih, List.flatMap_cons]

/-- The characters of a member's path. -/
def pathChars (m : Member) : List Char := m.path.toList

/-- Below a directory, the member of an entry starts with the name of the entry; a character follows
that no identifier has. -/
def StartsWith (above name : String) (p : List Char) : Prop :=
  ∃ c rest, c.isAlphanum = false ∧ p = above.toList ++ (name.toList ++ c :: rest)

theorem startsWith_directory (above name : String) (rest : List Char) :
    StartsWith above name ((above ++ name ++ "/").toList ++ rest) :=
  ⟨'/', rest, rfl, by simp [String.toList_append]⟩

mutual
theorem startsWith_entryMembers {n : Nat} (above name : String) (e : Entry)
    (hname : IsIdentifier name) (h : e.Tidy n) :
    ∀ m ∈ entryMembers above name e, StartsWith above name (pathChars m) := by
  match e, n with
  | .file code, _ =>
    intro m hm
    rw [entryMembers, sanitize_of_isIdentifier hname] at hm
    obtain rfl := List.mem_singleton.1 hm
    exact ⟨'.', codeExtension.toList, rfl, by simp [pathChars, Member.path, String.toList_append]⟩
  | .directory es, 0 => exact absurd h id
  | .directory es, n + 1 =>
    intro m hm
    rw [entryMembers] at hm
    rcases List.mem_cons.1 hm with rfl | hm
    · have hs := startsWith_directory above name []
      rwa [List.append_nil] at hs
    · obtain ⟨p, hp⟩ := exists_of_mem_codeMembers (above ++ name ++ "/") es h.2 m hm
      rw [hp.2]
      exact startsWith_directory above name p

/-- What lies in a directory has a longer path. -/
theorem exists_of_mem_codeMembers {n : Nat} (above : String) (es : List (String × Entry))
    (h : ∀ e ∈ es, IsIdentifier e.1 ∧ e.2.Tidy n) :
    ∀ m ∈ codeMembers above es, ∃ p, p ≠ [] ∧ pathChars m = above.toList ++ p := by
  match es with
  | [] => exact fun m hm => absurd hm List.not_mem_nil
  | (name, e) :: es =>
    obtain ⟨he, hes⟩ := List.forall_mem_cons.1 h
    intro m hm
    rw [codeMembers] at hm
    rcases List.mem_append.1 hm with hm | hm
    · obtain ⟨c, rest, _, hp⟩ := startsWith_entryMembers above name e he.1 he.2 m hm
      exact ⟨name.toList ++ c :: rest, by simp, hp⟩
    · exact exists_of_mem_codeMembers above es hes m hm
end

/-- What stands in front of the first character that fails a test. -/
theorem takeWhile_front {p : Char → Bool} {xs : List Char} {c : Char} {rest : List Char}
    (hall : ∀ x ∈ xs, p x) (hc : p c = false) : (xs ++ c :: rest).takeWhile p = xs := by
  rw [List.takeWhile_append_of_pos hall, List.takeWhile_cons_of_neg (by simp [hc]),
    List.append_nil]

/-- A path starts with one identifier only. -/
theorem StartsWith.name_eq {above name other : String} {p q : List Char} (hn : IsIdentifier name)
    (ho : IsIdentifier other) (hp : StartsWith above name p) (hq : StartsWith above other q)
    (h : p <+: q) : name = other := by
  obtain ⟨c, rest, hc, rfl⟩ := hp
  obtain ⟨d, rest', hd, rfl⟩ := hq
  have halphanum : ∀ {s : String}, IsIdentifier s → ∀ x ∈ s.toList, x.isAlphanum := by
    rintro s ⟨y, ys, hs, _, hall⟩
    rwa [hs]
  obtain ⟨more, hmore⟩ := h
  rw [List.append_assoc, List.append_assoc, List.append_cancel_left_eq, List.cons_append] at hmore
  -- both names are what stands in front of the first character that no identifier has
  have heq := congrArg (List.takeWhile Char.isAlphanum) hmore
  rw [takeWhile_front (halphanum hn) hc, takeWhile_front (halphanum ho) hd] at heq
  exact String.toList_inj.1 heq

/-- The path of the member does not lead into the other one. -/
def NotWithin (m m' : Member) : Prop := ¬ pathChars m' <+: pathChars m

mutual
theorem pairwise_entryMembers {n : Nat} (above name : String) (e : Entry) (h : e.Tidy n) :
    (entryMembers above name e).Pairwise NotWithin := by
  match e, n with
  | .file code, _ => exact List.pairwise_singleton _ _
  | .directory es, 0 => exact absurd h id
  | .directory es, n + 1 =>
    rw [entryMembers, List.pairwise_cons]
    refine ⟨?_, pairwise_codeMembers (above ++ name ++ "/") es h.1 h.2⟩
    intro m hm hwithin
    obtain ⟨p, hp, hpath⟩ := exists_of_mem_codeMembers (above ++ name ++ "/") es h.2 m hm
    -- what lies in the directory has a longer path than the directory
    have hlen := hwithin.length_le
    have hdir : pathChars (.directory (above ++ name ++ "/")) = (above ++ name ++ "/").toList := rfl
    rw [hpath, hdir, List.length_append] at hlen
    have hpos := List.length_pos_iff.2 hp
    omega

/-- **No member of a tidy directory lies in a later one.** -/
theorem pairwise_codeMembers {n : Nat} (above : String) (es : List (String × Entry))
    (hnd : (es.map (·.1)).Nodup) (h : ∀ e ∈ es, IsIdentifier e.1 ∧ e.2.Tidy n) :
    (codeMembers above es).Pairwise NotWithin := by
  match es with
  | [] => exact .nil
  | (name, e) :: es =>
    obtain ⟨he, hes⟩ := List.forall_mem_cons.1 h
    obtain ⟨hname, hnd⟩ := List.nodup_cons.1 hnd
    rw [codeMembers, List.pairwise_append]
    refine ⟨pairwise_entryMembers above name e he.2, pairwise_codeMembers above es hnd hes, ?_⟩
    intro m hm m' hm' hwithin
    -- the two members come from different entries, and a path starts with the name of one only
    apply hname
    rw [codeMembers_eq_flatMap] at hm'
    obtain ⟨f, hf, hm'⟩ := List.mem_flatMap.1 hm'
    have hm := startsWith_entryMembers above name e he.1 he.2 m hm
    have hm' := startsWith_entryMembers above f.1 f.2 (hes f hf).1 (hes f hf).2 m' hm'
    have hsame : f.1 = name := StartsWith.name_eq (hes f hf).1 he.1 hm' hm hwithin
    exact List.mem_map.2 ⟨f, hf, hsame⟩
end

theorem NotWithin.path_ne {m m' : Member} (h : NotWithin m m') : m.path ≠ m'.path := by
  intro hpath
  have hchars : pathChars m' = pathChars m := by simp only [pathChars, hpath]
  exact h (hchars ▸ List.prefix_refl _)

/-! ## The code tree -/

/-- The members show the tree as it is. -/
structure Mirrors (tree : Directory) (ms : List Member) : Prop where
  /-- The files are the leaves of the tree, in order. -/
  files : ms.filter Member.isFile = (filesOf tree).map (leafMember "")
  /-- A directory stands before what lies in it. -/
  ordered : ms.Pairwise fun m m' => m'.isFile = false → ¬ pathChars m' <+: pathChars m
  /-- No path is used twice. -/
  distinct : (ms.map Member.path).Nodup

/-- **A tidy tree is mirrored by its members.** -/
theorem mirrors_codeMembers {n : Nat} {tree : Directory} (h : tree.Tidy n) :
    Mirrors tree (codeMembers "" tree) where
  files := filter_codeMembers "" tree h.2
  ordered := (pairwise_codeMembers "" tree h.1 h.2).imp fun hm _ hwithin => hm hwithin
  distinct := List.pairwise_map.2 ((pairwise_codeMembers "" tree h.1 h.2).imp NotWithin.path_ne)

/-! ## All members -/

/-- The member lies in a directory of the package. -/
def Lies (directory : String) (m : Member) : Prop := StartsWith "" directory (pathChars m)

theorem lies_imageMembers (images : Files) :
    ∀ m ∈ imageMembers images, Lies Code.imagesDirectory m := by
  intro m hm
  obtain ⟨⟨name, bs⟩, _, rfl⟩ := List.mem_map.1 hm
  exact ⟨'/', name.toList, rfl, by simp [pathChars, Member.path, String.toList_append]⟩

theorem lies_fontMembers (fonts : Fonts) : ∀ m ∈ fontMembers fonts, Lies fontsDirectory m := by
  intro m hm
  obtain ⟨⟨family, files⟩, _, hm⟩ := List.mem_flatMap.1 hm
  obtain ⟨⟨name, bs⟩, _, rfl⟩ := List.mem_map.1 hm
  exact ⟨'/', family.toList ++ '/' :: name.toList, rfl,
    by simp [pathChars, Member.path, String.toList_append]⟩

theorem lies_codeMembers {n : Nat} {tree : Directory} (h : tree.Tidy n) :
    ∀ m ∈ codeMembers "" tree, ∃ name ∈ tree.names, IsIdentifier name ∧ Lies name m := by
  intro m hm
  rw [codeMembers_eq_flatMap] at hm
  obtain ⟨e, he, hm⟩ := List.mem_flatMap.1 hm
  exact ⟨e.1, List.mem_map_of_mem he, (h.2 e he).1,
    startsWith_entryMembers "" e.1 e.2 (h.2 e he).1 (h.2 e he).2 m hm⟩

/-- Members in different directories have different paths. -/
theorem Lies.path_ne {directory other : String} {m m' : Member} (hd : IsIdentifier directory)
    (ho : IsIdentifier other) (h : Lies directory m) (h' : Lies other m')
    (hne : directory ≠ other) : m.path ≠ m'.path := by
  intro hpath
  have hchars : pathChars m = pathChars m' := congrArg String.toList hpath
  exact hne (StartsWith.name_eq hd ho h h' (hchars ▸ List.prefix_refl _))

/-- The entries of a catalog have different names. -/
theorem pairwise_ne {α : Type} (c : Catalog α) :
    c.entries.Pairwise fun a b => a.1 ≠ b.1 :=
  c.increasing.imp String.ne_of_lt

theorem distinct_imageMembers (images : Files) :
    (imageMembers images).Pairwise fun m m' => m.path ≠ m'.path := by
  apply List.pairwise_map.2
  apply (pairwise_ne images).imp
  intro image other hne hpath
  apply hne
  have hchars := congrArg String.toList hpath
  simp only [Member.path, String.toList_append] at hchars
  exact String.toList_inj.1 (List.append_cancel_left hchars)

/-- A family without a slash can be told from the path of its files. -/
theorem family_eq {family other name name' : String} (hf : '/' ∉ family.toList)
    (ho : '/' ∉ other.toList) (h : fontsDirectory ++ "/" ++ family ++ "/" ++ name =
      fontsDirectory ++ "/" ++ other ++ "/" ++ name') : family = other := by
  have hslash : ("/" : String).toList = ['/'] := rfl
  have hchars := congrArg String.toList h
  simp only [String.toList_append, List.append_assoc, hslash, List.cons_append,
    List.nil_append] at hchars
  have heq := congrArg (List.takeWhile fun c => c != '/')
    (List.cons.inj (List.append_cancel_left hchars)).2
  have hfront : ∀ {s : String}, '/' ∉ s.toList → ∀ c ∈ s.toList, (c != '/') = true := by
    intro s hs c hc
    exact bne_iff_ne.2 fun h => hs (h ▸ hc)
  rw [takeWhile_front (hfront hf) rfl, takeWhile_front (hfront ho) rfl] at heq
  exact String.toList_inj.1 heq

theorem distinct_fontMembers {fonts : Fonts} (h : ∀ e ∈ fonts.entries, '/' ∉ e.1.toList) :
    (fontMembers fonts).Pairwise fun m m' => m.path ≠ m'.path := by
  refine List.pairwise_flatMap.2 ⟨?_, ?_⟩
  · -- two files of one family
    intro e _
    apply List.pairwise_map.2
    apply (pairwise_ne e.2).imp
    intro file other hne hpath
    apply hne
    have hchars := congrArg String.toList hpath
    simp only [Member.path, String.toList_append] at hchars
    exact String.toList_inj.1 (List.append_cancel_left hchars)
  · -- files of two families, which the slash keeps apart
    apply (pairwise_ne fonts).imp_of_mem
    intro e e' he he' hne m hm m' hm' hpath
    apply hne
    obtain ⟨_, _, rfl⟩ := List.mem_map.1 hm
    obtain ⟨_, _, rfl⟩ := List.mem_map.1 hm'
    exact family_eq (h e he) (h e' he') hpath

/-- The members of a package with these images and fonts and this code. -/
def membersOf (images : Files) (fonts : Fonts) (tree : Directory) : List Member :=
  imageMembers images ++ fontMembers fonts ++ codeMembers "" tree

/-- **No two members of a package share a path**, when the families have names without a slash and
the code lies neither with the images nor with the fonts. -/
theorem nodup_members {n : Nat} {images : Files} {fonts : Fonts} {tree : Directory}
    (hfonts : ∀ e ∈ fonts.entries, '/' ∉ e.1.toList) (htree : tree.Tidy n)
    (hroots : ∀ name ∈ tree.names, name ≠ Code.imagesDirectory ∧ name ≠ fontsDirectory) :
    ((membersOf images fonts tree).map Member.path).Nodup := by
  have hi : IsIdentifier Code.imagesDirectory := isIdentifier_of_toList rfl rfl rfl
  have hf : IsIdentifier fontsDirectory := isIdentifier_of_toList rfl rfl rfl
  refine List.pairwise_map.2 (List.pairwise_append.2 ⟨List.pairwise_append.2
    ⟨distinct_imageMembers images, distinct_fontMembers hfonts, ?_⟩,
    List.pairwise_map.1 (mirrors_codeMembers htree).distinct, ?_⟩)
  · intro m hm m' hm'
    exact Lies.path_ne hi hf (lies_imageMembers images m hm) (lies_fontMembers fonts m' hm')
      (by decide)
  · intro m hm m' hm'
    obtain ⟨name, hname, hid, hm'⟩ := lies_codeMembers htree m' hm'
    rcases List.mem_append.1 hm with hm | hm
    · exact Lies.path_ne hi hid (lies_imageMembers images m hm) hm' (hroots name hname).1.symm
    · exact Lies.path_ne hf hid (lies_fontMembers fonts m hm) hm' (hroots name hname).2.symm

/-! ## Files -/

/-- The number of files of a package: images, fonts and leaves of the code tree. -/
def totalFiles (images : Files) (fonts : Fonts) (tree : Directory) : Nat :=
  images.size + (fonts.entries.flatMap fun e => e.2.entries).length + (filesOf tree).length

theorem countFiles_append (ms ms' : List Member) :
    countFiles (ms ++ ms') = countFiles ms + countFiles ms' := by
  rw [countFiles, List.filter_append, List.length_append]
  rfl

theorem countFiles_imageMembers (images : Files) :
    countFiles (imageMembers images) = images.size := by
  have hall : (imageMembers images).filter Member.isFile = imageMembers images := by
    apply List.filter_eq_self.2
    intro m hm
    obtain ⟨_, _, rfl⟩ := List.mem_map.1 hm
    rfl
  rw [countFiles, hall, imageMembers, List.length_map]
  rfl

theorem countFiles_fontMembers (fonts : Fonts) :
    countFiles (fontMembers fonts) = (fonts.entries.flatMap fun e => e.2.entries).length := by
  have hall : (fontMembers fonts).filter Member.isFile = fontMembers fonts := by
    apply List.filter_eq_self.2
    intro m hm
    obtain ⟨_, _, hm⟩ := List.mem_flatMap.1 hm
    obtain ⟨_, _, rfl⟩ := List.mem_map.1 hm
    rfl
  rw [countFiles, hall, fontMembers, List.length_flatMap, List.length_flatMap]
  simp only [List.length_map]

/-- **A package has as many files as there are images, fonts and leaves.** -/
theorem countFiles_members {n : Nat} (images : Files) (fonts : Fonts) {tree : Directory}
    (h : tree.Tidy n) : countFiles (membersOf images fonts tree) = totalFiles images fonts tree := by
  have hcode : countFiles (codeMembers "" tree) = (filesOf tree).length := by
    rw [countFiles, (mirrors_codeMembers h).files, List.length_map]
  rw [membersOf, countFiles_append, countFiles_append, countFiles_imageMembers,
    countFiles_fontMembers, hcode]
  rfl

end QmlExport.Package
