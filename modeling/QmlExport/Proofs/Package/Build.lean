import QmlExport.Proofs.Package.Members
import QmlExport.Proofs.Package.ReadOnly

/-!
# What a package holds

When the store holds the generated tree of a document, the package is that tree next to the images
and fonts of the store (`build_generated`). The members all have different paths, so writing them
fails only for a level that the format does not know, and the package has **one file for each image,
each font and each leaf of the tree; without any there is nothing to package**.
-/

namespace QmlExport

open Store Text Identifier Code Job
open Zip (Member)

/-! ## Roots -/

namespace Code

/-- A generated tree has two directories at the top. -/
theorem names_generate (o : Design.Options) (d : Design.Document) :
    (generate o d).1.names = [rootDirectory, componentsDirectory] := by
  have hroot : sanitize rootDirectory = rootDirectory :=
    sanitize_of_isIdentifier (isIdentifier_of_toList rfl rfl rfl)
  have hcomponents : sanitize componentsDirectory = componentsDirectory :=
    sanitize_of_isIdentifier (isIdentifier_of_toList rfl rfl rfl)
  have hnames : ∀ e f : Entry, (Directory.insertUnique
      (Directory.insertUnique [] (sanitize rootDirectory) e) (sanitize componentsDirectory) f).names
        = [rootDirectory, componentsDirectory] := by
    intro e f
    rw [hroot, hcomponents]
    rfl
  exact hnames _ _

end Code

namespace Package

/-! ## Writing -/

/-- Members with different paths are written, or else the level is not known. -/
theorem run_packAll (level : Int) (total : Nat) (ms : List Member) (used : List String)
    (written : Nat) (b : Bench) (hnd : (ms.map Member.path).Nodup)
    (hused : ∀ m ∈ ms, m.path ∉ used) :
    ((packAll level total used written ms).run b).1 =
      if Zip.isLevel level ∨ countFiles ms = 0 then .ok () else .error unwritable := by
  induction ms generalizing used written b with
  | nil =>
    rw [if_pos (.inr rfl)]
    rfl
  | cons m ms ih =>
    obtain ⟨hm, hdistinct⟩ := List.nodup_cons.1 hnd
    obtain ⟨hfresh, hused⟩ := List.forall_mem_cons.1 hused
    have hcontains : used.contains m.path = false := by simpa using hfresh
    -- the paths that are left stay new when this one is used up
    have hrest : ∀ m' ∈ ms, m'.path ∉ m.path :: used := by
      intro m' hm' hmem
      rcases List.mem_cons.1 hmem with heq | hmem
      · exact hm (heq ▸ List.mem_map_of_mem hm')
      · exact hused m' hm' hmem
    rw [run_packAll_cons, hcontains, Bool.or_false]
    cases m with
    | directory path =>
      rw [if_neg (by simp [Member.isFile]), ih _ _ _ hdistinct hrest]
      rfl
    | file path bs =>
      have hcount : countFiles (.file path bs :: ms) ≠ 0 := Nat.succ_ne_zero _
      cases hlevel : Zip.isLevel level with
      | false =>
        rw [if_pos (by simp [Member.isFile]), if_neg (by simp [hcount])]
      | true =>
        rw [if_neg (by simp [Member.isFile]), ih _ _ _ hdistinct hrest, if_pos (.inl hlevel),
          if_pos (.inl rfl)]

theorem run_pack (level : Int) {ms : List Member} (hnd : (ms.map Member.path).Nodup) (b : Bench) :
    ((pack level ms).run b).1 =
      if Zip.isLevel level ∨ countFiles ms = 0 then .ok (Zip.encode ms) else .error unwritable := by
  have hall := run_packAll level (countFiles ms) ms [] 0 b hnd fun _ _ => List.not_mem_nil
  unfold pack
  by_cases h : Zip.isLevel level ∨ countFiles ms = 0
  · rw [if_pos h] at hall ⊢
    rw [run_bind_ok (Prod.ext hall rfl)]
    rfl
  · rw [if_neg h] at hall ⊢
    rw [run_bind_error (Prod.ext hall rfl)]

/-! ## Reading -/

/-- What counts as images. -/
def imagesIn : Option Content → Files
  | some (.files images) => images
  | _ => .empty

theorem run_storedImages {s : Storage} {c : Option Content} (h : s.content .images = .ok c) :
    storedImages.run s = (.ok (imageMembers (imagesIn c)), s) := by
  have hget := s.run_getContent .images
  rw [h] at hget
  unfold storedImages
  rw [run_bind_ok hget]
  rcases c with _ | _ | _ | _ | _ <;> rfl

theorem run_storedFonts {s : Storage} {fonts : Fonts} (h : Run.loaded s = .ok fonts) :
    storedFonts.run s = (.ok (fontMembers fonts), s) := by
  have hload := Run.run_load s
  rw [h] at hload
  unfold storedFonts
  rw [run_bind_ok hload]
  rfl

theorem run_storedCode {s : Storage} {tree : Directory}
    (h : s.content .code = .ok (some (.code tree))) :
    storedCode.run s = (.ok (codeMembers "" tree), s) := by
  have hget := s.run_getContent .code
  rw [h] at hget
  unfold storedCode
  rw [run_bind_ok hget]
  rfl

/-- What a package is named after, when this is the document of the store. -/
def baseOf : Option MetadataRecord → Option String
  | none => none
  | some r => (spoken? r.fileName).or (r.document.info.bind fun i => spoken? i.name)

theorem run_baseName (s : Storage) : baseName.run s = (s.document.map baseOf, s) := by
  have hget := s.run_getDocument
  unfold baseName
  cases hdoc : s.document with
  | error f =>
    rw [hdoc] at hget
    exact run_bind_error hget
  | ok r =>
    rw [hdoc] at hget
    rw [run_bind_ok hget]
    cases r with
    | none => rfl
    | some r =>
      simp only [Except.map, baseOf]
      cases spoken? r.fileName <;> rfl

theorem category_of_octets {s : Storage} {p : Partition} {k : Key} {f : Failure}
    (h : s.octets p k = .error f) : f.category = .database := by
  cases s with
  | memory m => cases h
  | folder root disk =>
    have hread : Folder.read root disk p k.name = .error f := h
    unfold Folder.read at hread
    simp only at hread
    split at hread
    · cases hread
    · cases hread
    · obtain rfl := Except.error.inj hread
      rfl

theorem category_of_recordIn {p : Partition} {bs : Option Bytes} {f : Failure}
    (h : recordIn p bs = .error f) : f.category = .database := by
  unfold recordIn at h
  split at h
  · cases h
  · split at h
    · cases h
    · obtain rfl := Except.error.inj h
      rfl

/-- A document that cannot be read is a failure of the store. -/
theorem category_of_document {s : Storage} {f : Failure} (h : s.document = .error f) :
    f.category = .database := by
  unfold Storage.document Storage.record at h
  cases hoctets : s.octets .metadata .metadata with
  | error g =>
    rw [hoctets] at h
    exact Except.error.inj h ▸ category_of_octets hoctets
  | ok bs =>
    have hbind : (Except.ok bs >>= recordIn .metadata) = recordIn .metadata bs := rfl
    rw [hoctets, hbind] at h
    cases hrecord : recordIn .metadata bs with
    | error g =>
      rw [hrecord] at h
      exact Except.error.inj h ▸ category_of_recordIn hrecord
    | ok r =>
      rw [hrecord] at h
      cases h

/-! ## Building -/

section

variable {s : Storage}

theorem ends_pack (level : Int) {ms : List Member} (hnd : (ms.map Member.path).Nodup)
    (s : Storage) : Run.Ends (pack level ms) s
      (if Zip.isLevel level ∨ countFiles ms = 0 then .ok (Zip.encode ms) else .error unwritable)
      s := by
  intro b hb
  exact ⟨_, Prod.ext (run_pack level hnd b) rfl, (preserves_pack level ms b).trans hb⟩

/-- What comes of packing under a name, when there is something to pack. -/
theorem ends_finish (millis : String) (level : Int) {ms : List Member}
    (hnd : (ms.map Member.path).Nodup) (hcount : countFiles ms ≠ 0) (s : Storage) :
    Run.Ends (finish millis level ms) s
      (s.document >>= fun r =>
        if Zip.isLevel level then
          .ok ⟨fileName millis (baseOf r), countFiles ms, Zip.encode ms⟩
        else .error unwritable) s := by
  have hbase := run_baseName s
  have hpack := ends_pack level hnd s
  cases hdoc : s.document with
  | error f =>
    rw [hdoc] at hbase
    exact .fail (.onStorage hbase)
  | ok r =>
    rw [hdoc] at hbase
    refine .bind (.onStorage hbase) ?_
    show Run.Ends _ s (if Zip.isLevel level then _ else _) s
    by_cases hlevel : Zip.isLevel level
    · rw [if_pos (.inl hlevel)] at hpack
      rw [if_pos hlevel]
      exact .bind hpack (.bind (.progress _ _) (.bind (.say _ _) (.pure _ _)))
    · rw [if_neg (not_or.2 ⟨hlevel, hcount⟩)] at hpack
      rw [if_neg hlevel]
      exact .fail hpack

/-- Building is reading everything, refusing to pack nothing, and packing under a name. -/
theorem ends_build (millis : String) (level : Int) {c : Option Content} {fonts : Fonts}
    {tree : Directory} (himages : s.content .images = .ok c) (hfonts : Run.loaded s = .ok fonts)
    (hcode : s.content .code = .ok (some (.code tree)))
    (hnd : ((membersOf (imagesIn c) fonts tree).map Member.path).Nodup) :
    Run.Ends (build millis level) s
      (if countFiles (membersOf (imagesIn c) fonts tree) = 0 then .error nothing
      else s.document >>= fun r =>
        if Zip.isLevel level then
          .ok ⟨fileName millis (baseOf r), countFiles (membersOf (imagesIn c) fonts tree),
            Zip.encode (membersOf (imagesIn c) fonts tree)⟩
        else .error unwritable) s := by
  refine .bind (.progress _ _) (.bind (.say _ _) ?_)
  refine .bind (.onStorage (run_storedImages himages)) (.bind (.progress _ _) ?_)
  refine .bind (.onStorage (run_storedFonts hfonts)) (.bind (.progress _ _) ?_)
  refine .bind (.onStorage (run_storedCode hcode)) (.bind (.progress _ _) ?_)
  by_cases hcount : countFiles (membersOf (imagesIn c) fonts tree) = 0
  · rw [if_pos hcount]
    unfold membersOf at hcount
    simp only [hcount, if_true]
    exact .fail (.throw _ _)
  · rw [if_neg hcount]
    have hfinish := ends_finish millis level hnd hcount s
    unfold membersOf at hcount hfinish ⊢
    simp only [hcount, if_false]
    exact hfinish

end

/-! ## Packages that were built -/

theorem nodup_of_packAll {level : Int} {total : Nat} {ms : List Member} {used : List String}
    {written : Nat} {b b' : Bench}
    (h : (packAll level total used written ms).run b = (.ok (), b')) :
    (ms.map Member.path).Nodup ∧ ∀ m ∈ ms, m.path ∉ used := by
  induction ms generalizing used written b with
  | nil => exact ⟨List.nodup_nil, nofun⟩
  | cons m ms ih =>
    rw [run_packAll_cons] at h
    split at h
    · cases h
    · next hnew =>
      obtain ⟨hnd, hrest⟩ := ih h
      simp only [Bool.or_eq_true, not_or, List.contains_iff_mem] at hnew
      refine ⟨List.nodup_cons.2 ⟨?_, hnd⟩, List.forall_mem_cons.2 ⟨hnew.2, ?_⟩⟩
      · intro hmem
        obtain ⟨m', hm', hpath⟩ := List.mem_map.1 hmem
        exact hrest m' hm' (hpath ▸ List.mem_cons_self)
      · exact fun m' hm' hmem => hrest m' hm' (List.mem_cons_of_mem _ hmem)

theorem of_pack {level : Int} {ms : List Member} {b b' : Bench} {bytes : Bytes}
    (h : (pack level ms).run b = (.ok bytes, b')) :
    bytes = Zip.encode ms ∧ (ms.map Member.path).Nodup := by
  obtain ⟨_, _, hall, hbytes⟩ := run_bind_eq_ok h
  cases hbytes
  exact ⟨rfl, (nodup_of_packAll hall).1⟩

/-- What a storage gives to be packed. -/
def collected (s : Storage) : Except Failure (List Member) := do
  let images ← (storedImages.run s).1
  let fonts ← (storedFonts.run s).1
  let code ← (storedCode.run s).1
  .ok (images ++ fonts ++ code)

theorem run_of_preserves {α : Type} {a : Action α} (h : Preserves id a) (s : Storage) :
    a.run s = ((a.run s).1, s) :=
  Prod.ext rfl (h s)

/-- **What a package was built of**: of all that the storage gives. -/
theorem collected_of_build {s : Storage} {millis : String} {level : Int} {b b' : Bench}
    {packed : Packed} (hb : b.storage = s)
    (h : (build millis level).run b = (.ok packed, b')) :
    ∃ ms, collected s = .ok ms ∧ countFiles ms ≠ 0 ∧ packed.fileCount = countFiles ms ∧
      packed.bytes = Zip.encode ms ∧ (ms.map Member.path).Nodup := by
  have himages := run_of_preserves preserves_storedImages s
  have hfonts := run_of_preserves preserves_storedFonts s
  have hcode := run_of_preserves preserves_storedCode s
  unfold build at h
  obtain ⟨_, b, _, hb, h⟩ := Run.Ends.behind (.progress _ _) hb h
  obtain ⟨_, b, _, hb, h⟩ := Run.Ends.behind (.say _ _) hb h
  obtain ⟨images, b, hreadImages, hb, h⟩ := Run.Ends.behind (.onStorage himages) hb h
  obtain ⟨_, b, _, hb, h⟩ := Run.Ends.behind (.progress _ _) hb h
  obtain ⟨fonts, b, hreadFonts, hb, h⟩ := Run.Ends.behind (.onStorage hfonts) hb h
  obtain ⟨_, b, _, hb, h⟩ := Run.Ends.behind (.progress _ _) hb h
  obtain ⟨code, b, hreadCode, hb, h⟩ := Run.Ends.behind (.onStorage hcode) hb h
  obtain ⟨_, b, _, hb, h⟩ := Run.Ends.behind (.progress _ _) hb h
  have hcollected : collected s = .ok (images ++ fonts ++ code) := by
    rw [collected, hreadImages, hreadFonts, hreadCode]
    rfl
  simp only at h
  split at h
  · -- with nothing to package there would be no package
    obtain ⟨_, _, hthrow, _⟩ := run_bind_eq_ok h
    cases hthrow
  · next hcount =>
    have hfinish : (finish millis level (images ++ fonts ++ code)).run b = (.ok packed, b') := h
    obtain ⟨_, _, _, h⟩ := run_bind_eq_ok hfinish
    obtain ⟨bytes, _, hpack, h⟩ := run_bind_eq_ok h
    obtain ⟨rfl, hnodup⟩ := of_pack hpack
    cases h
    exact ⟨_, hcollected, hcount, rfl, rfl, hnodup⟩

/-- What a package was built of, when the images and the code are known. -/
theorem of_build {s : Storage} {millis : String} {level : Int} {b b' : Bench} {packed : Packed}
    {c : Option Content} {tree : Directory} (hb : b.storage = s)
    (himages : s.content .images = .ok c) (hcode : s.content .code = .ok (some (.code tree)))
    (h : (build millis level).run b = (.ok packed, b')) :
    ∃ fonts, packed.bytes = Zip.encode (membersOf (imagesIn c) fonts tree) ∧
      ((membersOf (imagesIn c) fonts tree).map Member.path).Nodup := by
  obtain ⟨ms, hms, _, _, hbytes, hnodup⟩ := collected_of_build hb h
  rw [collected, run_storedImages himages, run_storedCode hcode] at hms
  cases hloaded : Run.loaded s with
  | ok fonts =>
    rw [run_storedFonts hloaded] at hms
    cases hms
    exact ⟨fonts, hbytes, hnodup⟩
  | error f =>
    have hfonts : (storedFonts.run s).1 = .error f := by
      have hload := Run.run_load s
      rw [hloaded] at hload
      exact congrArg Prod.fst (run_bind_error hload)
    rw [hfonts] at hms
    cases hms

/-! ## Generated trees -/

/-- What packaging owes to a store with these images and fonts and this tree of code. -/
structure Complete (images : Files) (fonts : Fonts) (tree : Directory)
    (document : Except Failure (Option MetadataRecord)) (millis : String) (level : Int)
    (result : Except Failure Packed) : Prop where
  /-- The code in the package is the tree. -/
  mirrors : Mirrors tree (codeMembers "" tree)
  /-- All members have different paths. -/
  distinct : ((membersOf images fonts tree).map Member.path).Nodup
  /-- There is nothing to package exactly when there is no file at all. -/
  nothing_iff : result = .error nothing ↔ totalFiles images fonts tree = 0
  /-- Otherwise all of it is packed, unless the document cannot be read or the level is not known. -/
  packed : totalFiles images fonts tree ≠ 0 → result = document >>= fun r =>
    if Zip.isLevel level then
      .ok ⟨fileName millis (baseOf r), totalFiles images fonts tree,
        Zip.encode (membersOf images fonts tree)⟩
    else .error unwritable

/-- No other failure of packaging is the one of a store without output. -/
theorem bind_ne_nothing {document : Except Failure (Option MetadataRecord)}
    (hdoc : ∀ f, document = .error f → f.category = .database) {level : Int}
    {packed : Option MetadataRecord → Packed} :
    (document >>= fun r => if Zip.isLevel level then .ok (packed r) else .error unwritable) ≠
      .error nothing := by
  cases document with
  | error f =>
    intro h
    have hcategory := hdoc f rfl
    rw [Except.error.inj h] at hcategory
    cases hcategory
  | ok r =>
    show (if Zip.isLevel level then _ else _) ≠ _
    by_cases hlevel : Zip.isLevel level
    · rw [if_pos hlevel]
      exact nofun
    · rw [if_neg hlevel]
      intro h
      exact absurd (congrArg Failure.message (Except.error.inj h)) (by decide)

/-- **The package of a generated tree is complete**, whatever the document, the options, the images
and the fonts, as long as no family has a slash in its name. -/
theorem build_generated (o : Design.Options) (d : Design.Document) (millis : String) (level : Int)
    {b : Bench} {c : Option Content} {fonts : Fonts}
    (hcode : b.storage.content .code = .ok (some (.code (generate o d).1)))
    (himages : b.storage.content .images = .ok c) (hfonts : Run.loaded b.storage = .ok fonts)
    (hslash : ∀ e ∈ fonts.entries, '/' ∉ e.1.toList) :
    Complete (imagesIn c) fonts (generate o d).1 b.storage.document millis level
      ((build millis level).run b).1 := by
  have htidy := tidy_generate o d
  have hnd : ((membersOf (imagesIn c) fonts (generate o d).1).map Member.path).Nodup := by
    refine nodup_members hslash htidy ?_
    intro name hname
    rw [names_generate] at hname
    revert name
    decide
  have hcount := countFiles_members (imagesIn c) fonts htidy
  have hbuild := (ends_build millis level himages hfonts hcode hnd).result rfl
  rw [hcount] at hbuild
  refine ⟨mirrors_codeMembers htidy, hnd, ?_, ?_⟩
  · rw [hbuild]
    by_cases htotal : totalFiles (imagesIn c) fonts (generate o d).1 = 0
    · rw [if_pos htotal]
      exact iff_of_true rfl htotal
    · -- reading the document and writing the archive fail in other ways
      rw [if_neg htotal]
      exact iff_of_false (bind_ne_nothing fun _ => category_of_document) htotal
  · intro htotal
    rw [hbuild, if_neg htotal]

/-- A document with two artboards of one name. -/
def twoArtboards : Design.Document :=
  let home : Design.Node := ⟨"Home", none, none, none, none, none, [], .empty⟩
  ⟨[home, home], [], none⟩

theorem build_generated_two_artboards : ∃ s : Storage,
    s.content .code = .ok (some (.code (generate .none twoArtboards).1)) ∧
    s.content .images = .ok (some (.files (.ofList [("logo.png", [1])]))) ∧
    Run.loaded s = .ok (.ofList [("Inter", .ofList [("Inter-700.ttf", [2])])]) ∧
    Complete (.ofList [("logo.png", [1])]) (.ofList [("Inter", .ofList [("Inter-700.ttf", [2])])])
      (generate .none twoArtboards).1 s.document "0" 6
      ((build "0" 6).run (.start s)).1 := by
  let images : Content := .files (.ofList [("logo.png", [1])])
  let fonts : Content := .fonts (.ofList [("Inter", .ofList [("Inter-700.ttf", [2])])])
  let code : Content := .code (generate .none twoArtboards).1
  have h₀ : InMemory .fresh := ⟨_, rfl⟩
  have h₁ := reliable_memory.withContent h₀ .images (some images)
  have h₂ := reliable_memory.withContent h₁ .fonts (some fonts)
  have hcode : (((Storage.fresh.withContent .images (some images)).withContent .fonts
      (some fonts)).withContent .code (some code)).content .code = .ok (some code) := by
    rw [reliable_memory.content_withContent h₂, if_pos rfl]
    exact readBack_eq .code fun _ h => Option.some.inj h ▸ readable_generate _ _
  have himages : (((Storage.fresh.withContent .images (some images)).withContent .fonts
      (some fonts)).withContent .code (some code)).content .images = .ok (some images) := by
    rw [reliable_memory.content_withContent h₂, if_neg nofun,
      reliable_memory.content_withContent h₁, if_neg nofun,
      reliable_memory.content_withContent h₀, if_pos rfl]
    exact readBack_eq .images fun _ h => Option.some.inj h ▸ Content.readable_files _
  have hfonts : Run.loaded (((Storage.fresh.withContent .images (some images)).withContent .fonts
      (some fonts)).withContent .code (some code)) =
        .ok (.ofList [("Inter", .ofList [("Inter-700.ttf", [2])])]) := by
    rw [Run.loaded, reliable_memory.content_withContent h₂, if_neg nofun,
      reliable_memory.content_withContent h₁, if_pos rfl,
      readBack_eq .fonts fun _ h => Option.some.inj h ▸ Content.readable_fonts _]
    rfl
  exact ⟨_, hcode, himages, hfonts,
    build_generated .none twoArtboards "0" 6 (b := .start _) hcode himages hfonts (by decide)⟩

end Package

end QmlExport
