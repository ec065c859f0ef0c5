import QmlExport.Proofs.Store.View
import QmlExport.Store.Database

/-!
# What an upload leaves

An accepted upload empties the store and leaves one record, the uploaded file (`Storage.uploaded`);
a refused one leaves the store alone (`storage_upload`).
-/

namespace QmlExport.Store

open Text

/-- The storage with nothing but an uploaded file. -/
def Storage.uploaded (name : String) (bytes : Bytes) : Storage :=
  Storage.fresh.withContent .uploadedFile (some (.upload name bytes))

namespace Storage

theorem inMemory_fresh : InMemory .fresh := ⟨.empty, rfl⟩

theorem inMemory_uploaded (name : String) (bytes : Bytes) : InMemory (uploaded name bytes) :=
  reliable_memory.withContent inMemory_fresh _ _

theorem content_uploaded (name : String) (bytes : Bytes) :
    (uploaded name bytes).content .uploadedFile = .ok (some (.upload name bytes)) := by
  rw [uploaded, reliable_memory.content_withContent inMemory_fresh, if_pos rfl]
  exact readBack_eq _ fun c hc => Option.some.inj hc ▸ Content.readable_upload name bytes

theorem content_uploaded_of_ne (name : String) (bytes : Bytes) {k : Key} (h : k ≠ .uploadedFile) :
    (uploaded name bytes).content k = .ok none := by
  rw [uploaded, reliable_memory.content_withContent inMemory_fresh, if_neg h]
  rfl

theorem document_uploaded (name : String) (bytes : Bytes) :
    (uploaded name bytes).document = .ok none := by
  rw [uploaded, reliable_memory.document_withContent inMemory_fresh]
  rfl

end Storage

/-! ## Databases -/

theorem storage_close (db : Database) (k : Handle) : (db.close k).storage = db.storage := by
  unfold Database.close
  split <;> rfl

theorem storage_run {α : Type} (db : Database) (a : Action α) :
    (db.run a).2.storage = (a.run db.storage).2 := rfl

section

variable {db : Database}

theorem destroy_of_free (h : db.openHandles = 0) : db.destroy = db.run Storage.clear := by
  rw [Database.destroy, if_neg (by omega)]

theorem destroy_of_open (h : 0 < db.openHandles) :
    db.destroy = (.error (Database.blocked db.openHandles), db) := by
  rw [Database.destroy, if_pos h]

/-- The ways in which an upload ends: it is refused, by the file or by an open handle, or the storage
cannot be cleared, or the file is put into what was cleared. Its own handle is closed again. -/
theorem upload_cases (db : Database) (path : String) (bytes : Bytes) (limit : Nat) :
    ((Upload.check (Upload.baseName path) bytes.length limit ≠ .ok () ∨ 0 < db.openHandles) ∧
      ∃ f, db.upload path bytes limit = (.error f, db)) ∨
    ((Upload.check (Upload.baseName path) bytes.length limit = .ok () ∧ db.openHandles = 0) ∧
      ((∃ f s, Storage.clear.run db.storage = (.error f, s) ∧
        db.upload path bytes limit = (.error f, { db with storage := s })) ∨
      ∃ s r t, Storage.clear.run db.storage = (.ok (), s) ∧
        (putContent Key.uploadedFile.name (some (.upload (Upload.baseName path) bytes))).run s =
          (r, t) ∧
        db.upload path bytes limit = (r.map fun _ => ⟨Upload.baseName path, bytes.length⟩,
          ⟨t, db.handles ++ [false], 0⟩))) := by
  unfold Database.upload
  cases hcheck : Upload.check (Upload.baseName path) bytes.length limit with
  | error f => exact .inl ⟨.inl nofun, f, by simp only [hcheck]⟩
  | ok _ =>
    rcases Nat.eq_zero_or_pos db.openHandles with hfree | hopen
    · refine .inr ⟨⟨rfl, hfree⟩, ?_⟩
      cases hclear : Storage.clear.run db.storage with
      | mk cleared s =>
        have hdestroy : db.destroy = (cleared, { db with storage := s }) := by
          rw [destroy_of_free hfree, Database.run, hclear]
        cases cleared with
        | error f => exact .inl ⟨f, s, rfl, by simp only [hcheck, hdestroy]⟩
        | ok _ =>
          cases hput : (putContent Key.uploadedFile.name
              (some (.upload (Upload.baseName path) bytes))).run s with
          | mk r t =>
            have hclose : Database.close ⟨t, db.handles ++ [true], db.openHandles + 1⟩
                db.handles.length = ⟨t, db.handles ++ [false], 0⟩ := by
              unfold Database.close Database.isOpen
              simp [hfree]
            refine .inr ⟨s, r, t, rfl, hput, ?_⟩
            unfold Database.init Database.run
            simp only [hcheck, hdestroy, hput, hclose]
    · have hblocked := destroy_of_open hopen
      exact .inl ⟨.inr hopen, Database.blocked db.openHandles, by simp only [hcheck, hblocked]⟩

end

section

variable (db : Database) (hm : InMemory db.storage) (path : String) (bytes : Bytes) (limit : Nat)

include hm

/-- **An upload leaves a storage in memory alone, or nothing but the uploaded file in it**, and which
of the two is a matter of the file and of open handles. -/
theorem storage_upload_cases :
    ((Upload.check (Upload.baseName path) bytes.length limit ≠ .ok () ∨ 0 < db.openHandles) ∧
      (db.upload path bytes limit).2.storage = db.storage) ∨
    (db.upload path bytes limit).2.storage = .uploaded (Upload.baseName path) bytes := by
  obtain ⟨m, hm⟩ := hm
  have hcleared : Storage.clear.run db.storage = (.ok (), .fresh) := by rw [hm]; rfl
  rcases upload_cases db path bytes limit with
    ⟨hrefused, f, hupload⟩ | ⟨_, ⟨f, s, hclear, _⟩ | ⟨s, r, t, hclear, hput, hupload⟩⟩
  · exact .inl ⟨hrefused, by rw [hupload]⟩
  · cases hcleared.symm.trans hclear
  · cases hcleared.symm.trans hclear
    have hfile := reliable_memory.run_putContent Storage.inMemory_fresh .uploadedFile
      (some (.upload (Upload.baseName path) bytes))
    rw [hupload]
    exact .inr (congrArg Prod.snd (hput.symm.trans hfile))

/-- **An accepted upload leaves nothing but the uploaded file.** -/
theorem storage_upload_accepted
    (h : Upload.check (Upload.baseName path) bytes.length limit = .ok ())
    (ho : db.openHandles = 0) :
    (db.upload path bytes limit).2.storage = .uploaded (Upload.baseName path) bytes := by
  rcases storage_upload_cases db hm path bytes limit with ⟨hcheck | hopen, _⟩ | hnew
  · exact absurd h hcheck
  · omega
  · exact hnew

/-- An upload leaves a storage in memory alone, or nothing but the uploaded file in it. -/
theorem storage_upload :
    (db.upload path bytes limit).2.storage = db.storage ∨
      (db.upload path bytes limit).2.storage = .uploaded (Upload.baseName path) bytes :=
  (storage_upload_cases db hm path bytes limit).imp_left And.right

end

/-- The storage of a new database in memory that was given a file with a name that is accepted. -/
def homeUploaded (bytes : Bytes) : Storage :=
  (Database.fresh.upload "home.qtbridge" bytes Upload.defaultLimit).2.storage

theorem check_home {size : Nat} (h : size ≤ Upload.defaultLimit) :
    Upload.check (Upload.baseName "home.qtbridge") size Upload.defaultLimit = .ok () := by
  obtain ⟨hbase, hending⟩ : Upload.baseName "home.qtbridge" = "home.qtbridge" ∧
      Upload.hasExtension "home.qtbridge" = true := by decide +kernel
  unfold Upload.check
  simp only [hbase, hending, Bool.not_true, Bool.false_eq_true, if_false, Nat.not_lt.2 h]

theorem homeUploaded_eq {bytes : Bytes} (h : bytes.length ≤ Upload.defaultLimit) :
    homeUploaded bytes = .uploaded "home.qtbridge" bytes := by
  have hbase : Upload.baseName "home.qtbridge" = "home.qtbridge" := by decide +kernel
  rw [homeUploaded, storage_upload_accepted .fresh Storage.inMemory_fresh _ bytes _ (check_home h) rfl,
    hbase]

end QmlExport.Store
