import QmlExport.Proofs.Run.Accepted
import QmlExport.Proofs.Store.Reopening

/-!
# Runs in a folder

A run in a folder may fail at any write. **If it comes through, the folder is ready for the next
one, and there is a document in it** (`leads_start`), of which only so much is known as was known of
the upload: what holds of the name of the upload, and of the name of a document that was there
before, holds of the name of that document (`Housed`).
-/

namespace QmlExport

/-! ## Steps that come through -/

section Steps

variable {σ α β : Type} {P : σ → Prop} {φ : Prop} {Q : α → σ → Prop} {R : β → σ → Prop}

/-- Where the step comes through, this holds of its result and of the state that it leaves. -/
def Leads (P : σ → Prop) (x : ExceptT Failure (StateM σ) α) (Q : α → σ → Prop) : Prop :=
  ∀ s, P s → ∀ a t, x.run s = (.ok a, t) → Q a t

namespace Leads

theorem pure {a : α} (h : ∀ s, P s → Q a s) : Leads P (Pure.pure a) Q := by
  rintro s hs _ _ ⟨⟩
  exact h s hs

theorem throw (f : Failure) : Leads P (MonadExcept.throw f) Q :=
  fun _ _ _ _ h => nomatch h

theorem ofExcept {x : Except Failure α} (h : ∀ a, x = .ok a → ∀ s, P s → Q a s) :
    Leads P (MonadExcept.ofExcept x) Q := by
  cases x with
  | ok a => exact pure (h a rfl)
  | error f => exact throw f

theorem bind {x : ExceptT Failure (StateM σ) α} {k : α → ExceptT Failure (StateM σ) β}
    (hx : Leads P x Q) (hk : ∀ a, Leads (Q a) (k a) R) : Leads P (x >>= k) R := by
  intro s hs b t h
  obtain ⟨a, u, hfirst, hrest⟩ := run_bind_eq_ok h
  exact hk a u (hx s hs a u hfirst) b t hrest

theorem weaken {P' : σ → Prop} {x : ExceptT Failure (StateM σ) α} (h : ∀ s, P' s → P s)
    (hx : Leads P x Q) : Leads P' x Q :=
  fun s hs => hx s (h s hs)

/-- What says nothing of the state holds after any step. -/
theorem still {x : ExceptT Failure (StateM σ) α} : Leads (fun _ => φ) x fun _ _ => φ :=
  fun _ hs _ _ _ => hs

/-- What holds whatever the state is can be used in the rest. -/
theorem assume {x : ExceptT Failure (StateM σ) α} (h : φ → Leads P x Q) :
    Leads (fun s => P s ∧ φ) x Q :=
  fun s hs => h hs.2 s hs.1

end Leads

end Steps

/-! ## Storages in folders that are ready -/

namespace Store

open Disk Text Folder

section

variable {p : Partition} {k : Key} {bs x : Bytes} {s t : Storage} {root : Path} {l : Location}
  {β : Type} {b : β}

/-- At most the record under a key was written: the others are there as before, and no more is
there. -/
structure Stored (p : Partition) (k : Key) (bs : Bytes) (s t : Storage) : Prop where
  stays : ∀ q j, ¬ (q = p ∧ j = k) → ∀ x, s.octets q j = .ok (some x) → t.octets q j = .ok (some x)
  seen : ∀ q j x, t.octets q j = .ok (some x) →
    s.octets q j = .ok (some x) ∨ (q = p ∧ j = k) ∧ x = bs

theorem octets_folder (root : Path) (d : Disk) (p : Partition) (k : Key) :
    (Storage.folder root d).octets p k = Folder.read root d p k.name := by
  unfold Storage.octets
  rfl

/-- The storage is a folder that is ready. -/
def Stationed (root : Path) (l : Location) (s : Storage) : Prop :=
  ∃ d, s = .folder root d ∧ Ready root d l

theorem Stationed.ready {d : Disk} (h : Stationed root l (.folder root d)) : Ready root d l := by
  obtain ⟨_, heq, hready⟩ := h
  cases heq
  exact hready

theorem Stationed.write (h : Stationed root l s) (p : Partition) (k : Key) (bs : Bytes) :
    Stationed root l ((Storage.write p k.name bs).run s).2 ∧
      Stored p k bs s ((Storage.write p k.name bs).run s).2 := by
  obtain ⟨d, rfl, hready⟩ := h
  obtain ⟨hrewrites, hready'⟩ := hready.write (storable_key k) p bs
  rw [run_write_eq]
  refine ⟨⟨_, rfl, hready'⟩, fun q j hne x hx => ?_, fun q j x hx => ?_⟩
  · refine hrewrites.read_stays hready.toStands (storable_key j) ?_ hx
    exact fun heq => hne ⟨heq.1, Key.name_injective heq.2⟩
  · refine (hrewrites.read hready.toStands (storable_key j) hx).imp_right ?_
    exact fun ⟨heq, hbs⟩ => ⟨⟨heq.1, Key.name_injective heq.2⟩, hbs⟩

/-- What is found in a record is found in its octets. -/
theorem found_iff {e : Except Failure (Option Bytes)} {view : Option Record → Option β}
    (hview : view none = none) :
    (e >>= recordIn p).map view = .ok (some b) ↔
      ∃ x, e = .ok (some x) ∧ (recordIn p (some x)).map view = .ok (some b) := by
  constructor
  · intro h
    rcases e with f | _ | x
    · cases h
    · have hnone : Except.map view (.ok none : Except Failure (Option Record)) = .ok (some b) := h
      rw [Except.map, hview] at hnone
      cases hnone
    · exact ⟨x, rfl, h⟩
  · rintro ⟨x, rfl, h⟩
    exact h

theorem content_found {j : Key} {c : Content} : s.content j = .ok (some c) ↔
    ∃ x, s.octets .files j = .ok (some x) ∧
      (recordIn .files (some x)).map contentIn = .ok (some c) :=
  found_iff rfl

theorem document_found {r : MetadataRecord} : s.document = .ok (some r) ↔
    ∃ x, s.octets .metadata .metadata = .ok (some x) ∧
      (recordIn .metadata (some x)).map documentIn = .ok (some r) :=
  found_iff rfl

namespace Stored

variable (h : Stored p k bs s t)

include h

theorem document_stays (hne : ¬ (Partition.metadata = p ∧ Key.metadata = k)) {r : MetadataRecord}
    (hr : s.document = .ok (some r)) : t.document = .ok (some r) := by
  obtain ⟨x, hx, hread⟩ := document_found.1 hr
  exact document_found.2 ⟨x, h.stays _ _ hne x hx, hread⟩

theorem document_seen {r : MetadataRecord} (hr : t.document = .ok (some r)) :
    s.document = .ok (some r) ∨ (Partition.metadata = p ∧ Key.metadata = k) ∧
      (recordIn .metadata (some bs)).map documentIn = .ok (some r) := by
  obtain ⟨x, hx, hread⟩ := document_found.1 hr
  rcases h.seen _ _ x hx with hold | ⟨hkey, rfl⟩
  · exact .inl (document_found.2 ⟨x, hold, hread⟩)
  · exact .inr ⟨hkey, hread⟩

theorem content_seen {j : Key} {c : Content} (hc : t.content j = .ok (some c)) :
    s.content j = .ok (some c) ∨ (Partition.files = p ∧ j = k) ∧
      (recordIn .files (some bs)).map contentIn = .ok (some c) := by
  obtain ⟨x, hx, hread⟩ := content_found.1 hc
  rcases h.seen _ _ x hx with hold | ⟨hkey, rfl⟩
  · exact .inl (content_found.2 ⟨x, hold, hread⟩)
  · exact .inr ⟨hkey, hread⟩

end Stored

end

end Store

namespace Run

open Store Disk Folder Text Upload

/-- A folder that is ready, in which the names of uploads are of a kind: of the one that waits and of
the one that the document came from. There is a document if it is `settled`. -/
structure Housed (N : String → Prop) (settled : Prop) (root : Path) (l : Location) (s : Storage) :
    Prop where
  stationed : Stationed root l s
  upload : ∀ name bytes, s.content .uploadedFile = .ok (some (.upload name bytes)) → N name
  document : ∀ r, s.document = .ok (some r) → N r.fileName
  present : settled → ∃ r, s.document = .ok (some r)

section

variable {N : String → Prop} {settled : Prop} {root : Path} {l : Location} {α : Type}
  {P : Storage → Prop}

/-! ## Reading and writing -/

theorem leads_getContent (k : Key) :
    Leads P (getContent k.name) fun c s => P s ∧ s.content k = .ok c := by
  intro s hs c t h
  rw [s.run_getContent] at h
  obtain ⟨hc, rfl⟩ := Prod.mk.inj h
  exact ⟨hs, hc⟩

theorem leads_getDocument : Leads P getDocument fun r s => P s ∧ s.document = .ok r := by
  intro s hs r t h
  rw [s.run_getDocument] at h
  obtain ⟨hr, rfl⟩ := Prod.mk.inj h
  exact ⟨hs, hr⟩

/-- No upload is put by a run. -/
theorem leads_putContent (k : Key) (c : Option Content) (hc : k = .uploadedFile → c = none) :
    Leads (Housed N settled root l) (putContent k.name c) fun _ => Housed N settled root l := by
  intro s hs _ t h
  rw [putContent_eq] at h
  obtain ⟨hstationed, hstored⟩ := hs.stationed.write .files k (Record.written (.file ⟨k.name, c⟩))
  rw [h] at hstationed hstored
  refine ⟨hstationed, fun name bytes hu => ?_, fun r hr => ?_, fun hsettled => ?_⟩
  · rcases hstored.content_seen hu with hold | ⟨⟨_, rfl⟩, hread⟩
    · exact hs.upload name bytes hold
    · rw [hc rfl] at hread
      have hnone := readBack_eq .uploadedFile (c := none) nofun
      rw [readBack, hread] at hnone
      cases hnone
  · rcases hstored.document_seen hr with hold | ⟨⟨hpartition, _⟩, _⟩
    · exact hs.document r hold
    · cases hpartition
  · obtain ⟨r, hr⟩ := hs.present hsettled
    exact ⟨r, hstored.document_stays (fun heq => nomatch heq.1) hr⟩

/-- The document of an upload goes by the name of the upload. -/
theorem leads_putDocument {name : String} {d : Design.Document} (hname : N name) (hd : d.Finite) :
    Leads (Housed N False root l) (putDocument (.of name d)) fun _ => Housed N False root l := by
  intro s hs _ t h
  have hput : putDocument (.of name d) =
      Storage.write .metadata Key.metadata.name (Record.written (.metadata (.of name d))) :=
    putDocument_eq (.of name d)
  rw [hput] at h
  obtain ⟨hstationed, hstored⟩ :=
    hs.stationed.write .metadata .metadata (Record.written (.metadata (.of name d)))
  rw [h] at hstationed hstored
  refine ⟨hstationed, fun other bytes hu => ?_, fun r hr => ?_, nofun⟩
  · rcases hstored.content_seen hu with hold | ⟨⟨hpartition, _⟩, _⟩
    · exact hs.upload other bytes hold
    · cases hpartition
  · rcases hstored.document_seen hr with hold | ⟨_, hread⟩
    · exact hs.document r hold
    · have hback := readBackDocument_of name hd
      rw [readBackDocument, hread] at hback
      split at hback
      · cases hback
        exact hname
      · cases hback

/-! ## Uploads -/

/-- **An upload leaves the folder ready**, wherever its path leads. If the path does not depend on the
partitions, nothing is there but the file, under its name. -/
theorem housed_upload {db after : Database} {d : Disk} {path : String} {bytes : Bytes} {limit : Nat}
    {receipt : Receipt} (hdb : db.storage = .folder root d) (hready : Ready root d l)
    (hN : (∀ name, N name) ∨ Steady root d l ∧ N (baseName path))
    (h : db.upload path bytes limit = (.ok receipt, after)) :
    Housed N False root l after.storage := by
  obtain ⟨s, hclear, hput⟩ := upload_eq_ok h
  rw [hdb] at hclear
  obtain ⟨d₁, hcleared, rfl⟩ := run_clear_folder hclear
  obtain ⟨d₂, hwritten, hafter⟩ := run_put_folder hput
  have hkey := storable_key .uploadedFile
  have hrefilled : Ready root d₂ l :=
    hready.refilled hkey (by rw [hcleared]; exact hwritten)
  rw [hafter]
  refine ⟨⟨d₂, rfl, hrefilled⟩, fun name bs hu => ?_, fun r hr => ?_, nofun⟩
  · rcases hN with hall | ⟨hsteady, hname⟩
    · exact hall name
    · obtain ⟨x, hx, hread⟩ := content_found.1 hu
      rw [octets_folder] at hx
      obtain ⟨_, hx⟩ := hready.read_refilled hsteady hkey hcleared hwritten hkey hx
      rw [hx] at hread
      have hback := readBack_eq .uploadedFile (c := some (.upload (baseName path) bytes))
        fun c hc => Option.some.inj hc ▸ Content.readable_upload _ _
      rw [readBack, hread] at hback
      cases hback
      exact hname
  · rcases hN with hall | ⟨hsteady, _⟩
    · exact hall r.fileName
    · obtain ⟨x, hx, _⟩ := document_found.1 hr
      rw [octets_folder] at hx
      obtain ⟨⟨hpartition, _⟩, _⟩ :=
        hready.read_refilled hsteady hkey hcleared hwritten (storable_key .metadata) hx
      cases hpartition

/-! ## Steps at the bench -/

theorem leads_onStorage {a : Action α} {Q : α → Storage → Prop} (h : Leads P a Q) :
    Leads (fun b : Bench => P b.storage) (Job.onStorage a) fun x b => Q x b.storage := by
  intro b hb x b' hrun
  cases ha : a.run b.storage with
  | mk r t =>
    have hstep : (Job.onStorage a).run b = (r, { b with storage := t }) := by
      show ((a.run b.storage).1, { b with storage := (a.run b.storage).2 }) = _
      rw [ha]
    rw [hstep] at hrun
    obtain ⟨rfl, rfl⟩ := Prod.mk.inj hrun
    exact h b.storage hb x t ha

theorem leads_progress (percent : Nat) :
    Leads (fun b : Bench => P b.storage) (Job.progress percent) fun _ b => P b.storage := by
  rintro b hb _ _ ⟨⟩
  exact hb

theorem leads_say (line : String) :
    Leads (fun b : Bench => P b.storage) (Job.say line) fun _ b => P b.storage := by
  rintro b hb _ _ ⟨⟩
  exact hb

theorem leads_enter (stage : Stage) :
    Leads (fun b : Bench => P b.storage) (Job.enter stage) fun _ b => P b.storage := by
  rintro b hb _ _ ⟨⟩
  exact hb

/-! ## Runs -/

/-- What is known of an upload that is read. -/
theorem leads_getUpload :
    Leads (Housed N settled root l) (getContent Key.uploadedFile.name) fun c s =>
      Housed N settled root l s ∧ ∀ name bytes, c = some (.upload name bytes) → N name := by
  intro s hs c t h
  obtain ⟨ht, hc⟩ := leads_getContent .uploadedFile s hs c t h
  exact ⟨ht, fun name bytes heq => ht.upload name bytes (heq ▸ hc)⟩

/-- Where a document is read, there is one. -/
theorem leads_getSettled :
    Leads (Housed N settled root l) getDocument fun r s => Housed N (r.isSome = true) root l s := by
  intro s hs r t h
  obtain ⟨ht, hr⟩ := leads_getDocument s hs r t h
  refine ⟨ht.stationed, ht.upload, ht.document, fun hsome => ?_⟩
  obtain ⟨record, rfl⟩ := Option.isSome_iff_exists.1 hsome
  exact ⟨record, hr⟩

theorem leads_extract :
    Leads (fun b : Bench => Housed N False root l b.storage) extract fun name b =>
      Housed N False root l b.storage ∧ N name := by
  refine .bind (leads_enter _) fun _ => .bind (leads_progress _) fun _ => ?_
  refine .bind (leads_say _) fun _ => .bind (leads_onStorage leads_getUpload) fun c => ?_
  refine .assume fun hname => ?_
  rcases c with _ | c
  · exact .throw _
  · cases c with
    | upload name bytes =>
      refine .bind (.ofExcept fun files _ _ hb => hb) fun files => ?_
      refine .bind (leads_onStorage (leads_putContent .extractedFiles _ nofun)) fun _ => ?_
      refine .bind (leads_onStorage (leads_putContent .uploadedFile none fun _ => rfl)) fun _ => ?_
      refine .bind (leads_progress _) fun _ => .bind (leads_say _) fun _ => ?_
      exact .pure fun b hb => ⟨hb, hname name bytes rfl⟩
    | _ => exact .throw _

theorem leads_split {name : String} (hname : N name) :
    Leads (fun b : Bench => Housed N False root l b.storage) (split name) fun _ b =>
      Housed N False root l b.storage := by
  refine .bind (leads_enter _) fun _ => .bind (leads_progress _) fun _ => ?_
  refine .bind (leads_onStorage (leads_getContent .extractedFiles)) fun c => ?_
  refine .weaken (fun b hb => hb.1) ?_
  rcases c with _ | c
  · exact .throw _
  · cases c with
    | files files =>
      have hread : Leads (fun b : Bench => Housed N False root l b.storage)
          (MonadExcept.ofExcept (documentOf files name))
          fun d b => Housed N False root l b.storage ∧ d.Finite :=
        .ofExcept fun d hd b hb => ⟨hb, finite_of_documentOf hd⟩
      refine .bind hread fun d => .assume fun hfinite => ?_
      have hdocument : Leads (fun b : Bench => Housed N False root l b.storage) (do
          Job.onStorage (putDocument (.of name d))
          Job.onStorage (putContent Key.extractedFiles.name none)
          Job.progress 40
          Job.say "Loading metadata succeeded."
          Pure.pure (imagesOf files).size) fun _ b => Housed N False root l b.storage := by
        refine .bind (leads_onStorage (leads_putDocument hname hfinite)) fun _ => ?_
        refine .bind (leads_onStorage (leads_putContent .extractedFiles none nofun)) fun _ => ?_
        refine .bind (leads_progress _) fun _ => .bind (leads_say _) fun _ => ?_
        exact .pure fun b hb => hb
      dsimp only
      split
      · exact hdocument
      · exact .bind (leads_onStorage (leads_putContent .images _ nofun)) fun _ => hdocument
    | _ => exact .throw _

theorem leads_storedImages :
    Leads (fun b : Bench => P b.storage) storedImages fun _ b => P b.storage := by
  refine .bind (leads_onStorage (leads_getContent .images)) fun c => .weaken (fun b hb => hb.1) ?_
  rcases c with _ | _ | _ | _ | _ <;> exact .pure fun b hb => hb

theorem leads_prepare :
    Leads (fun b : Bench => Housed N False root l b.storage) prepare fun _ b =>
      Housed N False root l b.storage := by
  refine .bind (leads_onStorage leads_getDocument) fun r => .weaken (fun b hb => hb.1) ?_
  cases r with
  | none =>
    refine .bind leads_extract fun name => .assume fun hname => ?_
    exact .bind (leads_split hname) fun _ => .pure fun b hb => hb
  | some r =>
    refine .bind (leads_say _) fun _ => .bind leads_storedImages fun _ => ?_
    exact .pure fun b hb => hb

theorem leads_transform (o : Design.Options) :
    Leads (fun b : Bench => Housed N False root l b.storage) (transform o) fun _ b =>
      Housed N True root l b.storage := by
  refine .bind (leads_enter _) fun _ => .bind (leads_progress _) fun _ => ?_
  refine .bind (leads_onStorage leads_getSettled) fun r => ?_
  cases r with
  | none => exact .throw _
  | some r =>
    refine .weaken (P := fun b : Bench => Housed N True root l b.storage) (fun b hb => ?_) ?_
    · exact ⟨hb.stationed, hb.upload, hb.document, fun _ => hb.present rfl⟩
    refine .bind (leads_enter _) fun _ => .bind (leads_progress _) fun _ => ?_
    refine .bind (leads_onStorage (leads_putContent .code _ nofun)) fun _ => ?_
    have hsaid : Leads (fun b : Bench => Housed N True root l b.storage) (do
        Job.progress 65
        Job.say ("Generated " ++ numberText (Code.countFiles (Code.generate o r.document).1) ++
          " QML file(s).")
        Pure.pure (Code.countFiles (Code.generate o r.document).1,
          (Code.generate o r.document).2)) fun _ b => Housed N True root l b.storage := by
      refine .bind (leads_progress _) fun _ => .bind (leads_say _) fun _ => ?_
      exact .pure fun b hb => hb
    dsimp only
    split
    · exact hsaid
    · exact .bind (leads_onStorage (leads_putContent .fonts none nofun)) fun _ => hsaid

/-- **A run that comes through leaves a folder that is ready, with a document in it** that goes by
the name of the upload. -/
theorem leads_start (o : Design.Options) :
    Leads (fun b : Bench => Housed N False root l b.storage) (start o none) fun _ b =>
      Housed N True root l b.storage := by
  have hremainder : Leads (fun b : Bench => Housed N False root l b.storage) (remainder o none)
      fun _ b => Housed N True root l b.storage := by
    refine .bind leads_prepare ?_
    rintro ⟨resumed, images⟩
    refine .bind (leads_transform o) ?_
    rintro ⟨count, families⟩
    have hfonts : fontsIfWanted o none families = Pure.pure none := by
      unfold fontsIfWanted
      split
      · next h => cases h
      · rfl
    dsimp only
    rw [hfonts]
    refine .bind (.pure fun b hb => hb) fun _ => .bind (leads_enter _) fun _ => ?_
    refine .bind (leads_progress _) fun _ => .bind (leads_say _) fun _ => ?_
    exact .pure fun b hb => hb
  exact fun b hb report b' hrun => hremainder b hb report b' (remainder_of_ok hrun).2

end

end Run

end QmlExport
