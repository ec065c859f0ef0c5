import QmlExport.Proofs.Store.Contents

/-!
# What a storage gives and takes

Readers see a storage through `content` and `document`, one answer for each key; reading changes
nothing. `withContent` and `withDocument` are the storages after a write.

A `Reliable` set of storages is one in which writes come through: the record under the key is then
what was written, and all others are as before. Storages in memory are reliable
(`reliable_memory`). What is shown about runs holds on every reliable set.
-/

namespace QmlExport

/-! ## Steps that may fail -/

section Steps

variable {σ α β : Type}

/-- A step and then another: a failure of the first one is the failure of both. -/
theorem run_bind (x : ExceptT Failure (StateM σ) α) (k : α → ExceptT Failure (StateM σ) β) (s : σ) :
    (x >>= k).run s =
      match x.run s with
      | (.ok a, s) => (k a).run s
      | (.error f, s) => (.error f, s) := by
  show (match x.run s with | (r, s) => (ExceptT.bindCont k r) s) = _
  rcases x.run s with ⟨_ | _, _⟩ <;> rfl

theorem run_bind_ok {x : ExceptT Failure (StateM σ) α} {k : α → ExceptT Failure (StateM σ) β}
    {s t : σ} {a : α} (h : x.run s = (.ok a, t)) : (x >>= k).run s = (k a).run t := by
  rw [run_bind, h]

theorem run_bind_error {x : ExceptT Failure (StateM σ) α} {k : α → ExceptT Failure (StateM σ) β}
    {s t : σ} {f : Failure} (h : x.run s = (.error f, t)) : (x >>= k).run s = (.error f, t) := by
  rw [run_bind, h]

/-- Two steps that came through, each on its own. -/
theorem run_bind_eq_ok {x : ExceptT Failure (StateM σ) α} {k : α → ExceptT Failure (StateM σ) β}
    {s t : σ} {b : β} (h : (x >>= k).run s = (.ok b, t)) :
    ∃ a u, x.run s = (.ok a, u) ∧ (k a).run u = (.ok b, t) := by
  rw [run_bind] at h
  split at h
  · next a u hx => exact ⟨a, u, hx, h⟩
  · cases h

end Steps

namespace Store

open Json Text

/-! ## Reading -/

/-- The record that octets stand for. -/
def recordIn (p : Partition) : Option Bytes → Except Failure (Option Record)
  | none => .ok none
  | some bs =>
    match decode? (Record.decoderIn false p) (parse bs) with
    | some r => .ok (some r)
    | none => .error .ofRecord

/-- The content of a record of files. -/
def contentIn : Option Record → Option Content
  | some (.file r) => r.content
  | _ => none

/-- The document of a record of documents. -/
def documentIn : Option Record → Option MetadataRecord
  | some (.metadata r) => some r
  | _ => none

namespace Storage

/-- The octets under a key. -/
def octets (s : Storage) (p : Partition) (k : Key) : Except Failure (Option Bytes) :=
  ((read p k.name).run s).1

/-- The record under a key. -/
def record (s : Storage) (p : Partition) (k : Key) : Except Failure (Option Record) :=
  s.octets p k >>= recordIn p

/-- The content of the record under a key. -/
def content (s : Storage) (k : Key) : Except Failure (Option Content) :=
  (s.record .files k).map contentIn

/-- The record of the document. -/
def document (s : Storage) : Except Failure (Option MetadataRecord) :=
  (s.record .metadata .metadata).map documentIn

theorem run_read (s : Storage) (p : Partition) (k : Key) :
    (read p k.name).run s = (s.octets p k, s) := by
  cases s <;> rfl

theorem run_getRecord (s : Storage) (p : Partition) (k : Key) :
    (getRecord p k.name).run s = (s.record p k, s) := by
  have h := run_read s p k
  unfold getRecord record
  cases hoctets : s.octets p k with
  | error f =>
    rw [hoctets] at h
    exact run_bind_error h
  | ok octets =>
    rw [hoctets] at h
    rw [run_bind_ok h]
    cases octets with
    | none => rfl
    | some bs =>
      show _ = (recordIn p (some bs), s)
      simp only [recordIn]
      generalize decode? (Record.decoderIn false p) (parse bs) = r
      cases r <;> rfl

theorem run_getContent (s : Storage) (k : Key) :
    (getContent k.name).run s = (s.content k, s) := by
  have h := run_getRecord s .files k
  unfold getContent content
  cases hrecord : s.record .files k with
  | error f =>
    rw [hrecord] at h
    exact run_bind_error h
  | ok r =>
    rw [hrecord] at h
    rw [run_bind_ok h]
    rcases r with _ | _ | _ <;> rfl

theorem run_getDocument (s : Storage) : getDocument.run s = (s.document, s) := by
  have h := run_getRecord s .metadata .metadata
  unfold getDocument document
  cases hrecord : s.record .metadata .metadata with
  | error f =>
    rw [hrecord] at h
    exact run_bind_error h
  | ok r =>
    rw [hrecord] at h
    rw [run_bind_ok h]
    rcases r with _ | _ | _ <;> rfl

/-! ## Writing -/

/-- The storage after octets were written under a key. -/
def withOctets (s : Storage) (p : Partition) (k : Key) (bs : Bytes) : Storage :=
  ((write p k.name bs).run s).2

/-- The storage after a content was put under a key. -/
def withContent (s : Storage) (k : Key) (c : Option Content) : Storage :=
  s.withOctets .files k (Record.written (.file ⟨k.name, c⟩))

/-- The storage after a document was put. -/
def withDocument (s : Storage) (r : MetadataRecord) : Storage :=
  s.withOctets .metadata .metadata (Record.written (.metadata r))

end Storage

/-- Storages on which every write comes through and touches nothing else. -/
structure Reliable (P : Storage → Prop) : Prop where
  /-- Writes do not fail. -/
  write : ∀ {s}, P s → ∀ p (k : Key) bs,
    (Storage.write p k.name bs).run s = (.ok (), s.withOctets p k bs)
  /-- Writes lead to storages of the same kind. -/
  stays : ∀ {s}, P s → ∀ p (k : Key) bs, P (s.withOctets p k bs)
  /-- Writes change the record under the key and no other. -/
  octets : ∀ {s}, P s → ∀ p (k : Key) bs q (j : Key),
    (s.withOctets p k bs).octets q j = if q = p ∧ j = k then .ok (some bs) else s.octets q j

theorem Key.name_injective {j k : Key} (h : j.name = k.name) : j = k := by
  revert h
  cases j <;> cases k <;> decide

theorem Memory.get?_put (m : Memory) (p q : Partition) (key other : String) (bs : Bytes) :
    (m.put p key bs).get? q other = if q = p ∧ other = key then some bs else m.get? q other := by
  by_cases hk : other = key
  · subst hk
    cases p <;> cases q <;> simp [put, get?, shelf]
  · cases p <;> cases q <;> simp [put, get?, shelf, hk, Catalog.get?_insert_of_ne]

/-- Storages in memory. -/
def InMemory (s : Storage) : Prop := ∃ m, s = .memory m

/-- **Memory is reliable.** -/
theorem reliable_memory : Reliable InMemory where
  write := by
    rintro _ ⟨m, rfl⟩ p k bs
    rfl
  stays := by
    rintro _ ⟨m, rfl⟩ p k bs
    exact ⟨m.put p k.name bs, rfl⟩
  octets := by
    rintro _ ⟨m, rfl⟩ p k bs q j
    show Except.ok ((m.put p k.name bs).get? q j.name) = _
    have hname : j.name = k.name ↔ j = k := ⟨Key.name_injective, congrArg Key.name⟩
    simp only [Memory.get?_put, hname]
    split <;> rfl

/-! ## Records read back -/

/-- What is read of a content that was put under a key. -/
def readBack (k : Key) (c : Option Content) : Except Failure (Option Content) :=
  (recordIn .files (some (Record.written (.file ⟨k.name, c⟩)))).map contentIn

/-- What is read of a document that was put. -/
def readBackDocument (r : MetadataRecord) : Except Failure (Option MetadataRecord) :=
  (recordIn .metadata (some (Record.written (.metadata r)))).map documentIn

/-- A readable content is read back. -/
theorem readBack_eq (k : Key) {c : Option Content} (h : ∀ d, c = some d → d.Readable) :
    readBack k c = .ok c := by
  unfold readBack recordIn
  simp only [FileRecord.decode_written ⟨k.name, c⟩ h]
  rfl

/-- A document that was put is read as a document or not at all. -/
theorem readBackDocument_eq (r : MetadataRecord) :
    readBackDocument r =
      match decode? MetadataRecord.decoder (parse (Record.written (.metadata r))) with
      | some r => .ok (some r)
      | none => .error .ofRecord := by
  unfold readBackDocument recordIn
  have hdecode : decode? (Record.decoderIn false .metadata) (parse (Record.written (.metadata r))) =
      (decode? MetadataRecord.decoder (parse (Record.written (.metadata r)))).map .metadata := by
    unfold decode?
    cases parse (Record.written (.metadata r)) <;> rfl
  simp only [hdecode]
  cases decode? MetadataRecord.decoder (parse (Record.written (.metadata r))) <;> rfl

/-! ## Putting -/

/-- In its own partition, a record is written under its key. -/
theorem putRecord_partition (r : Record) :
    putRecord r.partition r = Storage.write r.partition r.key r.written := by
  unfold putRecord
  rw [if_neg fun hne => hne rfl]

theorem putContent_eq (name : String) (c : Option Content) :
    putContent name c = Storage.write .files name (Record.written (.file ⟨name, c⟩)) :=
  putRecord_partition (.file ⟨name, c⟩)

theorem putDocument_eq (r : MetadataRecord) :
    putDocument r = Storage.write .metadata r.key (Record.written (.metadata r)) :=
  putRecord_partition (.metadata r)

section Reliable

variable {P : Storage → Prop} (hP : Reliable P) {s : Storage}

namespace Reliable

include hP

theorem run_putContent (hs : P s) (k : Key) (c : Option Content) :
    (putContent k.name c).run s = (.ok (), s.withContent k c) := by
  rw [putContent_eq]
  exact hP.write hs .files k _

theorem run_putDocument (hs : P s) {r : MetadataRecord} (hr : r.key = Key.metadata.name) :
    (putDocument r).run s = (.ok (), s.withDocument r) := by
  rw [putDocument_eq, hr]
  exact hP.write hs .metadata .metadata _

theorem withContent (hs : P s) (k : Key) (c : Option Content) : P (s.withContent k c) :=
  hP.stays hs .files k _

theorem withDocument (hs : P s) (r : MetadataRecord) : P (s.withDocument r) :=
  hP.stays hs .metadata .metadata _

theorem content_withContent (hs : P s) (k : Key) (c : Option Content) (j : Key) :
    (s.withContent k c).content j = if j = k then readBack k c else s.content j := by
  unfold Storage.content Storage.record Storage.withContent
  rw [hP.octets hs]
  by_cases hj : j = k
  · rw [if_pos ⟨rfl, hj⟩, if_pos hj]
    rfl
  · rw [if_neg (fun h => hj h.2), if_neg hj]

theorem document_withContent (hs : P s) (k : Key) (c : Option Content) :
    (s.withContent k c).document = s.document := by
  unfold Storage.document Storage.record Storage.withContent
  rw [hP.octets hs, if_neg (fun h => by cases h.1)]

theorem content_withDocument (hs : P s) (r : MetadataRecord) (j : Key) :
    (s.withDocument r).content j = s.content j := by
  unfold Storage.content Storage.record Storage.withDocument
  rw [hP.octets hs, if_neg (fun h => by cases h.1)]

theorem document_withDocument (hs : P s) (r : MetadataRecord) :
    (s.withDocument r).document = readBackDocument r := by
  unfold Storage.document Storage.record Storage.withDocument
  rw [hP.octets hs, if_pos ⟨rfl, rfl⟩]
  rfl

end Reliable

end Reliable

/-! ## Storages with the same records -/

/-- Two storages have the same octets under every key of a run. -/
def SameRecords (s t : Storage) : Prop := ∀ p (k : Key), s.octets p k = t.octets p k

section

variable {s t u : Storage}

theorem content_congr {k : Key} (h : s.octets .files k = t.octets .files k) :
    s.content k = t.content k :=
  congrArg (fun octets => (octets >>= recordIn .files).map contentIn) h

theorem document_congr (h : s.octets .metadata .metadata = t.octets .metadata .metadata) :
    s.document = t.document :=
  congrArg (fun octets => (octets >>= recordIn .metadata).map documentIn) h

namespace SameRecords

theorem refl (s : Storage) : SameRecords s s := fun _ _ => rfl

theorem symm (h : SameRecords s t) : SameRecords t s := fun p k => (h p k).symm

theorem trans (h : SameRecords s t) (h' : SameRecords t u) : SameRecords s u :=
  fun p k => (h p k).trans (h' p k)

theorem content (h : SameRecords s t) (k : Key) : s.content k = t.content k :=
  content_congr (h .files k)

end SameRecords

variable {P : Storage → Prop} (hP : Reliable P) (hs : P s)

include hP hs

theorem octets_withContent (k : Key) (c : Option Content) (p : Partition) (j : Key) :
    (s.withContent k c).octets p j =
      if p = .files ∧ j = k then .ok (some (Record.written (.file ⟨k.name, c⟩)))
      else s.octets p j :=
  hP.octets hs .files k _ p j

/-- Putting what is there changes no record. -/
theorem sameRecords_withContent {k : Key} {c : Option Content}
    (h : s.octets .files k = .ok (some (Record.written (.file ⟨k.name, c⟩)))) :
    SameRecords (s.withContent k c) s := by
  intro p j
  rw [octets_withContent hP hs]
  split
  · next heq =>
    obtain ⟨rfl, rfl⟩ := heq
    exact h.symm
  · rfl

theorem SameRecords.withContent (h : SameRecords s t) (ht : P t) (k : Key) (c : Option Content) :
    SameRecords (s.withContent k c) (t.withContent k c) := by
  intro p j
  rw [octets_withContent hP hs, octets_withContent hP ht, h p j]

end

end Store

end QmlExport
