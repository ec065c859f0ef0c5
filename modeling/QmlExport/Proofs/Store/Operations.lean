import QmlExport.Proofs.Store.Mirror
import QmlExport.Proofs.Store.Upload

/-!
# Folders and memory, operation by operation

`Operation` lists what can be done with a database and its handles, and `lastPut` is what the replies
so far say about the records: the last one put under each key since the last destruction.

**A folder replies as memory does, whatever is done with it, and gives what was put last**
(`folder_performs_as_memory`). Only the names of the files have to fit: a record is written to a file
whose name is longer than its own, and for one key, a single dot, that name leads up
(`dot_is_not_put`).
-/

namespace QmlExport.Store

open Disk Text Folder

/-! ## Operations -/

/-- What can be done with a database and its handles. -/
inductive Operation
  | init
  | close (h : Handle)
  | destroy
  /-- Leave the database and open one on the same storage. -/
  | reopen
  | put (p : Partition) (r : Record)
  | putContent (name : String) (c : Option Content)
  | putDocument (r : MetadataRecord)
  | get (p : Partition) (key : String)
  | getContent (name : String)
  | getDocument

/-- What a database replies. -/
inductive Reply
  | handle (h : Handle)
  | done (r : Except Failure Unit)
  | record (r : Except Failure (Option Record))
  | content (r : Except Failure (Option Content))
  | document (r : Except Failure (Option MetadataRecord))

/-- Open a database on the storage of another one, which is left. -/
def Database.reopen (db : Database) : Except Failure Unit × Database :=
  match db.storage with
  | .memory m => (.ok (), .on (.memory m))
  | .folder root d =>
    match openAt root d with
    | (.ok s, _) => (.ok (), .on s)
    | (.error f, d) => (.error f, { db with storage := .folder root d })

/-- Carry out an operation. -/
def Operation.perform (db : Database) : Operation → Reply × Database
  | .init => (.handle db.init.2, db.init.1)
  | .close h => (.done (.ok ()), db.close h)
  | .destroy => (.done db.destroy.1, db.destroy.2)
  | .reopen => (.done db.reopen.1, db.reopen.2)
  | .put p r => (.done (db.run (putRecord p r)).1, (db.run (putRecord p r)).2)
  | .putContent name c =>
    (.done (db.run (Store.putContent name c)).1, (db.run (Store.putContent name c)).2)
  | .putDocument r =>
    (.done (db.run (Store.putDocument r)).1, (db.run (Store.putDocument r)).2)
  | .get p key => (.record (db.run (getRecord p key)).1, (db.run (getRecord p key)).2)
  | .getContent name =>
    (.content (db.run (Store.getContent name)).1, (db.run (Store.getContent name)).2)
  | .getDocument => (.document (db.run Store.getDocument).1, (db.run Store.getDocument).2)

/-- Carry out operations in turn. Returns each with its reply. -/
def performAll : Database → List Operation → List (Operation × Reply) × Database
  | db, [] => ([], db)
  | db, op :: ops =>
    let (reply, db) := op.perform db
    let (replies, db) := performAll db ops
    ((op, reply) :: replies, db)

/-- The file names of the records of an operation fit. A record that does not belong into the
partition is not written. -/
def Operation.Fits (root? : Option Path) : Operation → Prop
  | .put p r => r.partition = p → Takes root? p r.key
  | .putContent name _ => Takes root? .files name
  | .putDocument r => Takes root? .metadata r.key
  | .get p key => Names root? p key
  | .getContent name => Names root? .files name
  | .getDocument => Names root? .metadata Key.metadata.name
  | .init | .close _ | .destroy | .reopen => True

/-- The record that an operation puts, and where. -/
def Operation.record? : Operation → Option (Partition × Record)
  | .put p r => some (p, r)
  | .putContent name c => some (.files, .file ⟨name, c⟩)
  | .putDocument r => some (.metadata, .metadata r)
  | _ => none

/-- Records by partition and key. -/
abbrev Ledger := Partition → String → Option Record

namespace Ledger

/-- No record. -/
def blank : Ledger := fun _ _ => none

/-- A record was put into a partition. -/
def put (l : Ledger) (p : Partition) (r : Record) : Ledger :=
  fun q key => if q = p ∧ key = r.key then some r else l q key

/-- What an operation and its reply say about the records. -/
def note (l : Ledger) : Operation × Reply → Ledger
  | (_, .done (.error _)) => l
  | (.destroy, _) => blank
  | (op, _) =>
    match op.record? with
    | some (p, r) => l.put p r
    | none => l

end Ledger

/-- The record that was put last under each key since the last destruction. -/
def lastPut (history : List (Operation × Reply)) : Ledger :=
  history.foldl Ledger.note .blank

/-! ## One operation -/

/-- Two databases with the same records and handles. -/
structure TwinDatabases (a b : Option Path) (db db' : Database) : Prop where
  storage : Twins a b db.storage db'.storage
  handles : db.handles = db'.handles
  openHandles : db.openHandles = db'.openHandles

section

variable {a b : Option Path} {db db' : Database}

theorem TwinDatabases.run {α : Type} {x : Action α} (hx : Alike (Twins a b) x)
    (h : TwinDatabases a b db db') :
    (db.run x).1 = (db'.run x).1 ∧ TwinDatabases a b (db.run x).2 (db'.run x).2 := by
  obtain ⟨hresult, hstorage⟩ := hx _ _ h.storage
  exact ⟨hresult, hstorage, h.handles, h.openHandles⟩

theorem TwinDatabases.close (h : TwinDatabases a b db db') (k : Handle) :
    TwinDatabases a b (db.close k) (db'.close k) := by
  have hopen : db.isOpen k = db'.isOpen k := by
    unfold Database.isOpen
    rw [h.handles]
  unfold Database.close
  rw [hopen]
  split
  · exact ⟨h.storage, by rw [h.handles], by rw [h.openHandles]⟩
  · exact h

theorem TwinDatabases.destroy (h : TwinDatabases a b db db') :
    db.destroy.1 = db'.destroy.1 ∧ TwinDatabases a b db.destroy.2 db'.destroy.2 := by
  unfold Database.destroy
  rw [h.openHandles]
  split
  · exact ⟨rfl, h⟩
  · exact h.run alike_clear

/-- Opened again, a mirror is the same. -/
theorem Mirrors.reopen {m : Memory} (h : Mirrors db.storage m) :
    db.reopen = (.ok (), .on db.storage) := by
  unfold Database.reopen
  cases hs : db.storage with
  | memory m => rfl
  | folder root d =>
    rw [hs] at h
    cases h with
    | folder hserves =>
      simp only [openAt_eq hserves.toStands hserves.current]

theorem TwinDatabases.reopen (h : TwinDatabases a b db db') :
    db.reopen.1 = db'.reopen.1 ∧ TwinDatabases a b db.reopen.2 db'.reopen.2 := by
  obtain ⟨m, hs, ht⟩ := h.storage.mirrors
  rw [hs.reopen, ht.reopen]
  exact ⟨rfl, h.storage, rfl, rfl⟩

/-- **Databases with the same records and handles reply alike and stay so.** -/
theorem TwinDatabases.perform (h : TwinDatabases a b db db') {op : Operation}
    (ha : op.Fits a) (hb : op.Fits b) :
    (op.perform db).1 = (op.perform db').1 ∧
      TwinDatabases a b (op.perform db).2 (op.perform db').2 := by
  cases op with
  | init =>
    refine ⟨?_, h.storage, ?_, ?_⟩
    · exact congrArg (fun hs : List Bool => Reply.handle hs.length) h.handles
    · exact congrArg (fun hs : List Bool => hs ++ [true]) h.handles
    · exact congrArg (· + 1) h.openHandles
  | close k => exact ⟨rfl, h.close k⟩
  | destroy => exact h.destroy.imp (congrArg Reply.done) id
  | reopen => exact h.reopen.imp (congrArg Reply.done) id
  | put p r => exact (h.run (alike_putRecord ha hb)).imp (congrArg Reply.done) id
  | putContent name c => exact (h.run (alike_putContent ha hb c)).imp (congrArg Reply.done) id
  | putDocument r => exact (h.run (alike_putDocument ha hb)).imp (congrArg Reply.done) id
  | get p key => exact (h.run (alike_getRecord ha hb)).imp (congrArg Reply.record) id
  | getContent name => exact (h.run (alike_getContent ha hb)).imp (congrArg Reply.content) id
  | getDocument => exact (h.run (alike_getDocument ha hb)).imp (congrArg Reply.document) id

theorem TwinDatabases.performAll {ops : List Operation} (h : TwinDatabases a b db db')
    (ha : ∀ op ∈ ops, op.Fits a) (hb : ∀ op ∈ ops, op.Fits b) :
    (performAll db ops).1 = (performAll db' ops).1 ∧
      TwinDatabases a b (performAll db ops).2 (performAll db' ops).2 := by
  induction ops generalizing db db' with
  | nil => exact ⟨rfl, h⟩
  | cons op ops ih =>
    obtain ⟨hreply, hnext⟩ := h.perform (ha op List.mem_cons_self) (hb op List.mem_cons_self)
    obtain ⟨hreplies, hlast⟩ := ih hnext (fun op h => ha op (List.mem_cons_of_mem _ h))
      fun op h => hb op (List.mem_cons_of_mem _ h)
    refine ⟨?_, hlast⟩
    show (op, (op.perform db).1) :: _ = (op, (op.perform db').1) :: _
    rw [hreply]
    exact congrArg _ hreplies

end

/-! ## Memory -/

/-- A memory holds the records of a ledger. -/
def Memory.Keeps (m : Memory) (l : Ledger) : Prop :=
  ∀ p key, m.get? p key = (l p key).map Record.written

section

variable {db : Database} {m : Memory} {l : Ledger}

theorem Memory.Keeps.put (h : m.Keeps l) (p : Partition) (r : Record) :
    (m.put p r.key r.written).Keeps (l.put p r) := by
  intro q key
  unfold Ledger.put
  rw [Memory.get?_put]
  split
  · rfl
  · exact h q key

theorem note_put {op : Operation} {p : Partition} {r : Record} (h : op.record? = some (p, r)) :
    l.note (op, .done (.ok ())) = l.put p r := by
  cases op <;> cases h <;> rfl

/-- What a memory holds after a record was put into a partition, and what it replies. -/
theorem run_putRecord_memory (hdb : db.storage = .memory m) (p : Partition) (r : Record) :
    db.run (putRecord p r) =
      if r.partition = p then (.ok (), { db with storage := .memory (m.put p r.key r.written) })
      else (.error (misplaced r p), db) := by
  unfold Database.run putRecord
  rw [hdb]
  by_cases hp : r.partition = p
  · rw [if_neg (fun h => h hp), if_pos hp]
    rfl
  · rw [if_pos hp, if_neg hp]
    show (Except.error (misplaced r p), { db with storage := .memory m }) = _
    rw [← hdb]

/-- Putting is noted if it comes through. -/
theorem Memory.Keeps.performPut (hdb : db.storage = .memory m) (h : m.Keeps l) (op : Operation)
    (p : Partition) (r : Record) (hrecord : op.record? = some (p, r)) :
    ∃ m' : Memory, (db.run (putRecord p r)).2.storage = .memory m' ∧
      m'.Keeps (l.note (op, .done (db.run (putRecord p r)).1)) := by
  rw [run_putRecord_memory hdb]
  split
  · refine ⟨_, rfl, ?_⟩
    rw [note_put hrecord]
    exact h.put p r
  · exact ⟨m, hdb, h⟩

/-- **The replies of a memory say what it holds.** -/
theorem Memory.Keeps.perform (hdb : db.storage = .memory m) (h : m.Keeps l) (op : Operation) :
    ∃ m' : Memory, (op.perform db).2.storage = .memory m' ∧
      m'.Keeps (l.note (op, (op.perform db).1)) := by
  have hmirror : Mirrors db.storage m := hdb ▸ .memory m
  have hnames : ∀ p key, Names db.storage.root? p key := by
    intro p key
    rw [hdb]
    exact names_none
  cases op with
  | init => exact ⟨m, hdb, h⟩
  | close k => exact ⟨m, (storage_close db k).trans hdb, h⟩
  | destroy =>
    show ∃ m' : Memory, db.destroy.2.storage = _ ∧
      m'.Keeps (l.note (.destroy, .done db.destroy.1))
    unfold Database.destroy
    split
    · exact ⟨m, hdb, h⟩
    · unfold Database.run
      rw [hdb]
      refine ⟨.empty, rfl, fun p key => ?_⟩
      cases p <;> rfl
  | reopen =>
    show ∃ m' : Memory, db.reopen.2.storage = _ ∧ m'.Keeps (l.note (.reopen, .done db.reopen.1))
    rw [hmirror.reopen]
    exact ⟨m, hdb, h⟩
  | put p r => exact h.performPut hdb (.put p r) p r rfl
  | putContent name c => exact h.performPut hdb (.putContent name c) .files (.file ⟨name, c⟩) rfl
  | putDocument r => exact h.performPut hdb (.putDocument r) .metadata (.metadata r) rfl
  | get p key =>
    refine ⟨m, ?_, h⟩
    show ((getRecord p key).run db.storage).2 = _
    rw [hmirror.getRecord (hnames p key), hdb]
  | getContent name =>
    refine ⟨m, ?_, h⟩
    show ((Store.getContent name).run db.storage).2 = _
    rw [hmirror.getContent (hnames _ _), hdb]
  | getDocument =>
    refine ⟨m, ?_, h⟩
    show (Store.getDocument.run db.storage).2 = _
    rw [hmirror.getDocument (hnames _ _), hdb]

theorem Memory.Keeps.performAll (hdb : db.storage = .memory m) (h : m.Keeps l)
    (ops : List Operation) :
    ∃ m' : Memory, (performAll db ops).2.storage = .memory m' ∧
      m'.Keeps ((performAll db ops).1.foldl Ledger.note l) := by
  induction ops generalizing db m l with
  | nil => exact ⟨m, hdb, h⟩
  | cons op ops ih =>
    obtain ⟨m', hdb', h'⟩ := h.perform hdb op
    exact ih hdb' h'

end

/-! ## Folders -/

/-- While a record is being written, under its temporary name, all records read as before. -/
def Unseen (root : Path) (d : Disk) : Prop :=
  ∀ p key bs, Writable root p key → ∃ d₁ d₂,
    d.makeDirectories (recordPath root p key).parent = (.ok (), d₁) ∧
    d₁.write (temporaryPath (recordPath root p key)) bs = .ok d₂ ∧
    ∀ q j, Nameable root q j → Folder.read root d₂ q j = Folder.read root d q j

theorem unseen_of_serves {root : Path} {d : Disk} {l : Location} (h : Serves root d l)
    (hflat : Flat d l) : Unseen root d := by
  intro p key bs hkey
  refine ⟨made d l p, staged d l p key bs, ?_, write_temporary h.toStands hflat hkey bs, ?_⟩
  · rw [parent_recordPath root p hkey.single]
    exact makeDirectories_partition h.toStands hflat (h.room p)
  · intro q j hj
    obtain ⟨hstaged, hstagedFlat⟩ := stands_staged h.toStands hflat p key bs
    rw [hstaged.read_eq hstagedFlat hj, h.toStands.read_eq hflat hj, held_staged]

/-- A folder that was just opened and has no records mirrors the empty memory. -/
theorem mirrors_of_openAt {root : Path} {d d' : Disk} {l : Location} {s : Storage} (hb : d.Based)
    (htree : d.Tree) (hopen : openAt root d = (.ok s, d')) (hsteady : Steady root d' l)
    (hroom : ∀ p, isPath (partitionPath root p)) (hnew : ∀ p, d'.item? (partitionAt l p) = none) :
    s = .folder root d' ∧ Mirrors s .empty := by
  obtain ⟨rfl, k, hstands, hcurrent⟩ := stands_of_openAt hb htree hopen
  obtain rfl : k = l :=
    Except.ok.inj (hstands.base.symm.trans (hsteady d' (.refl l d')))
  have hbelow : ∀ p s, d'.item? (partitionAt k p ++ [s]) = none := by
    intro p s
    apply hstands.tree.item?_below (l := partitionAt k p) (by simp [hnew])
      (List.prefix_append _ _) (ne_of_length (by simp))
  refine ⟨rfl, .folder ⟨hstands, hcurrent, hsteady, hroom, ?_⟩ ⟨?_, ?_⟩ ?_⟩
  · intro p c
    simp [hnew]
  · intro p c
    simp [hnew]
  · intro p s
    simp [hbelow]
  · intro p key
    unfold held recordAt
    rw [hbelow]
    cases p <;> rfl

/-- In memory every name fits. -/
theorem fits_memory (op : Operation) : op.Fits none := by
  cases op <;> simp [Operation.Fits]

/-- **A folder replies as memory does, whatever is done with it.** What is read of a key is the
written form of the record that was put last; what is written under another key, or half written
under this one, is not seen. -/
theorem folder_performs_as_memory {root : Path} {d d' : Disk} {l : Location} {s : Storage}
    (hb : d.Based) (htree : d.Tree) (hopen : openAt root d = (.ok s, d'))
    (hsteady : Steady root d' l) (hroom : ∀ p, isPath (partitionPath root p))
    (hnew : ∀ p, d'.item? (partitionAt l p) = none) (ops : List Operation)
    (hfits : ∀ op ∈ ops, op.Fits (some root)) :
    (performAll (.on s) ops).1 = (performAll .fresh ops).1 ∧
    ∃ d'', (performAll (.on s) ops).2.storage = .folder root d'' ∧
      (∀ p key, Nameable root p key →
        ((getRecord p key).run (.folder root d'')).1 =
          recordIn p ((lastPut (performAll (.on s) ops).1 p key).map Record.written)) ∧
      Unseen root d'' := by
  obtain ⟨rfl, hmirror⟩ := mirrors_of_openAt hb htree hopen hsteady hroom hnew
  have htwins : TwinDatabases (some root) none (.on (.folder root d')) .fresh :=
    ⟨⟨rfl, rfl, .empty, hmirror, .memory _⟩, rfl, rfl⟩
  obtain ⟨hreplies, hlast⟩ := htwins.performAll hfits fun op _ => fits_memory op
  refine ⟨hreplies, ?_⟩
  -- the memory keeps what was put last, and the folder has its records
  have hempty : Memory.empty.Keeps .blank := by
    intro p key
    cases p <;> rfl
  have hfresh : Database.fresh.storage = .memory .empty := rfl
  obtain ⟨m, hmemory, hkeeps⟩ := hempty.performAll hfresh ops
  obtain ⟨hroot, _, m', hfolder, hsame⟩ := hlast.storage
  rw [hmemory] at hsame
  cases hsame
  rw [hreplies]
  cases hs : (performAll (.on (.folder root d')) ops).2.storage with
  | memory n =>
    rw [hs] at hroot
    cases hroot
  | folder root' d'' =>
    rw [hs] at hroot hfolder
    cases hroot
    refine ⟨d'', rfl, fun p key hkey => ?_, ?_⟩
    · rw [hfolder.getRecord (names_some.2 hkey), hkeeps p key]
      rfl
    · cases hfolder with
      | folder hserves hflat => exact unseen_of_serves hserves hflat

/-- A disk on which a store was just opened. -/
def newStore : Disk := (openAt ⟨"store"⟩ (.blank "" [])).2

theorem openAt_newStore :
    openAt ⟨"store"⟩ (.blank "" []) = (.ok (.folder ⟨"store"⟩ newStore), newStore) := rfl

theorem steady_newStore : Steady ⟨"store"⟩ newStore ["store"] :=
  steady_of_plain rfl (by decide +kernel)

theorem isPath_newStore (p : Partition) : isPath (partitionPath ⟨"store"⟩ p) := by
  cases p <;> decide +kernel

theorem item?_newStore (p : Partition) : newStore.item? (partitionAt ["store"] p) = none := by
  cases p <;> rfl

theorem odd_keys_kept :
    (performAll (.on (.folder ⟨"store"⟩ newStore)) [.init, .putContent "" none,
      .putContent ".json.tmp" (some (.files .empty)), .reopen, .get .files "", .destroy,
      .get .files ".json"]).1 =
    (performAll .fresh [.init, .putContent "" none, .putContent ".json.tmp" (some (.files .empty)),
      .reopen, .get .files "", .destroy, .get .files ".json"]).1 := by
  refine (folder_performs_as_memory (.inl rfl) (tree_blank _ _) openAt_newStore steady_newStore
    isPath_newStore item?_newStore _ ?_).1
  have htakes : ∀ key ∈ ["", ".json.tmp"], Writable ⟨"store"⟩ .files key := by decide +kernel
  have hnames : ∀ key ∈ ["", ".json"], Nameable ⟨"store"⟩ .files key := by decide +kernel
  simp at htakes hnames
  simp [Operation.Fits, htakes, hnames]

/-- **A single dot is not put.** Its record could have its file, but the name of the file beside it
leads up. -/
theorem dot_is_not_put :
    openAt ⟨"store"⟩ (.blank "" []) = (.ok (.folder ⟨"store"⟩ newStore), newStore) ∧
    Nameable ⟨"store"⟩ .files "." ∧
    (performAll (.on (.folder ⟨"store"⟩ newStore)) [.init, .putContent "." none]).1 =
      [(.init, .handle 0),
        (.putContent "." none, .done (.error (failedTo "write" ⟨"store/Files/.."⟩)))] ∧
    (performAll .fresh [.init, .putContent "." none]).1 =
      [(.init, .handle 0), (.putContent "." none, .done (.ok ()))] :=
  ⟨openAt_newStore, by decide +kernel, rfl, rfl⟩

end QmlExport.Store
