import QmlExport.Proofs.Store.Opening
import QmlExport.Proofs.Store.View

/-!
# Folders that mirror a memory

A storage `Shows` records when they can be read and written. A folder `Mirrors` a memory when it has
the same records and can be cleared. Reading then gives what memory gives, writing and clearing keep
the mirror (`Mirrors.write`, `Serviceable.clear`), so that

    folder  ── action ─▶  folder
      ┆                     ┆
    memory  ── action ─▶  memory

commutes, result and all. Two storages that mirror one memory are `Twins`, and what is built of reads
and writes does `Alike` on them. Storages that show records are reliable (`reliable_shows`).
-/

namespace QmlExport

/-! ## Steps that do alike -/

section

variable {σ α β : Type} {R : σ → σ → Prop}

/-- On states that are related the step comes to one result and leaves related states. -/
def Alike (R : σ → σ → Prop) (x : ExceptT Failure (StateM σ) α) : Prop :=
  ∀ s t, R s t → (x.run s).1 = (x.run t).1 ∧ R (x.run s).2 (x.run t).2

namespace Alike

theorem pure (a : α) : Alike R (Pure.pure a) := fun _ _ h => ⟨rfl, h⟩

theorem throw (f : Failure) : Alike R (MonadExcept.throw f : ExceptT Failure (StateM σ) α) :=
  fun _ _ h => ⟨rfl, h⟩

theorem ofExcept (x : Except Failure α) :
    Alike R (MonadExcept.ofExcept x : ExceptT Failure (StateM σ) α) := by
  cases x with
  | ok a => exact pure a
  | error f => exact throw f

/-- Going on alike from where two steps have come to one result. -/
theorem behind {x y : ExceptT Failure (StateM σ) α} {k : α → ExceptT Failure (StateM σ) β} {s t : σ}
    (h : (x.run s).1 = (y.run t).1 ∧ R (x.run s).2 (y.run t).2) (hk : ∀ a, Alike R (k a)) :
    ((x >>= k).run s).1 = ((y >>= k).run t).1 ∧ R ((x >>= k).run s).2 ((y >>= k).run t).2 := by
  obtain ⟨hresult, hstate⟩ := h
  rw [run_bind, run_bind]
  cases hs : x.run s with
  | mk r s' =>
    cases ht : y.run t with
    | mk r' t' =>
      rw [hs, ht] at hresult hstate
      obtain rfl : r = r' := hresult
      cases r with
      | ok a => exact hk a s' t' hstate
      | error f => exact ⟨rfl, hstate⟩

theorem bind {x : ExceptT Failure (StateM σ) α} {k : α → ExceptT Failure (StateM σ) β}
    (hx : Alike R x) (hk : ∀ a, Alike R (k a)) : Alike R (x >>= k) :=
  fun s t h => behind (hx s t h) hk

end Alike

end

namespace Store

open Disk Text Folder

/-- The folder of a storage; memory has none. -/
def Storage.root? : Storage → Option Path
  | .memory _ => none
  | .folder root _ => some root

/-- A record can be looked for under the key. -/
def Names (root? : Option Path) (p : Partition) (key : String) : Prop :=
  ∀ root, root? = some root → Nameable root p key

/-- A record can be written under the key. -/
def Takes (root? : Option Path) (p : Partition) (key : String) : Prop :=
  ∀ root, root? = some root → Writable root p key

@[simp] theorem names_some {root : Path} {p : Partition} {key : String} :
    Names (some root) p key ↔ Nameable root p key :=
  ⟨fun h => h root rfl, by rintro h _ ⟨⟩; exact h⟩

@[simp] theorem takes_some {root : Path} {p : Partition} {key : String} :
    Takes (some root) p key ↔ Writable root p key :=
  ⟨fun h => h root rfl, by rintro h _ ⟨⟩; exact h⟩

@[simp] theorem names_none {p : Partition} {key : String} : Names none p key := nofun

@[simp] theorem takes_none {p : Partition} {key : String} : Takes none p key := nofun

theorem Takes.names {root? : Option Path} {p : Partition} {key : String}
    (h : Takes root? p key) : Names root? p key :=
  fun root hroot => (h root hroot).toNameable

/-- What is kept under each key. -/
abbrev Records := Partition → String → Option Bytes

/-- Records with one more, or another one under its key. -/
def Records.put (r : Records) (p : Partition) (key : String) (bs : Bytes) : Records :=
  fun q j => if q = p ∧ j = key then some bs else r q j

/-- A storage has these records, and file operations on them come through. -/
inductive Shows : Storage → Records → Prop
  | memory (m) : Shows (.memory m) m.get?
  | folder {root d l} (hstands : Stands root d l) (hflat : Flat d l) :
    Shows (.folder root d) (held d l)

/-- A storage whose records can be read and written. -/
def Works (s : Storage) : Prop := ∃ r, Shows s r

/-- A storage has the records of a memory, and can be cleared. -/
inductive Mirrors : Storage → Memory → Prop
  | memory (m) : Mirrors (.memory m) m
  | folder {root d l m} (hserves : Serves root d l) (hflat : Flat d l)
    (hheld : ∀ p key, held d l p key = m.get? p key) : Mirrors (.folder root d) m

/-- A storage that can be cleared, whatever it holds. -/
inductive Serviceable : Storage → Prop
  | memory (m) : Serviceable (.memory m)
  | folder {root d l} (hserves : Serves root d l) : Serviceable (.folder root d)

section

variable {s t : Storage} {m : Memory} {r : Records} {p : Partition} {key : String}

theorem Mirrors.serviceable (h : Mirrors s m) : Serviceable s := by
  cases h with
  | memory m => exact .memory m
  | folder hserves => exact .folder hserves

theorem Mirrors.shows (h : Mirrors s m) : Shows s m.get? := by
  cases h with
  | memory m => exact .memory m
  | @folder root d l m hserves hflat hheld =>
    have hsame : held d l = m.get? := funext fun p => funext fun key => hheld p key
    exact hsame ▸ .folder hserves.toStands hflat

theorem Shows.read (h : Shows s r) (hkey : Names s.root? p key) :
    (Storage.read p key).run s = (.ok (r p key), s) := by
  cases h with
  | memory m => rfl
  | @folder root d l hstands hflat =>
    show (Folder.read root d p key, Storage.folder root d) = _
    rw [hstands.read_eq hflat (hkey root rfl)]

theorem Mirrors.read (h : Mirrors s m) (hkey : Names s.root? p key) :
    (Storage.read p key).run s = (.ok (m.get? p key), s) :=
  h.shows.read hkey

theorem Mirrors.getRecord (h : Mirrors s m) (hkey : Names s.root? p key) :
    (getRecord p key).run s = (recordIn p (m.get? p key), s) := by
  unfold Store.getRecord
  rw [run_bind_ok (h.read hkey)]
  cases m.get? p key with
  | none => rfl
  | some bs =>
    simp only [recordIn]
    generalize Json.decode? (Record.decoderIn false p) (Json.parse bs) = r
    cases r <;> rfl

/-- Reading a part of a record leaves the storage as it is. -/
theorem Mirrors.getPart {α : Type} (h : Mirrors s m) (hkey : Names s.root? p key)
    {k : Option Record → Action α} {part : Option Record → α}
    (hk : ∀ r, k r = Pure.pure (part r)) :
    (Store.getRecord p key >>= k).run s = ((recordIn p (m.get? p key)).map part, s) := by
  have hget := h.getRecord hkey
  cases hr : recordIn p (m.get? p key) with
  | error f =>
    rw [hr] at hget
    exact run_bind_error hget
  | ok r =>
    rw [hr] at hget
    rw [run_bind_ok hget, hk]
    rfl

theorem Mirrors.getContent {name : String} (h : Mirrors s m)
    (hkey : Names s.root? .files name) :
    (getContent name).run s = ((recordIn .files (m.get? .files name)).map contentIn, s) := by
  apply h.getPart hkey
  intro r
  rcases r with _ | _ | _ <;> rfl

theorem Mirrors.getDocument (h : Mirrors s m)
    (hkey : Names s.root? .metadata Key.metadata.name) :
    getDocument.run s =
      ((recordIn .metadata (m.get? .metadata Key.metadata.name)).map documentIn, s) := by
  apply h.getPart hkey
  intro r
  rcases r with _ | _ | _ <;> rfl

/-- What a mirror shows under a key. -/
theorem Mirrors.content {k : Key} (h : Mirrors s m) (hkey : Names s.root? .files k.name) :
    s.content k = (recordIn .files (m.get? .files k.name)).map contentIn := by
  have hget := h.getContent hkey
  rw [s.run_getContent] at hget
  exact congrArg Prod.fst hget

theorem Mirrors.document (h : Mirrors s m) (hkey : Names s.root? .metadata Key.metadata.name) :
    s.document = (recordIn .metadata (m.get? .metadata Key.metadata.name)).map documentIn := by
  have hget := h.getDocument hkey
  rw [s.run_getDocument] at hget
  exact congrArg Prod.fst hget

theorem run_clear_eq (root : Path) (d : Disk) :
    Storage.clear.run (.folder root d) =
      ((Folder.clear root d).1, .folder root (Folder.clear root d).2) := by
  show Storage.clear (.folder root d) = _
  unfold Storage.clear
  dsimp only

theorem run_write_eq (root : Path) (d : Disk) (p : Partition) (key : String) (bs : Bytes) :
    (Storage.write p key bs).run (.folder root d) =
      ((Folder.write root d p key bs).1, .folder root (Folder.write root d p key bs).2) := by
  show Storage.write p key bs (.folder root d) = _
  unfold Storage.write
  dsimp only

theorem run_write_folder {root : Path} {d : Disk} {l : Location} (hstands : Stands root d l)
    (hflat : Flat d l) (hkey : Writable root p key) (bs : Bytes) :
    (Storage.write p key bs).run (.folder root d) =
      (.ok (), .folder root (written d l p key bs)) := by
  rw [run_write_eq, write_eq hstands hflat hkey bs]

theorem Shows.write (h : Shows s r) (hkey : Takes s.root? p key) (bs : Bytes) :
    ∃ t, (Storage.write p key bs).run s = (.ok (), t) ∧ Shows t (r.put p key bs) ∧
      t.root? = s.root? := by
  cases h with
  | memory m =>
    have hput : (m.put p key bs).get? = Records.put m.get? p key bs :=
      funext fun q => funext fun j => m.get?_put p q key j bs
    exact ⟨_, rfl, hput ▸ .memory _, rfl⟩
  | @folder root d l hstands hflat =>
    obtain ⟨hstands', hflat'⟩ := stands_written hstands hflat p key bs
    have hput : held (written d l p key bs) l = Records.put (held d l) p key bs :=
      funext fun q => funext fun j => held_written bs q j
    exact ⟨_, run_write_folder hstands hflat (hkey root rfl) bs,
      hput ▸ .folder hstands' hflat', rfl⟩

/-- **Writing to a mirror is writing to the memory.** -/
theorem Mirrors.write (h : Mirrors s m) (hkey : Takes s.root? p key) (bs : Bytes) :
    ∃ t, (Storage.write p key bs).run s = (.ok (), t) ∧ Mirrors t (m.put p key bs) ∧
      t.root? = s.root? := by
  cases h with
  | memory m => exact ⟨_, rfl, .memory _, rfl⟩
  | @folder root d l m hserves hflat hheld =>
    obtain ⟨_, hflat'⟩ := stands_written hserves.toStands hflat p key bs
    have hheld' : ∀ q j, held (written d l p key bs) l q j = (m.put p key bs).get? q j := by
      intro q j
      rw [held_written, hheld, Memory.get?_put]
    exact ⟨_, run_write_folder hserves.toStands hflat (hkey root rfl) bs,
      .folder (hserves.written hflat p key bs) hflat' hheld', rfl⟩

theorem Mirrors.putContent {name : String} (h : Mirrors s m) (hkey : Takes s.root? .files name)
    (c : Option Content) :
    ∃ t, (putContent name c).run s = (.ok (), t) ∧
      Mirrors t (m.put .files name (Record.written (.file ⟨name, c⟩))) ∧ t.root? = s.root? := by
  rw [putContent_eq]
  exact h.write hkey _

/-- **A storage that was cleared mirrors the empty memory.** -/
theorem Serviceable.clear (h : Serviceable s) :
    ∃ t, Storage.clear.run s = (.ok (), t) ∧ Mirrors t .empty ∧ t.root? = s.root? := by
  cases h with
  | memory m => exact ⟨_, rfl, .memory _, rfl⟩
  | @folder root d l hserves =>
    have hrun : Storage.clear.run (.folder root d) = (.ok (), .folder root (cleared d l)) := by
      rw [run_clear_eq, clear_eq hserves]
    have hheld : ∀ p key, held (cleared d l) l p key = Memory.empty.get? p key := by
      intro p key
      rw [held_cleared hserves.tree]
      cases p <;> rfl
    exact ⟨_, hrun, .folder hserves.cleared (flat_cleared hserves.tree) hheld, rfl⟩

end

/-! ## Storages with the same records -/

/-- Two storages, in these folders or in memory, that have the same records. -/
structure Twins (a b : Option Path) (s t : Storage) : Prop where
  left : s.root? = a
  right : t.root? = b
  mirrors : ∃ m, Mirrors s m ∧ Mirrors t m

section

variable {a b : Option Path} {p : Partition} {key : String}

theorem alike_read (ha : Names a p key) (hb : Names b p key) :
    Alike (Twins a b) (Storage.read p key) := by
  intro s t h
  obtain ⟨m, hs, ht⟩ := h.mirrors
  rw [hs.read (h.left ▸ ha), ht.read (h.right ▸ hb)]
  exact ⟨rfl, h⟩

theorem alike_write (ha : Takes a p key) (hb : Takes b p key) (bs : Bytes) :
    Alike (Twins a b) (Storage.write p key bs) := by
  intro s t h
  obtain ⟨m, hs, ht⟩ := h.mirrors
  obtain ⟨s', hs', hmirror, hroot⟩ := hs.write (h.left ▸ ha) bs
  obtain ⟨t', ht', hmirror', hroot'⟩ := ht.write (h.right ▸ hb) bs
  rw [hs', ht']
  exact ⟨rfl, hroot.trans h.left, hroot'.trans h.right, _, hmirror, hmirror'⟩

theorem alike_clear : Alike (Twins a b) Storage.clear := by
  intro s t h
  obtain ⟨m, hs, ht⟩ := h.mirrors
  obtain ⟨s', hs', hmirror, hroot⟩ := hs.serviceable.clear
  obtain ⟨t', ht', hmirror', hroot'⟩ := ht.serviceable.clear
  rw [hs', ht']
  exact ⟨rfl, hroot.trans h.left, hroot'.trans h.right, _, hmirror, hmirror'⟩

theorem alike_putRecord {r : Record} (ha : r.partition = p → Takes a p r.key)
    (hb : r.partition = p → Takes b p r.key) : Alike (Twins a b) (putRecord p r) := by
  unfold putRecord
  split
  · apply Alike.throw
  · next h =>
    have hp : r.partition = p := by simpa using h
    exact alike_write (ha hp) (hb hp) r.written

theorem alike_putContent {name : String} (ha : Takes a .files name) (hb : Takes b .files name)
    (c : Option Content) : Alike (Twins a b) (putContent name c) :=
  alike_putRecord (fun _ => ha) fun _ => hb

theorem alike_putDocument {r : MetadataRecord} (ha : Takes a .metadata r.key)
    (hb : Takes b .metadata r.key) : Alike (Twins a b) (putDocument r) :=
  alike_putRecord (fun _ => ha) fun _ => hb

theorem alike_getRecord (ha : Names a p key) (hb : Names b p key) :
    Alike (Twins a b) (getRecord p key) := by
  apply Alike.bind (alike_read ha hb)
  intro octets
  cases octets with
  | none => apply Alike.pure
  | some bs =>
    dsimp only
    split
    · apply Alike.pure
    · apply Alike.throw

theorem alike_getContent {name : String} (ha : Names a .files name) (hb : Names b .files name) :
    Alike (Twins a b) (getContent name) := by
  apply Alike.bind (alike_getRecord ha hb)
  intro r
  rcases r with _ | _ | _ <;> apply Alike.pure

theorem alike_getDocument (ha : Names a .metadata Key.metadata.name)
    (hb : Names b .metadata Key.metadata.name) : Alike (Twins a b) getDocument := by
  apply Alike.bind (alike_getRecord ha hb)
  intro r
  rcases r with _ | _ | _ <;> apply Alike.pure

end

/-! ## Reliability -/

/-- There is room for the records that runs write. -/
def Room (root? : Option Path) : Prop := ∀ p (k : Key), Takes root? p k.name

/-- Records that differ at most under the keys of a run. -/
def Records.AlikeBeyondKeys (r first : Records) : Prop :=
  ∀ p key, (∀ k : Key, key ≠ k.name) → r p key = first p key

/-- **Storages with room that show records are reliable**, and what is not under the key of a run
stays as it was. -/
theorem reliable_shows {root? : Option Path} (hroom : Room root?) (first : Records) :
    Reliable fun s => s.root? = root? ∧ ∃ r, Shows s r ∧ r.AlikeBeyondKeys first := by
  -- what a write leaves
  have hwrite : ∀ {s : Storage} {r : Records}, s.root? = root? → Shows s r → ∀ p (k : Key) bs,
      (Storage.write p k.name bs).run s = (.ok (), s.withOctets p k bs) ∧
        Shows (s.withOctets p k bs) (r.put p k.name bs) ∧
        (s.withOctets p k bs).root? = root? := by
    intro s r hroot hshows p k bs
    obtain ⟨t, ht, hshows', hroot'⟩ := hshows.write (hroot ▸ hroom p k) bs
    have hwith : s.withOctets p k bs = t := congrArg Prod.snd ht
    rw [hwith]
    exact ⟨ht, hshows', hroot'.trans hroot⟩
  refine ⟨?_, ?_, ?_⟩
  · rintro s ⟨hroot, r, hshows, _⟩ p k bs
    exact (hwrite hroot hshows p k bs).1
  · rintro s ⟨hroot, r, hshows, hbeyond⟩ p k bs
    obtain ⟨_, hshows', hroot'⟩ := hwrite hroot hshows p k bs
    refine ⟨hroot', _, hshows', fun q key hkey => ?_⟩
    exact (if_neg (hkey k ·.2)).trans (hbeyond q key hkey)
  · rintro s ⟨hroot, r, hshows, _⟩ p k bs q j
    obtain ⟨_, hshows', hroot'⟩ := hwrite hroot hshows p k bs
    have hoctets : ∀ {t : Storage} {r : Records}, t.root? = root? → Shows t r →
        t.octets q j = .ok (r q j.name) := by
      intro t r ht hr
      rw [Storage.octets, hr.read (ht ▸ (hroom q j).names)]
    have hname : j.name = k.name ↔ j = k := ⟨Key.name_injective, congrArg Key.name⟩
    rw [hoctets hroot' hshows', hoctets hroot hshows, Records.put]
    simp only [hname]
    split <;> rfl

end Store

end QmlExport
