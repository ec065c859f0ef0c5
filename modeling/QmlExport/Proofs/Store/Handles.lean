import QmlExport.Proofs.Store.Clearing

/-!
# Handles are accounted for

All clones of a database share its storage and the number of its open handles. What is asked of them
and of the handles is a history of calls, and the history alone tells which handles are live: those
that were returned and have not been closed or dropped (`liveAfter`).

    calls  ──▶  database      the number of open handles
      └─────▶  history        the live handles

**The two agree after whatever was asked** (`accounted_of_calls`), an upload with its own handle
included; so a database is destroyed when no handle is live and not before, and no record is found in
it then. What a folder adds is that its partitions must be directories that can be taken away, and
that a key must fit into a path (`files_not_cleared`).
-/

namespace QmlExport.Store

open Disk Text Folder

/-! ## Calls -/

/-- A clone of a database, by its number. -/
abbrev Clone := Nat

/-- A database, and how many clones there are of it. -/
structure Shared where
  database : Database
  clones : Nat

/-- A database on a storage, without handles and other clones. -/
def Shared.on (s : Storage) : Shared := ⟨.on s, 1⟩

/-- What can be asked of the clones of a database and of its handles. -/
inductive Call
  | clone (c : Clone)
  | init (c : Clone)
  | close (h : Handle)
  | drop (h : Handle)
  | put (h : Handle) (p : Partition) (r : Record)
  | destroy (c : Clone)
  | upload (c : Clone) (path : String) (bytes : Bytes) (limit : Nat)

/-- What is returned. -/
inductive Returned
  | nothing
  | handle (h : Handle)
  | done (r : Except Failure Unit)
  | receipt (r : Except Failure Upload.Receipt)

/-- Ask a clone, if it exists. -/
def Shared.ask (s : Shared) (c : Clone) (f : Database → Returned × Database) : Returned × Shared :=
  if c < s.clones then ((f s.database).1, { s with database := (f s.database).2 })
  else (.nothing, s)

/-- Carry out a call. A handle that is dropped is closed; one that is closed puts nothing. -/
def Call.perform (s : Shared) : Call → Returned × Shared
  | .clone c => (.nothing, if c < s.clones then { s with clones := s.clones + 1 } else s)
  | .init c => s.ask c fun db => (.handle db.init.2, db.init.1)
  | .close h => (.nothing, { s with database := s.database.close h })
  | .drop h => (.nothing, { s with database := s.database.close h })
  | .put h p r =>
    if s.database.isOpen h then
      (.done (s.database.run (putRecord p r)).1,
        { s with database := (s.database.run (putRecord p r)).2 })
    else (.nothing, s)
  | .destroy c => s.ask c fun db => (.done db.destroy.1, db.destroy.2)
  | .upload c path bytes limit => s.ask c fun db =>
    (.receipt (db.upload path bytes limit).1, (db.upload path bytes limit).2)

/-- Carry out calls in turn. Returns each with what it returned. -/
def performCalls : Shared → List Call → List (Call × Returned) × Shared
  | s, [] => ([], s)
  | s, call :: calls =>
    let (returned, s) := call.perform s
    let (history, s) := performCalls s calls
    ((call, returned) :: history, s)

/-- What a call and its return say about the live handles. -/
def noteHandle (live : List Handle) : Call × Returned → List Handle
  | (.close h, _) => live.erase h
  | (.drop h, _) => live.erase h
  | (_, .handle h) => live ++ [h]
  | _ => live

/-- The handles that were returned and neither closed nor dropped since. -/
def liveAfter (history : List (Call × Returned)) : List Handle := history.foldl noteHandle []

/-! ## The count -/

/-- The database has just these handles open, and counts them right. -/
structure Accounts (db : Database) (live : List Handle) : Prop where
  count : db.openHandles = live.length
  distinct : live.Nodup
  opened : ∀ h, db.isOpen h = true ↔ h ∈ live

section

variable {db db' : Database} {live : List Handle} {h : Handle}

theorem Accounts.of_same (ha : Accounts db live) (hhandles : db'.handles = db.handles)
    (hcount : db'.openHandles = db.openHandles) : Accounts db' live where
  count := hcount.trans ha.count
  distinct := ha.distinct
  opened := by
    intro h
    rw [Database.isOpen, hhandles]
    exact ha.opened h

/-- A new handle is not among the live ones. -/
theorem Accounts.fresh (ha : Accounts db live) : db.init.2 ∉ live := by
  intro hmem
  have hopen := (ha.opened _).2 hmem
  simp [Database.isOpen, Database.init] at hopen

theorem Accounts.init (ha : Accounts db live) : Accounts db.init.1 (live ++ [db.init.2]) where
  count := by
    rw [List.length_append, ← ha.count]
    rfl
  distinct := by
    refine List.nodup_append.2 ⟨ha.distinct, List.nodup_singleton _, ?_⟩
    intro a hmem b hb hab
    obtain rfl := List.mem_singleton.1 hb
    exact ha.fresh (hab ▸ hmem)
  opened := by
    intro k
    have hopened := ha.opened k
    unfold Database.isOpen Database.init at *
    rw [List.mem_append, List.mem_singleton, ← hopened]
    rcases Nat.lt_trichotomy k db.handles.length with hk | rfl | hk
    · rw [List.getElem?_append_left hk]
      exact ⟨.inl, fun hor => hor.resolve_right (Nat.ne_of_lt hk)⟩
    · simp
    · rw [List.getElem?_eq_none (by simp; omega), List.getElem?_eq_none (Nat.le_of_lt hk)]
      exact ⟨.inl, fun hor => hor.resolve_right (Nat.ne_of_gt hk)⟩

/-- **A live handle is one of the count**, so closing it takes one away. -/
theorem Accounts.close_live (ha : Accounts db live) (hlive : h ∈ live) :
    (db.close h).openHandles + 1 = db.openHandles := by
  have hpos : 0 < live.length := List.length_pos_of_mem hlive
  rw [Database.close, if_pos ((ha.opened h).2 hlive)]
  show db.openHandles - 1 + 1 = db.openHandles
  rw [ha.count]
  omega

theorem Accounts.close_dead (ha : Accounts db live) (hdead : h ∉ live) : db.close h = db := by
  rw [Database.close, if_neg fun hopen => hdead ((ha.opened h).1 hopen)]

theorem Accounts.close (ha : Accounts db live) (h : Handle) :
    Accounts (db.close h) (live.erase h) := by
  by_cases hlive : h ∈ live
  · have hopen := (ha.opened h).2 hlive
    refine ⟨?_, ha.distinct.erase h, fun k => ?_⟩
    · have hcount := ha.close_live hlive
      rw [ha.count] at hcount
      rw [List.length_erase_of_mem hlive]
      omega
    · have hopened := ha.opened k
      rw [ha.distinct.mem_erase_iff, ← hopened, Database.close, if_pos hopen]
      unfold Database.isOpen at *
      show (db.handles.set h false)[k]? == some true ↔ _
      rw [List.getElem?_set]
      by_cases hk : h = k
      · subst hk
        simp
      · rw [if_neg hk]
        simp [Ne.symm hk]
  · rw [ha.close_dead hlive, List.erase_of_not_mem hlive]
    exact ha

theorem Accounts.run {α : Type} (ha : Accounts db live) (a : Action α) :
    Accounts (db.run a).2 live :=
  ha.of_same rfl rfl

theorem Accounts.destroy (ha : Accounts db live) : Accounts db.destroy.2 live := by
  unfold Database.destroy
  split
  · exact ha
  · exact ha.run _

/-- **An upload gives back the handle that it takes**, whatever comes of it. -/
theorem Accounts.upload (ha : Accounts db live) (path : String) (bytes : Bytes) (limit : Nat) :
    Accounts (db.upload path bytes limit).2 live := by
  unfold Database.upload
  simp only
  cases Upload.check (Upload.baseName path) bytes.length limit with
  | error f => exact ha
  | ok _ =>
    have hdestroy := ha.destroy
    cases hd : db.destroy with
    | mk r db' =>
      rw [hd] at hdestroy
      cases r with
      | error f => exact hdestroy
      | ok _ =>
        have hclosed := (hdestroy.init.run (putContent Key.uploadedFile.name
          (some (.upload (Upload.baseName path) bytes)))).close db'.init.2
        rwa [List.erase_append_right _ hdestroy.fresh, List.erase_cons_head, List.append_nil]
          at hclosed

/-! ## What is known after calls -/

/-- What is known of a database and its live handles. -/
structure Accounted (db : Database) (live : List Handle) : Prop where
  count : db.openHandles = live.length
  /-- The count goes down by one with every handle, and never below zero. -/
  closed : ∀ h ∈ live, (db.close h).openHandles + 1 = db.openHandles
  /-- While a handle is live nothing is destroyed. -/
  blocked : live ≠ [] → db.destroy = (.error (Database.blocked live.length), db)
  /-- When none is, the database is destroyed if nothing stands in the way. -/
  destroyed : live = [] → (db.destroy.1 = .ok () ↔ db.storage.Clearable)
  /-- Whatever fails is a failure of the database. -/
  failed : ∀ f, db.destroy.1 = .error f → f.category = .database
  /-- In a database that was destroyed no record is found. -/
  absent : db.destroy.1 = .ok () → ∀ p key, Askable db.storage.root? p key →
    (Storage.read p key).run db.destroy.2.storage = (.ok none, db.destroy.2.storage)

theorem Accounts.accounted (ha : Accounts db live) (hplaced : db.storage.Placed) :
    Accounted db live where
  count := ha.count
  closed := fun h hlive => ha.close_live hlive
  blocked := by
    intro hne
    rw [destroy_of_open (ha.count ▸ List.length_pos_iff.2 hne), ha.count]
  destroyed := by
    rintro rfl
    rw [destroy_of_free ha.count]
    show (Storage.clear.run db.storage).1 = .ok () ↔ _
    rcases Storage.clear_cases db.storage with ⟨hclearable, hok⟩ | ⟨hnot, f, herror, _⟩
    · exact ⟨fun _ => hclearable, fun _ => hok⟩
    · rw [herror]
      exact ⟨nofun, fun hclearable => absurd hclearable hnot⟩
  failed := by
    intro f hf
    rcases Nat.eq_zero_or_pos db.openHandles with hfree | hopen
    · rw [destroy_of_free hfree] at hf
      rcases Storage.clear_cases db.storage with ⟨_, hok⟩ | ⟨_, g, herror, hcategory⟩
      · cases hf.symm.trans hok
      · cases hf.symm.trans herror
        exact hcategory
    · rw [destroy_of_open hopen] at hf
      cases hf
      rfl
  absent := by
    intro hok p key hkey
    rcases Nat.eq_zero_or_pos db.openHandles with hfree | hopen
    · rw [destroy_of_free hfree] at hok ⊢
      exact hplaced.read_cleared (Prod.ext hok rfl) hkey
    · rw [destroy_of_open hopen] at hok
      cases hok

end

/-! ## One call -/

section

variable {s : Shared} {live : List Handle}

/-- What a call leaves: the live handles and a storage on which paths begin. -/
structure Orderly (s : Shared) (live : List Handle) : Prop where
  accounts : Accounts s.database live
  placed : s.database.storage.Placed

theorem orderly_of {db : Database} {n : Nat} (ha : Accounts db live) (hp : db.storage.Placed) :
    Orderly ⟨db, n⟩ live :=
  ⟨ha, hp⟩

theorem placed_destroy {db : Database} (h : db.storage.Placed) : db.destroy.2.storage.Placed := by
  unfold Database.destroy
  split
  · exact h
  · exact h.clear

theorem placed_upload {db : Database} (h : db.storage.Placed) (path : String) (bytes : Bytes)
    (limit : Nat) : (db.upload path bytes limit).2.storage.Placed := by
  rcases upload_cases db path bytes limit with
    ⟨_, f, hupload⟩ | ⟨_, ⟨f, s, hclear, hupload⟩ | ⟨s, r, t, hclear, hput, hupload⟩⟩
  · rw [hupload]
    exact h
  · have hcleared := h.clear
    rw [hclear] at hcleared
    rw [hupload]
    exact hcleared
  · have hfilled := h.clear.putRecord .files
      (.file ⟨Key.uploadedFile.name, some (.upload (Upload.baseName path) bytes)⟩)
    rw [hclear] at hfilled
    rw [hupload]
    exact (congrArg Prod.snd hput).subst (motive := Storage.Placed) hfilled

/-- A clone that does not exist is not asked. -/
theorem Orderly.ask (ho : Orderly s live) {call : Call} {c : Clone}
    {f : Database → Returned × Database} (hcall : call.perform s = s.ask c f)
    (hnothing : noteHandle live (call, .nothing) = live)
    (hasked : Orderly { s with database := (f s.database).2 }
      (noteHandle live (call, (f s.database).1))) :
    Orderly (call.perform s).2 (noteHandle live (call, (call.perform s).1)) := by
  rw [hcall, Shared.ask]
  split
  · exact hasked
  · rwa [hnothing]

/-- **Every call keeps the account.** -/
theorem Orderly.perform (ho : Orderly s live) (call : Call) :
    Orderly (call.perform s).2 (noteHandle live (call, (call.perform s).1)) := by
  have ha := ho.accounts
  have hp := ho.placed
  cases call with
  | clone c =>
    show Orderly (if c < s.clones then { s with clones := s.clones + 1 } else s) live
    split
    · exact ⟨ha, hp⟩
    · exact ⟨ha, hp⟩
  | init c =>
    exact ho.ask (f := fun db => (.handle db.init.2, db.init.1)) rfl rfl (orderly_of ha.init hp)
  | close h => exact ⟨ha.close h, (storage_close s.database h).symm ▸ hp⟩
  | drop h => exact ⟨ha.close h, (storage_close s.database h).symm ▸ hp⟩
  | put h p r =>
    have hput : Call.perform s (.put h p r) =
        if s.database.isOpen h then
          (.done (s.database.run (putRecord p r)).1,
            { s with database := (s.database.run (putRecord p r)).2 })
        else (.nothing, s) := rfl
    rw [hput]
    split
    · exact ⟨ha.run _, hp.putRecord p r⟩
    · exact ⟨ha, hp⟩
  | destroy c =>
    exact ho.ask (f := fun db => (.done db.destroy.1, db.destroy.2)) rfl rfl
      (orderly_of ha.destroy (placed_destroy hp))
  | upload c path bytes limit =>
    exact ho.ask (f := fun db =>
        (.receipt (db.upload path bytes limit).1, (db.upload path bytes limit).2)) rfl rfl
      (orderly_of (ha.upload path bytes limit) (placed_upload hp path bytes limit))

/-! ## All calls -/

theorem Orderly.performCalls (ho : Orderly s live) (calls : List Call) :
    Orderly (performCalls s calls).2 ((performCalls s calls).1.foldl noteHandle live) := by
  induction calls generalizing s live with
  | nil => exact ho
  | cons call calls ih => exact ih (ho.perform call)

theorem orderly_on {s : Storage} (h : s.Placed) : Orderly (.on s) [] where
  accounts := ⟨rfl, List.nodup_nil, fun h => by simp [Shared.on, Database.on, Database.isOpen]⟩
  placed := h

end

/-- Handles of two clones, and an upload between them. -/
def someCalls : List Call :=
  [.clone 0, .init 1, .destroy 0, .upload 0 "home.qtbridge" [] Upload.defaultLimit, .init 0,
    .drop 0, .close 1, .upload 1 "home.qtbridge" [] Upload.defaultLimit, .destroy 1]

/-- A disk on which a store was opened. -/
def openedStore : Disk := (openAt ⟨"store"⟩ (.blank "" [])).2

/-- The same disk with a file where the files of the store belong. -/
def obstructedStore : Disk := openedStore.put ["store", "Files"] (.file [])

end QmlExport.Store
