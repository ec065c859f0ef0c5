import QmlExport.Proofs.Store.View
import QmlExport.Run

/-!
# What a job does to the storage

`Ends j s r t` says that a job, started on the storage `s`, comes to the result `r` and leaves the
storage `t`; meter and stage have no part in it. The rules below follow the shape of a job: what its
single steps do, and what comes of one step after the other.
-/

namespace QmlExport.Run

open Store Upload

variable {α β : Type}

/-- Started on the storage `s`, the job comes to the result `r` and leaves the storage `t`. -/
def Ends (j : Job α) (s : Storage) (r : Except Failure α) (t : Storage) : Prop :=
  ∀ b : Bench, b.storage = s → ∃ b', j.run b = (r, b') ∧ b'.storage = t

/-- Something done on the storage changes nothing else of the bench. -/
theorem run_onStorage {a : Action α} {b : Bench} {r : Except Failure α} {t : Storage}
    (h : a.run b.storage = (r, t)) : (Job.onStorage a).run b = (r, { b with storage := t }) := by
  show ((a.run b.storage).1, { b with storage := (a.run b.storage).2 }) = _
  rw [h]

namespace Ends

variable {s t u : Storage}

theorem pure (a : α) (s : Storage) : Ends (Pure.pure a) s (.ok a) s :=
  fun b hb => ⟨b, rfl, hb⟩

theorem throw (f : Failure) (s : Storage) : Ends (MonadExcept.throw f : Job α) s (.error f) s :=
  fun b hb => ⟨b, rfl, hb⟩

theorem ofExcept {x r : Except Failure α} (h : x = r) :
    Ends (MonadExcept.ofExcept x : Job α) s r s := by
  subst h
  cases x with
  | ok a => exact pure a s
  | error f => exact throw f s

theorem progress (percent : Nat) (s : Storage) : Ends (Job.progress percent) s (.ok ()) s :=
  fun _ hb => ⟨_, rfl, hb⟩

theorem say (line : String) (s : Storage) : Ends (Job.say line) s (.ok ()) s :=
  fun _ hb => ⟨_, rfl, hb⟩

theorem enter (stage : Stage) (s : Storage) : Ends (Job.enter stage) s (.ok ()) s :=
  fun _ hb => ⟨_, rfl, hb⟩

theorem onStorage {a : Action α} {r : Except Failure α} (h : a.run s = (r, t)) :
    Ends (Job.onStorage a) s r t := by
  rintro b rfl
  exact ⟨_, run_onStorage h, rfl⟩

theorem getContent {k : Key} {r : Except Failure (Option Content)} (h : s.content k = r) :
    Ends (Job.onStorage (Store.getContent k.name)) s r s :=
  onStorage (h ▸ s.run_getContent k)

theorem getDocument {r : Except Failure (Option MetadataRecord)} (h : s.document = r) :
    Ends (Job.onStorage Store.getDocument) s r s :=
  onStorage (h ▸ s.run_getDocument)

theorem attempt {a : Action α} {r : Except Failure α} (h : a.run s = (r, t)) :
    Ends (Job.attempt a) s (.ok r) t := by
  rintro b rfl
  refine ⟨{ b with storage := t }, ?_, rfl⟩
  show (Except.ok (a.run b.storage).1, { b with storage := (a.run b.storage).2 }) = _
  rw [h]

theorem bind {j : Job α} {k : α → Job β} {a : α} {r : Except Failure β} (h : Ends j s (.ok a) t)
    (hk : Ends (k a) t r u) : Ends (j >>= k) s r u := by
  intro b hb
  obtain ⟨b₁, hj, h₁⟩ := h b hb
  obtain ⟨b₂, hb₂, h₂⟩ := hk b₁ h₁
  exact ⟨b₂, (run_bind_ok hj).trans hb₂, h₂⟩

theorem fail {j : Job α} {k : α → Job β} {f : Failure} (h : Ends j s (.error f) t) :
    Ends (j >>= k) s (.error f) t := by
  intro b hb
  obtain ⟨b₁, hj, h₁⟩ := h b hb
  exact ⟨b₁, run_bind_error hj, h₁⟩

/-- The result of a job, on every bench with this storage. -/
theorem result {j : Job α} {r : Except Failure α} (h : Ends j s r t) {b : Bench}
    (hb : b.storage = s) : (j.run b).1 = r := by
  obtain ⟨b', hrun, _⟩ := h b hb
  rw [hrun]

/-- What is left of a job that came through, behind a step that is known. -/
theorem behind {j : Job α} {k : α → Job β} {r : Except Failure α} (hj : Ends j s r t) {b b' : Bench}
    {x : β} (hb : b.storage = s) (h : (j >>= k).run b = (.ok x, b')) :
    ∃ a c, r = .ok a ∧ c.storage = t ∧ (k a).run c = (.ok x, b') := by
  obtain ⟨a, c, hstep, hrest⟩ := run_bind_eq_ok h
  obtain ⟨c', hrun, hc⟩ := hj b hb
  obtain ⟨rfl, rfl⟩ := Prod.mk.inj (hrun.symm.trans hstep)
  exact ⟨a, c', rfl, hc, hrest⟩

/-- A job comes to one result and leaves one storage. -/
theorem unique {j : Job α} {r r' : Except Failure α} (h : Ends j s r t) (h' : Ends j s r' u) :
    r = r' ∧ t = u := by
  obtain ⟨b₁, hj₁, h₁⟩ := h (.start s) rfl
  obtain ⟨b₂, hj₂, h₂⟩ := h' (.start s) rfl
  obtain ⟨rfl, rfl⟩ := Prod.mk.inj (hj₁.symm.trans hj₂)
  exact ⟨rfl, h₁.symm.trans h₂⟩

end Ends

end QmlExport.Run
