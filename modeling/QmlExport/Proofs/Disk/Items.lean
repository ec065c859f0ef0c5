import Mathlib.Data.List.Induction
import QmlExport.Disk

/-!
# What lies on a disk

A disk is seen through `item?`: what lies at each location. Putting, erasing and erasing below a
location change what is seen there and nowhere else. On a real disk everything lies in a directory
(`Tree`), so nothing lies below what is no directory (`Tree.item?_below`).

`enter` follows one segment of a path. Where it leads does not depend on the disk, only whether it
gets there; so **a way that can be followed can be followed wherever its directories are**
(`follow_mono`), and a way without steps up passes through nothing but what lies above its end
(`follow_congr`).
-/

namespace QmlExport.Disk

/-! ## Changes -/

/-- Looking up an entry among those that are kept. -/
theorem lookup_filter {α β : Type} [BEq α] [LawfulBEq α] (keep : α → Bool) (es : List (α × β))
    (a : α) :
    (es.filter fun e => keep e.1).lookup a = if keep a then es.lookup a else none := by
  induction es with
  | nil => simp
  | cons e es ih =>
    obtain ⟨k, b⟩ := e
    by_cases ha : a = k
    · subst ha
      cases hk : keep a with
      | true => simp [hk]
      | false => simp [hk, ih]
    · have hne : (a == k) = false := by simpa using ha
      cases hk : keep k with
      | true => simp [List.lookup_cons, hk, hne, ih]
      | false => simp [List.lookup_cons, hk, hne, ih]

@[simp] theorem item?_nil (d : Disk) : d.item? [] = some .directory := rfl

/-- The top is a directory. -/
theorem ne_nil_of_item? {d : Disk} {l : Location} (h : d.item? l ≠ some .directory) : l ≠ [] := by
  rintro rfl
  exact h rfl

theorem item?_put (d : Disk) {l : Location} (hl : l ≠ []) (i : Item) (m : Location) :
    (d.put l i).item? m = if m = l then some i else d.item? m := by
  unfold item? put
  by_cases hm : m = []
  · rw [if_pos hm, if_pos hm, if_neg fun h : m = l => hl (h ▸ hm)]
  · rw [if_neg hm, if_neg hm, List.lookup_cons]
    by_cases hml : m = l
    · simp [hml]
    · have hne : (m == l) = false := by simpa using hml
      rw [hne, if_neg hml]
      exact (lookup_filter (· != l) d.items m).trans (if_pos (by simpa using hml))

theorem item?_erase (d : Disk) {l : Location} (hl : l ≠ []) (m : Location) :
    (d.erase l).item? m = if m = l then none else d.item? m := by
  unfold item? erase
  by_cases hm : m = []
  · rw [if_pos hm, if_pos hm, if_neg fun h : m = l => hl (h ▸ hm)]
  · rw [if_neg hm, if_neg hm]
    refine (lookup_filter (· != l) d.items m).trans ?_
    by_cases hml : m = l
    · simp [hml]
    · simp [hml]

/-- The top stays, whatever is erased. -/
theorem item?_eraseBelow (d : Disk) (l m : Location) :
    (d.eraseBelow l).item? m = if m ≠ [] ∧ l <+: m then none else d.item? m := by
  unfold item? eraseBelow
  by_cases hm : m = []
  · rw [if_pos hm, if_pos hm, if_neg fun h => h.1 hm]
  · rw [if_neg hm, if_neg hm]
    refine (lookup_filter (fun k => !l.isPrefixOf k) d.items m).trans ?_
    have hbelow : (!l.isPrefixOf m) = true ↔ ¬ l <+: m := by
      rw [Bool.not_eq_true', ← Bool.not_eq_true, List.isPrefixOf_iff_prefix]
    by_cases hp : l <+: m
    · rw [if_neg fun h => hbelow.1 h hp, if_pos ⟨hm, hp⟩]
    · rw [if_pos (hbelow.2 hp), if_neg fun h => hp h.2]

/-! ## Trees -/

/-- Whatever is there lies in a directory. -/
def Tree (d : Disk) : Prop :=
  ∀ l, l ≠ [] → d.item? l ≠ none → d.item? l.dropLast = some .directory

/-- An empty disk is a tree. -/
theorem tree_blank (top : String) (here : Location) : (blank top here).Tree := by
  intro l hl h
  exact absurd (show (blank top here).item? l = none from if_neg hl) h

/-- A table in which whatever is listed lies in a directory. -/
theorem tree_of_items {d : Disk}
    (h : ∀ e ∈ d.items, d.item? e.1.dropLast = some .directory) : d.Tree := by
  intro l hl hsome
  obtain ⟨i, hi⟩ := Option.ne_none_iff_exists'.1 hsome
  unfold item? at hi
  rw [if_neg hl] at hi
  obtain ⟨before, after, hitems, _⟩ := List.lookup_eq_some_iff.1 hi
  exact h (l, i) (by rw [hitems]; exact List.mem_append_right _ List.mem_cons_self)

/-- Nothing lies below what is no directory. -/
theorem Tree.item?_below {d : Disk} (h : d.Tree) {l m : Location}
    (hl : d.item? l ≠ some .directory) (hm : l <+: m) (hne : l ≠ m) : d.item? m = none := by
  obtain ⟨rest, rfl⟩ := hm
  induction rest using List.reverseRecOn with
  | nil => exact absurd (List.append_nil l).symm hne
  | append_singleton rest s ih =>
    apply Classical.byContradiction
    intro hsome
    have hparent := h (l ++ (rest ++ [s])) (by simp) hsome
    rw [← List.append_assoc, List.dropLast_concat] at hparent
    by_cases hrest : rest = []
    · subst hrest
      exact hl (List.append_nil l ▸ hparent)
    · rw [ih (by simpa using hrest)] at hparent
      cases hparent

/-- Above a directory there are directories. -/
theorem Tree.above {d : Disk} (h : d.Tree) {l m : Location} (hl : d.item? l = some .directory)
    (hm : m <+: l) : d.item? m = some .directory := by
  apply Classical.byContradiction
  intro hne
  by_cases heq : m = l
  · exact hne (heq ▸ hl)
  · rw [h.item?_below hne hm heq] at hl
    cases hl

theorem Tree.put {d : Disk} (h : d.Tree) {l : Location} {i : Item} (hl : l ≠ [])
    (hparent : d.item? l.dropLast = some .directory)
    (hkeep : d.item? l = some .directory → i = .directory) : (d.put l i).Tree := by
  intro m hm hsome
  have hdirectory : ∀ k, d.item? k = some .directory → (d.put l i).item? k = some .directory := by
    intro k hk
    rw [item?_put d hl]
    split
    · next heq => rw [hkeep (heq ▸ hk)]
    · exact hk
  rw [item?_put d hl] at hsome
  split at hsome
  · next heq => exact hdirectory _ (heq ▸ hparent)
  · exact hdirectory _ (h m hm hsome)

theorem Tree.erase {d : Disk} (h : d.Tree) {l : Location} (hl : l ≠ [])
    (hfile : d.item? l ≠ some .directory) : (d.erase l).Tree := by
  intro m hm hsome
  rw [item?_erase d hl] at hsome
  split at hsome
  · exact absurd rfl hsome
  · have hparent := h m hm hsome
    rw [item?_erase d hl, if_neg fun heq : m.dropLast = l => hfile (heq ▸ hparent)]
    exact hparent

theorem Tree.eraseBelow {d : Disk} (h : d.Tree) (l : Location) : (d.eraseBelow l).Tree := by
  intro m hm hsome
  rw [item?_eraseBelow] at hsome
  split at hsome
  · exact absurd rfl hsome
  · next hout =>
    rw [item?_eraseBelow, if_neg fun hp => hout ⟨hm, hp.2.trans (List.dropLast_prefix m)⟩]
    exact h m hm hsome

/-! ## Following a way -/

section

variable {d d' : Disk} {k l m : Location} {s : String}

/-- A segment that names something in a directory. -/
structure Plain (s : String) : Prop where
  nonempty : s ≠ ""
  stays : s ≠ "."
  up : s ≠ ".."

/-- From where nothing is there is no way further. -/
theorem enter_of_none (h : d.item? l = none) (s : String) : d.enter l s = .error .missing := by
  unfold enter
  rw [h]

theorem enter_of_file {c : Text.Bytes} (h : d.item? l = some (.file c)) (s : String) :
    d.enter l s = .error .refused := by
  unfold enter
  rw [h]

/-- An empty segment leads nowhere else. -/
theorem enter_empty (h : d.item? l = some .directory) : d.enter l "" = .ok l := by
  unfold enter
  rw [h]
  rfl

theorem enter_plain (h : d.item? l = some .directory) (hs : Plain s) :
    d.enter l s = if isName s then .ok (l ++ [s]) else .error .refused := by
  unfold enter
  rw [h]
  simp [hs.nonempty, hs.stays, hs.up]

/-- Where a step leads depends on nothing but what is there. -/
theorem enter_congr (h : d'.item? l = d.item? l) (s : String) : d'.enter l s = d.enter l s := by
  unfold enter
  rw [h]

/-- The ways in which a directory is entered: a step stays there, goes up, or goes down. -/
theorem enter_cases (h : d.enter l s = .ok m) :
    d.item? l = some .directory ∧
      ((s = "" ∨ s = ".") ∧ m = l ∨ s = ".." ∧ m = l.dropLast ∨ Plain s ∧ m = l ++ [s]) := by
  cases hi : d.item? l with
  | none => cases (enter_of_none hi s).symm.trans h
  | some i =>
    cases i with
    | file c => cases (enter_of_file hi s).symm.trans h
    | directory =>
      refine ⟨rfl, ?_⟩
      unfold enter at h
      rw [hi] at h
      simp only at h
      split at h
      · next hstay => exact .inl ⟨by simpa using hstay, (Except.ok.inj h).symm⟩
      · next hgo =>
        split at h
        · next hup => exact .inr (.inl ⟨hup, (Except.ok.inj h).symm⟩)
        · next hdown =>
          split at h
          · have hplain : Plain s :=
              ⟨fun heq => hgo (by simp [heq]), fun heq => hgo (by simp [heq]), hdown⟩
            exact .inr (.inr ⟨hplain, (Except.ok.inj h).symm⟩)
          · cases h

/-- The last step of a way. -/
theorem follow_concat {segments : List String} :
    (segments ++ [s]).foldlM d.enter l = .ok m ↔
      ∃ k, segments.foldlM d.enter l = .ok k ∧ d.enter k s = .ok m := by
  rw [List.foldlM_append]
  cases segments.foldlM d.enter l with
  | error f => simp [bind, Except.bind]
  | ok k =>
    have hlast : [s].foldlM d.enter k = d.enter k s := by
      rw [List.foldlM_cons]
      exact bind_pure _
    show [s].foldlM d.enter k = .ok m ↔ _
    rw [hlast]
    simp

/-- Only directories are entered, and where this leads is the same on every disk. -/
theorem enter_eq_ok (h : d.enter l s = .ok m) :
    d.item? l = some .directory ∧
      ∀ d' : Disk, d'.item? l = some .directory → d'.enter l s = .ok m := by
  have hl := (enter_cases h).1
  exact ⟨hl, fun d' hd' => (enter_congr (hd'.trans hl.symm) s).trans h⟩

/-- **A way can be followed wherever its directories are.** -/
theorem follow_mono (hd : ∀ k, d.item? k = some .directory → d'.item? k = some .directory)
    {segments : List String} (h : segments.foldlM d.enter l = .ok m) :
    segments.foldlM d'.enter l = .ok m := by
  induction segments generalizing l with
  | nil => exact h
  | cons s segments ih =>
    rw [List.foldlM_cons] at h ⊢
    cases hs : d.enter l s with
    | error f => rw [hs] at h; cases h
    | ok k =>
      rw [hs] at h
      obtain ⟨hl, hagain⟩ := enter_eq_ok hs
      rw [hagain d' (hd l hl)]
      exact ih h

/-- **A way leads to one place**, on whatever disks it can be followed. -/
theorem follow_unique {n : Location} {segments : List String}
    (h : segments.foldlM d.enter l = .ok m) (h' : segments.foldlM d'.enter l = .ok n) : m = n := by
  induction segments generalizing l with
  | nil => exact Except.ok.inj (h.symm.trans h')
  | cons s segments ih =>
    rw [List.foldlM_cons] at h h'
    cases hs : d.enter l s with
    | error f => rw [hs] at h; cases h
    | ok k =>
      cases hs' : d'.enter l s with
      | error f => rw [hs'] at h'; cases h'
      | ok k' =>
        have hsame := (enter_eq_ok hs).2 d' (enter_eq_ok hs').1
        obtain rfl : k = k' := Except.ok.inj (hsame.symm.trans hs')
        rw [hs] at h
        rw [hs'] at h'
        exact ih h h'

/-- Without a step up, entering leads down or nowhere. -/
theorem prefix_enter (hs : s ≠ "..") (h : d.enter l s = .ok m) : l <+: m := by
  rcases (enter_cases h).2 with ⟨_, rfl⟩ | ⟨hup, _⟩ | ⟨_, rfl⟩
  · exact List.prefix_refl m
  · exact absurd hup hs
  · exact List.prefix_append l [s]

theorem prefix_follow {segments : List String} (hs : ".." ∉ segments)
    (h : segments.foldlM d.enter l = .ok m) : l <+: m := by
  induction segments generalizing l with
  | nil => exact Except.ok.inj h ▸ List.prefix_refl l
  | cons s segments ih =>
    rw [List.foldlM_cons] at h
    cases hk : d.enter l s with
    | error f => rw [hk] at h; cases h
    | ok k =>
      rw [hk] at h
      have hdown := prefix_enter (fun heq => hs (heq ▸ List.mem_cons_self)) hk
      exact hdown.trans (ih (fun hmem => hs (List.mem_cons_of_mem _ hmem)) h)

/-- **A way without steps up depends on nothing but what lies above its end.** -/
theorem follow_congr {segments : List String} (hs : ".." ∉ segments)
    (hd : ∀ k, k <+: m → d'.item? k = d.item? k) (h : segments.foldlM d.enter l = .ok m) :
    segments.foldlM d'.enter l = .ok m := by
  induction segments generalizing l with
  | nil => exact h
  | cons s segments ih =>
    have habove := prefix_follow hs h
    rw [List.foldlM_cons] at h ⊢
    cases hk : d.enter l s with
    | error f => rw [hk] at h; cases h
    | ok k =>
      rw [hk] at h
      obtain ⟨hl, hagain⟩ := enter_eq_ok hk
      rw [hagain d' ((hd l habove).trans hl)]
      exact ih (fun hmem => hs (List.mem_cons_of_mem _ hmem)) h

end

end QmlExport.Disk
