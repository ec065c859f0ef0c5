import QmlExport.Proofs.Disk.Making

/-!
# How far down directories are made

A way without steps up leads as far down as it has segments that go down (`length_follow`). So the
directories that are made on the way to a path lie above where it leads, and **nothing is made
below** (`item?_made`).
-/

namespace QmlExport.Disk

section

variable {d d' : Disk} {l m : Location} {p : Path} {s : String}

/-- How many segments of a way go down. -/
def downs (segments : List String) : Nat := segments.countP fun s => !(s = "" || s = ".")

theorem downs_cons (s : String) (segments : List String) :
    downs (s :: segments) = downs segments + if s = "" || s = "." then 0 else 1 := by
  rw [downs, List.countP_cons]
  cases (s = "" || s = "." : Bool) <;> rfl

theorem length_enter (hs : s ≠ "..") (h : d.enter l s = .ok m) :
    m.length = l.length + if s = "" || s = "." then 0 else 1 := by
  rcases (enter_cases h).2 with ⟨hstay, rfl⟩ | ⟨hup, _⟩ | ⟨hplain, rfl⟩
  · rw [if_pos (by simpa using hstay), Nat.add_zero]
  · exact absurd hup hs
  · rw [if_neg (by simp [hplain.nonempty, hplain.stays]), List.length_append,
      List.length_singleton]

/-- A way without steps up leads as far down as it has segments that go down. -/
theorem length_follow {segments : List String} (hup : ".." ∉ segments)
    (h : segments.foldlM d.enter l = .ok m) : m.length = l.length + downs segments := by
  induction segments generalizing l with
  | nil => rw [← Except.ok.inj h]; rfl
  | cons s segments ih =>
    rw [List.foldlM_cons] at h
    cases hk : d.enter l s with
    | error f => rw [hk] at h; cases h
    | ok k =>
      rw [hk] at h
      have hfirst := length_enter (fun heq => hup (heq ▸ List.mem_cons_self)) hk
      have hrest := ih (fun hmem => hup (List.mem_cons_of_mem _ hmem)) h
      rw [downs_cons]
      omega

theorem suffix_remainders (ss : List String) :
    ∃ rest, rest <:+ ss ∧ (Path.remainders ss).tail = Path.remainders rest := by
  induction ss with
  | nil => exact ⟨[], List.suffix_refl _, rfl⟩
  | cons s ss ih =>
    rw [Path.remainders]
    split
    · obtain ⟨rest, hsuffix, htail⟩ := ih
      exact ⟨rest, hsuffix.trans (List.suffix_cons s ss), htail⟩
    · exact ⟨ss, List.suffix_cons s ss, rfl⟩

/-- Nothing is made further down than a way without steps up leads. -/
theorem makeFirst_remainders (start : Location) (ss : List String) (hup : ".." ∉ ss) (d : Disk) :
    (∀ k, (d.makeFirst start (Path.remainders ss)).1 = .ok k →
      k.length ≤ start.length + downs ss) ∧
    ∀ m, start.length + downs ss < m.length →
      (d.makeFirst start (Path.remainders ss)).2.item? m = d.item? m := by
  induction ss with
  | nil => exact ⟨fun k hk => Except.ok.inj hk ▸ Nat.le_add_right _ _, fun _ _ => rfl⟩
  | cons s ss ih =>
    have hs : s ≠ ".." := fun heq => hup (heq ▸ List.mem_cons_self)
    obtain ⟨hplace, hsame⟩ := ih fun hmem => hup (List.mem_cons_of_mem _ hmem)
    have hdowns := downs_cons s ss
    rw [Path.remainders]
    split
    · exact ⟨fun k hk => Nat.le_trans (hplace k hk) (by omega), fun m hm => hsame m (by omega)⟩
    · rcases makeFirst_cases d start (s :: ss) (Path.remainders ss) with
        ⟨l, hf, hmake⟩ | ⟨f, hfail⟩ | ⟨f, hfail⟩ | ⟨j, l, hj, he, hmake⟩
      · have hlength := length_follow (fun hmem => hup (List.mem_reverse.1 hmem)) hf
        have hreverse : downs (s :: ss).reverse = downs (s :: ss) := List.countP_reverse
        rw [hmake]
        refine ⟨fun k hk => makeAt_eq_ok hk ▸ by omega, fun m hm => item?_makeAt ?_⟩
        rintro rfl
        omega
      · rw [hfail]
        exact ⟨fun k hk => (by cases hk), fun _ _ => rfl⟩
      · rw [hfail]
        exact ⟨fun k hk => (by cases hk), fun m hm => hsame m (by omega)⟩
      · have hlength := length_enter hs he
        have hnext := hplace j hj
        rw [hmake]
        refine ⟨fun k hk => makeAt_eq_ok hk ▸ by omega, fun m hm => ?_⟩
        rw [← hsame m (by omega)]
        refine item?_makeAt ?_
        rintro rfl
        omega

/-- **Nothing is made below the directory that a path without steps up leads to.** -/
theorem item?_made (hb : d.Based) (htree : d.Tree) (hup : ".." ∉ p.segments)
    (h : d.makeDirectories p = (.ok (), d')) (hl : d'.resolve p = .ok l)
    (hm : l.length < m.length) : d'.item? m = d.item? m := by
  have hbranches := branches_makeDirectories htree p
  rw [h] at hbranches
  obtain ⟨hpath, hne, start, segments, hs, hfollow⟩ := resolve_eq_ok hl
  rw [steps?_congr hbranches.top hbranches.here] at hs
  have hways : ".." ∉ segments := fun hmem => hup (mem_segments_of_steps? hs hmem (by decide))
  have hlength := length_follow hways hfollow
  have hlast : ∀ {e : Disk}, e.Based → e.Tree → e.ensureDirectory p = (.ok (), d') →
      d'.item? m = e.item? m := by
    intro e hb htree hensure
    obtain ⟨k, hk, _, hsame⟩ := ensured_eq_ok hb htree hpath hensure
    obtain rfl : k = l := Except.ok.inj (hk.symm.trans hl)
    refine hsame m ?_
    rintro rfl
    omega
  unfold makeDirectories at h
  split at h
  · next hempty => exact absurd (by simpa using hempty) hne
  · split at h
    · next _ _ hs' =>
      obtain ⟨rfl, rfl⟩ := Prod.mk.inj (Option.some.inj (hs.symm.trans hs'))
      obtain ⟨rest, hsuffix, hrest⟩ := suffix_remainders segments.reverse
      have habove : Path.above segments = Path.remainders rest := hrest
      have hdowns : downs rest ≤ downs segments :=
        Nat.le_trans hsuffix.sublist.countP_le (Nat.le_of_eq List.countP_reverse)
      obtain ⟨_, hsame⟩ := makeFirst_remainders start rest
        (fun hmem => hways (List.mem_reverse.1 (hsuffix.subset hmem))) d
      have hgrows := branches_makeFirst start _ (ne_nil_of_mem_remainders rest) htree
      rw [habove] at h
      split at h
      · next d₁ hfirst =>
        rw [hfirst] at hsame hgrows
        exact (hlast (hgrows.based hb) hgrows.tree h).trans (hsame m (by omega))
      · cases h
    · exact hlast hb htree h

end

end QmlExport.Disk
