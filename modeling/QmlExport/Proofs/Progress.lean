import QmlExport.Progress

/-!
# Percentages never decrease

A meter delivers what never decreases as it was reported (`Meter.delivered_hear`). On a board several
reporters share a dial, and the same is known of each dial, whatever is done with all of them in
between:

    reports   5  20  10  20  150      capped percentages, by whichever reporter of the dial
    mark      5  20  20  20  100      their maximum (`mark_after`)
    stream    5  20      20  100      what the listeners of the dial hear together

An action tells a dial at most one percentage (`told`), and what is heard of it is that percentage, if
it is not below the mark (`heard_cases`). **So the listeners of a dial hear percentages that never
decrease, each report that is not below all earlier ones, and nothing else** (`ascends_after`).
-/

namespace QmlExport

/-! ## Meters -/

/-- The percentages among events. -/
def percentages (events : List Event) : List Nat :=
  events.filterMap fun
    | .progress percent => some percent
    | .log _ => none

namespace Meter

/-- Report something. -/
def hear (m : Meter) : Event → Meter
  | .progress percent => m.progress percent
  | .log line => m.log line

/-- **What never decreases is delivered as it was reported.** -/
theorem delivered_hear {events : List Event} {m : Meter}
    (hsorted : (m.highest :: percentages events).Pairwise (· ≤ ·))
    (hbound : ∀ p ∈ percentages events, p ≤ 100) :
    (events.foldl hear m).delivered = events.reverse ++ m.delivered ∧
      (events.foldl hear m).highest = (percentages events).getLastD m.highest := by
  induction events generalizing m with
  | nil => exact ⟨rfl, rfl⟩
  | cons e events ih =>
    cases e with
    | log line =>
      obtain ⟨hdelivered, hhighest⟩ := ih (m := m.log line) hsorted hbound
      refine ⟨?_, hhighest⟩
      show (events.foldl hear (m.log line)).delivered = _
      rw [hdelivered]
      simp [log]
    | progress p =>
      have hp : p ≤ 100 := hbound p List.mem_cons_self
      have hm : m.highest ≤ p := List.rel_of_pairwise_cons hsorted List.mem_cons_self
      have hheard : m.progress p = ⟨p, .progress p :: m.delivered⟩ := by
        unfold progress
        simp only [Nat.min_eq_left hp, Nat.not_lt.2 hm, if_false]
      obtain ⟨hdelivered, hhighest⟩ := ih (m := m.progress p) (hheard ▸ hsorted.of_cons)
        fun q hq => hbound q (List.mem_cons_of_mem _ hq)
      rw [hheard] at hdelivered hhighest
      constructor
      · show (events.foldl hear (m.progress p)).delivered = _
        rw [hheard, hdelivered]
        simp
      · show (events.foldl hear (m.progress p)).highest = (p :: percentages events).getLastD _
        rw [hheard, hhighest, List.getLastD_cons]

/-- A fresh meter delivers all that never decreases, and remembers the last of it. -/
theorem events_hear {events : List Event} (hsorted : (percentages events).Pairwise (· ≤ ·))
    (hbound : ∀ p ∈ percentages events, p ≤ 100) :
    (events.foldl hear fresh).events = events ∧
      (events.foldl hear fresh).highest = (percentages events).getLastD 0 := by
  obtain ⟨hdelivered, hhighest⟩ := delivered_hear (m := fresh)
    (List.pairwise_cons.2 ⟨fun _ _ => Nat.zero_le _, hsorted⟩) hbound
  refine ⟨?_, hhighest⟩
  rw [Meter.events, hdelivered]
  simp [fresh]

end Meter

/-! ## Boards -/

namespace Board

variable {b : Board} {dial on percent : Nat} {a : Action} {h : List (Nat × Action)}

/-- The board after actions. -/
def after (b : Board) (h : List (Nat × Action)) : Board := h.foldl (fun b x => (b.step x.1 x.2).1) b

/-- Whether a reporter is there and on the dial. -/
def isOn (b : Board) (dial on : Nat) : Bool := (b.reporters[on]?).any (·.dial == dial)

/-- The capped percentage that an action tells a dial, if it tells it one. -/
def told (b : Board) (dial on : Nat) : Action → List Nat
  | .progress percent => if b.isOn dial on then [min percent 100] else []
  | _ => []

/-- The percentages that the listeners of a dial hear in an action. -/
def heard (b : Board) (dial on : Nat) (a : Action) : List Nat :=
  if b.isOn dial on then percentages (b.step on a).2 else []

/-- The capped percentages that a dial is told in the course of actions. -/
def reports (dial : Nat) : Board → List (Nat × Action) → List Nat
  | _, [] => []
  | b, (on, a) :: h => b.told dial on a ++ reports dial (b.step on a).1 h

/-- What all listeners of a dial hear in the course of actions. -/
def stream (dial : Nat) : Board → List (Nat × Action) → List Nat
  | _, [] => []
  | b, (on, a) :: h => b.heard dial on a ++ stream dial (b.step on a).1 h

/-- Every reporter has its dial. -/
def Wired (b : Board) : Prop := ∀ r ∈ b.reporters, r.dial < b.marks.length

theorem wired_start (listening : Bool) : (start listening).Wired := by
  intro r hr
  obtain rfl := List.mem_singleton.1 hr
  exact Nat.one_pos

/-! ### Steps -/

/-- What an action of a reporter does to the board. -/
theorem step_of_reporter {r : Reporter} (hr : b.reporters[on]? = some r) (a : Action) :
    b.step on a =
      match a with
      | .progress percent =>
        ({ b with marks := b.marks.set r.dial (max (b.mark r.dial) (min percent 100)) },
          if r.heard ∧ b.mark r.dial ≤ min percent 100 then [.progress (min percent 100)] else [])
      | .log line => (b, if r.followed then [.log line] else [])
      | .clone => ({ b with reporters := b.reporters ++ [r] }, [])
      | .listen => ({ b with reporters := b.reporters.set on { r with heard := true } }, [])
      | .follow => ({ b with reporters := b.reporters.set on { r with followed := true } }, [])
      | .renew => (⟨b.marks ++ [0], b.reporters ++ [⟨b.marks.length, true, true⟩]⟩, []) := by
  unfold step
  rw [hr]
  cases a with
  | progress percent =>
    by_cases hlow : min percent 100 < b.mark r.dial
    · have hnot : ¬ b.mark r.dial ≤ min percent 100 := Nat.not_le.2 hlow
      simp [Meter.progress, hlow, hnot, Nat.max_eq_left (Nat.le_of_lt hlow), Meter.events]
    · have hle : b.mark r.dial ≤ min percent 100 := Nat.not_lt.1 hlow
      simp [Meter.progress, hlow, hle, Meter.events]
  | _ => rfl

/-- Nothing is done by a reporter that is not there. -/
theorem step_of_none (hr : b.reporters[on]? = none) (a : Action) : b.step on a = (b, []) := by
  unfold step
  rw [hr]

theorem isOn_iff : b.isOn dial on ↔ ∃ r, b.reporters[on]? = some r ∧ r.dial = dial := by
  unfold isOn
  cases b.reporters[on]? <;> simp

/-- A dial that is set shows what it was set to, and the others what they showed. -/
theorem mark_set {r : Reporter} (hr : r.dial < b.marks.length) (value : Nat) :
    ({ b with marks := b.marks.set r.dial value } : Board).mark dial =
      if r.dial = dial then value else b.mark dial := by
  unfold mark
  rw [List.getElem?_set, if_pos hr]
  split <;> rfl

/-- A new dial shows nothing, as one that is not there. -/
theorem mark_append_zero (marks : List Nat) (reporters reporters' : List Reporter) :
    (⟨marks ++ [0], reporters⟩ : Board).mark dial = (⟨marks, reporters'⟩ : Board).mark dial := by
  unfold mark
  rw [List.getElem?_append]
  split
  · rfl
  · next hlast =>
    rw [List.getElem?_eq_none (Nat.not_lt.1 hlast), List.getElem?_singleton]
    split <;> rfl

theorem wired_step (hb : b.Wired) (on : Nat) (a : Action) : (b.step on a).1.Wired := by
  cases hr : b.reporters[on]? with
  | none => rwa [step_of_none hr]
  | some r =>
    have hdial : r.dial < b.marks.length := hb r (List.mem_of_getElem? hr)
    rw [step_of_reporter hr]
    cases a with
    | progress percent =>
      intro s hs
      rw [List.length_set]
      exact hb s hs
    | log line => exact hb
    | clone =>
      intro s hs
      rcases List.mem_append.1 hs with hs | hs
      · exact hb s hs
      · exact List.mem_singleton.1 hs ▸ hdial
    | listen | follow =>
      intro s hs
      rcases List.mem_or_eq_of_mem_set hs with hs | rfl
      · exact hb s hs
      · exact hdial
    | renew =>
      intro s hs
      rw [List.length_append, List.length_singleton]
      rcases List.mem_append.1 hs with hs | hs
      · exact Nat.lt_succ_of_lt (hb s hs)
      · exact List.mem_singleton.1 hs ▸ Nat.lt_succ_self _

/-- **An action moves a dial to the greater of its mark and what it is told.** -/
theorem mark_step (hb : b.Wired) (dial on : Nat) (a : Action) :
    (b.step on a).1.mark dial = (b.told dial on a).foldl max (b.mark dial) := by
  cases hr : b.reporters[on]? with
  | none =>
    have hnot : b.isOn dial on = false := by simp [isOn, hr]
    rw [step_of_none hr]
    cases a <;> simp [told, hnot]
  | some r =>
    rw [step_of_reporter hr]
    cases a with
    | progress percent =>
      have hon : b.isOn dial on = (r.dial == dial) := by simp [isOn, hr]
      dsimp only
      rw [mark_set (hb r (List.mem_of_getElem? hr)), told, hon]
      by_cases heq : r.dial = dial
      · simp [heq]
      · simp [heq]
    | renew => exact mark_append_zero ..
    | _ => rfl

/-- **What is heard of a dial is what it is told, if that is not below its mark.** -/
theorem heard_cases (b : Board) (dial on : Nat) (a : Action) :
    b.heard dial on a = [] ∨
      ∃ p, b.heard dial on a = [p] ∧ b.told dial on a = [p] ∧ b.mark dial ≤ p := by
  unfold heard
  cases hon : b.isOn dial on with
  | false => exact .inl rfl
  | true =>
    obtain ⟨r, hr, rfl⟩ := isOn_iff.1 hon
    rw [if_pos rfl, step_of_reporter hr]
    cases a with
    | progress percent =>
      dsimp only
      split
      · next hheard => exact .inr ⟨min percent 100, rfl, by rw [told, if_pos hon], hheard.2⟩
      · exact .inl rfl
    | log line =>
      dsimp only
      split <;> exact .inl rfl
    | _ => exact .inl rfl

theorem le_of_mem_told {p : Nat} (hp : p ∈ b.told dial on a) : p ≤ 100 := by
  cases a with
  | progress percent =>
    rw [told] at hp
    split at hp
    · exact List.mem_singleton.1 hp ▸ Nat.min_le_right ..
    · exact absurd hp List.not_mem_nil
  | _ => cases hp

/-! ### Runs -/

theorem wired_after (hb : b.Wired) (h : List (Nat × Action)) : (b.after h).Wired := by
  induction h generalizing b with
  | nil => exact hb
  | cons x h ih => exact ih (wired_step hb x.1 x.2)

/-- **A dial shows the maximum of what it was told.** -/
theorem mark_after (hb : b.Wired) (dial : Nat) (h : List (Nat × Action)) :
    (b.after h).mark dial = (reports dial b h).foldl max (b.mark dial) := by
  induction h generalizing b with
  | nil => rfl
  | cons x h ih =>
    obtain ⟨on, a⟩ := x
    rw [reports, List.foldl_append, ← mark_step hb]
    exact ih (wired_step hb on a)

theorem le_foldl_max {m p : Nat} {l : List Nat} : l.foldl max m ≤ p ↔ m ≤ p ∧ ∀ q ∈ l, q ≤ p := by
  induction l generalizing m with
  | nil => simp
  | cons q l ih => rw [List.foldl_cons, ih, Nat.max_le, List.forall_mem_cons, and_assoc]

/-- **What is heard of a dial never decreases**, and starts at its mark. -/
theorem sorted_stream (hb : b.Wired) (dial : Nat) (h : List (Nat × Action)) :
    (b.mark dial :: stream dial b h).Pairwise (· ≤ ·) := by
  induction h generalizing b with
  | nil => exact List.pairwise_singleton _ _
  | cons x h ih =>
    obtain ⟨on, a⟩ := x
    have hnext := ih (wired_step hb on a)
    rw [mark_step hb] at hnext
    rw [stream]
    rcases heard_cases b dial on a with hnone | ⟨p, hheard, htold, hp⟩
    · -- nothing is heard, and the mark is not lower than before
      rw [hnone, List.nil_append]
      obtain ⟨hmark, hrest⟩ := List.pairwise_cons.1 hnext
      refine List.pairwise_cons.2 ⟨fun q hq => ?_, hrest⟩
      exact (le_foldl_max.1 (hmark q hq)).1
    · rw [htold, List.foldl_cons, List.foldl_nil, Nat.max_eq_right hp] at hnext
      rw [hheard, List.singleton_append]
      refine List.pairwise_cons.2 ⟨fun q hq => ?_, hnext⟩
      rcases List.mem_cons.1 hq with rfl | hq
      · exact hp
      · exact Nat.le_trans hp (List.rel_of_pairwise_cons hnext hq)

/-- What is heard of a dial is some of what it was told. -/
theorem stream_sublist_reports (dial : Nat) (b : Board) (h : List (Nat × Action)) :
    (stream dial b h).Sublist (reports dial b h) := by
  induction h generalizing b with
  | nil => exact List.Sublist.refl _
  | cons x h ih =>
    obtain ⟨on, a⟩ := x
    refine List.Sublist.append ?_ (ih _)
    rcases heard_cases b dial on a with hnone | ⟨p, hheard, htold, _⟩
    · rw [hnone]
      exact List.nil_sublist _
    · exact (hheard.trans htold.symm) ▸ List.Sublist.refl _

theorem le_of_mem_reports {p : Nat} (hp : p ∈ reports dial b h) : p ≤ 100 := by
  induction h generalizing b with
  | nil => cases hp
  | cons x h ih =>
    rcases List.mem_append.1 hp with hp | hp
    · exact le_of_mem_told hp
    · exact ih hp

/-! ### Log lines -/

/-- Whether an action reports a log line. -/
def Action.isLog : Action → Bool
  | .log _ => true
  | _ => false

/-- A log line changes nothing on the board. -/
theorem step_log (b : Board) (on : Nat) (line : LogLine) : (b.step on (.log line)).1 = b := by
  unfold step
  cases b.reporters[on]? <;> rfl

theorem heard_log (b : Board) (dial on : Nat) (line : LogLine) :
    b.heard dial on (.log line) = [] := by
  rcases heard_cases b dial on (.log line) with hnone | ⟨p, _, htold, _⟩
  · exact hnone
  · cases htold

/-- **Without its log lines a history leads to the same board**, and every dial is told and heard the
same. -/
theorem without_logs (dial : Nat) (b : Board) (h : List (Nat × Action)) :
    b.after (h.filter fun x => !x.2.isLog) = b.after h ∧
      reports dial b (h.filter fun x => !x.2.isLog) = reports dial b h ∧
      stream dial b (h.filter fun x => !x.2.isLog) = stream dial b h := by
  induction h generalizing b with
  | nil => exact ⟨rfl, rfl, rfl⟩
  | cons x h ih =>
    obtain ⟨on, a⟩ := x
    obtain ⟨hboard, hreports, hstream⟩ := ih (b.step on a).1
    cases a with
    | log line =>
      rw [List.filter_cons_of_neg (by simp [Action.isLog]), reports, stream, heard_log]
      rw [step_log] at hboard hreports hstream ⊢
      refine ⟨hboard.trans ?_, hreports, hstream⟩
      show _ = (b.step on (.log line)).1.after h
      rw [step_log]
    | _ =>
      rw [List.filter_cons_of_pos (by simp [Action.isLog]), reports, reports, stream, stream,
        hreports, hstream]
      exact ⟨hboard, rfl, rfl⟩

/-! ### Families -/

/-- A reporter stays on its dial. -/
theorem dial_step {i : Nat} {r : Reporter} (hr : b.reporters[i]? = some r) (on : Nat) (a : Action) :
    ∃ s, (b.step on a).1.reporters[i]? = some s ∧ s.dial = r.dial := by
  obtain ⟨hi, _⟩ := List.getElem?_eq_some_iff.1 hr
  cases ho : b.reporters[on]? with
  | none => exact ⟨r, by rwa [step_of_none ho], rfl⟩
  | some o =>
    rw [step_of_reporter ho]
    cases a with
    | progress percent | log line => exact ⟨r, hr, rfl⟩
    | clone | renew => exact ⟨r, (List.getElem?_append_left hi).trans hr, rfl⟩
    | listen | follow =>
      dsimp only
      rw [List.getElem?_set]
      split
      · next heq =>
        subst heq
        obtain rfl := Option.some.inj (ho.symm.trans hr)
        exact ⟨_, if_pos hi, rfl⟩
      · exact ⟨r, hr, rfl⟩

theorem dial_after {i : Nat} {r : Reporter} (hr : b.reporters[i]? = some r)
    (h : List (Nat × Action)) : ∃ s, (b.after h).reporters[i]? = some s ∧ s.dial = r.dial := by
  induction h generalizing b r with
  | nil => exact ⟨r, hr, rfl⟩
  | cons x h ih =>
    obtain ⟨s, hs, hdial⟩ := dial_step hr x.1 x.2
    obtain ⟨t, ht, hdial'⟩ := ih hs
    exact ⟨t, ht, hdial'.trans hdial⟩

/-! ### Everything about a board -/

/-- What is known of a new board after some actions, and of what is heard in their course. The
reporters of one dial are those taken from one another. -/
structure Ascends (listening : Bool) (h : List (Nat × Action)) : Prop where
  /-- A clone is on the dial of the reporter it is taken from, with the same listeners. -/
  clones : ∀ on r, ((start listening).after h).reporters[on]? = some r →
    (((start listening).after h).step on .clone).1.reporters =
      ((start listening).after h).reporters ++ [r]
  /-- A new reporter is on a dial where no other one is. -/
  renews : ∀ on r, ((start listening).after h).reporters[on]? = some r →
    ∃ new, (((start listening).after h).step on .renew).1.reporters =
      ((start listening).after h).reporters ++ [new] ∧
      ∀ s ∈ ((start listening).after h).reporters, s.dial ≠ new.dial
  /-- Every reporter stays on its dial. -/
  stays : ∀ (on : Nat) (r : Reporter) (further : List (Nat × Action)),
    ((start listening).after h).reporters[on]? = some r →
      ∃ s, ((start listening).after (h ++ further)).reporters[on]? = some s ∧ s.dial = r.dial
  /-- What all listeners of a dial hear never decreases. -/
  sorted : ∀ dial, (stream dial (start listening) h).Pairwise (· ≤ ·)
  capped : ∀ dial, ∀ p ∈ stream dial (start listening) h, p ≤ 100
  /-- Whoever listens to a reporter hears a percentage exactly if, capped at 100, it is not below the
  maximum of what was reported on the dial before. -/
  delivered : ∀ on r percent, ((start listening).after h).reporters[on]? = some r →
    (((start listening).after h).step on (.progress percent)).2 =
      if r.heard ∧ (reports r.dial (start listening) h).foldl max 0 ≤ min percent 100
      then [.progress (min percent 100)] else []
  /-- Every reporter has seen the maximum of what was reported on its dial. -/
  last : ∀ on r, ((start listening).after h).reporters[on]? = some r →
    ((start listening).after h).last on = (reports r.dial (start listening) h).foldl max 0
  /-- Log lines do not matter for any of this. -/
  logs : (start listening).after (h.filter fun x => !x.2.isLog) = (start listening).after h ∧
    ∀ dial, reports dial (start listening) (h.filter fun x => !x.2.isLog) =
      reports dial (start listening) h ∧
      stream dial (start listening) (h.filter fun x => !x.2.isLog) =
        stream dial (start listening) h

/-- Nothing was reported on a new board. -/
theorem mark_start (listening : Bool) (dial : Nat) : (start listening).mark dial = 0 := by
  unfold mark start
  rw [List.getElem?_singleton]
  split <;> rfl

/-- **Percentages never decrease on a board**, whatever is done with its reporters. -/
theorem ascends_after (listening : Bool) (h : List (Nat × Action)) : Ascends listening h := by
  have hwired := wired_start listening
  have hmark : ∀ dial, ((start listening).after h).mark dial =
      (reports dial (start listening) h).foldl max 0 := by
    intro dial
    rw [mark_after hwired, mark_start]
  exact {
    clones := by
      intro on r hr
      rw [step_of_reporter hr]
    renews := by
      intro on r hr
      refine ⟨⟨((start listening).after h).marks.length, true, true⟩, ?_, fun s hs => ?_⟩
      · rw [step_of_reporter hr]
      · exact Nat.ne_of_lt (wired_after hwired h s hs)
    stays := by
      intro on r further hr
      rw [after, List.foldl_append]
      exact dial_after hr further
    sorted := fun dial => (sorted_stream hwired dial h).of_cons
    capped := fun dial p hp => le_of_mem_reports ((stream_sublist_reports dial _ h).subset hp)
    delivered := by
      intro on r percent hr
      rw [step_of_reporter hr]
      dsimp only
      rw [hmark]
    last := by
      intro on r hr
      unfold last
      rw [hr]
      exact hmark r.dial
    logs := ⟨(without_logs 0 _ h).1, fun dial => (without_logs dial _ h).2⟩ }

/-- A clone hears what its original reports, and none of the two hears what is below. -/
example : stream 0 (start true) [(0, .progress 5), (0, .clone), (1, .progress 20), (0, .progress 10),
    (1, .log ⟨.reset, "again"⟩), (0, .progress 20), (1, .progress 150)] = [5, 20, 20, 100] := by
  decide

end Board

end QmlExport
