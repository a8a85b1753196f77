import ManagerSignup.Proofs.Deadlines

/-!
# Time and the History

What is written down comes in the order of time, and timers ring in their turn.

A law about timers connects two things, when a timer is due and what was written down.
Such a law does not survive every event, since some events are what it speaks of, and so
it takes more care than a property of the fields. What can be said for all such laws is
said here.

Most of what a tracker does is of no concern to any timer. Judging a field writes down
what came of it and nothing else, which `Quiet` says, and what is quiet keeps a law for
the reason that it writes down none of the events the law is about. What is left are an
edit with all that hears of it, a judgement at once, and a timer that rings.

For the last of these it matters which timer it is. All that are due by some time ring
when that time is reached, and they are taken together as they stand at the beginning.
Yet each of them rings as the first of all that are left. Nothing that happens meanwhile
starts a timer, so whoever was next is next when its turn has come. So a law only has to
survive the ring of the first timer, and time in which none rings.

## Main definitions

* `Event.movesTimer`: An event that may go with starting or stopping a timer.
* `timesOf`: The times of all events of a kind.
* `Tracker.WroteAside`: No such event was written down.
* `Tracker.Quiet`: Nor was a timer touched.
* `Tracker.InOrder`: The history is in the order of time, and no timer is late.
* `Tracker.rung`: What a ring leaves, before anything comes of it.
* `Tracker.Immediate`: A property that survives an edit, whatever comes of it.
* `Tracker.Lasting`: A property that survives the passing of time.

## Theorems

* `Agenda.due?_eq_some_iff`: A timer is due when its shot is.
* `Agenda.dueBy_prefix`: What rings by some time is what comes first.
* `Tracker.quiet_validate`, `Tracker.quiet_fire`: Judging is quiet, and so is what comes of
  a ring.
* `Tracker.InOrder.concat`, `Tracker.InOrder.quiet`: One more event, and several.
* `Tracker.Immediate.recheckAll`, `Tracker.Immediate.act`: What happens at once.
* `Tracker.Lasting.foldl_fire`, `Tracker.Lasting.advance`: Timers that ring in turn.
-/

namespace ManagerSignup

/-! ### Agendas -/

namespace Agenda

variable {τ : Type}

/-- What rings by some time is what comes first. -/
theorem dueBy_prefix (a : Agenda τ) (limit : Nat) : a.dueBy limit <+: a.shots := by
  have horder := a.inOrder
  rw [dueBy]
  generalize a.shots = shots at horder
  induction shots with
  | nil => exact List.prefix_rfl
  | cons s later ih =>
      rw [List.pairwise_cons] at horder
      by_cases hdue : s.due ≤ limit
      · simp only [List.filter_cons, hdue, decide_true, if_true, List.cons_prefix_cons, true_and]
        exact ih horder.2
      · -- Nothing that comes later is due before.
        have hnone : (s :: later).filter (fun s => s.due ≤ limit) = [] := by
          rw [List.filter_eq_nil_iff]
          intro x hx
          rw [decide_eq_true_eq]
          rcases List.mem_cons.mp hx with rfl | hlater
          · exact hdue
          · have hle := horder.1 x hlater
            omega
        rw [hnone]
        exact List.nil_prefix

variable [DecidableEq τ]

/-- A timer is due when its shot is. -/
theorem due?_eq_some_iff (a : Agenda τ) (timer : τ) (due : Nat) :
    a.due? timer = some due ↔ ⟨timer, due⟩ ∈ a.shots := by
  rw [due?, Option.map_eq_some_iff]
  constructor
  · rintro ⟨s, hfound, rfl⟩
    have htimer := List.find?_some hfound
    rw [decide_eq_true_eq] at htimer
    rw [← htimer]
    exact List.mem_of_find?_eq_some hfound
  · intro hmem
    cases hfound : a.shots.find? fun s => s.timer = timer with
    | none => exact absurd (decide_eq_true rfl) (List.find?_eq_none.mp hfound _ hmem)
    | some s =>
        have htimer := List.find?_some hfound
        rw [decide_eq_true_eq] at htimer
        have hsame := List.inj_on_of_nodup_map a.once (List.mem_of_find?_eq_some hfound) hmem htimer
        exact ⟨s, rfl, congrArg Shot.due hsame⟩

/-- When the first timer is stopped, the others are left. -/
theorem shots_stop_of_cons (a : Agenda τ) {s : Shot τ} {later : List (Shot τ)}
    (h : a.shots = s :: later) : (a.stop s.timer).shots = later := by
  have honce := a.once
  rw [h, List.map_cons, List.nodup_cons] at honce
  change a.shots.filter (fun x => x.timer ≠ s.timer) = later
  rw [h]
  simp only [List.filter_cons, ne_eq, not_true_eq_false, decide_false, Bool.false_eq_true,
    if_false]
  rw [List.filter_eq_self]
  intro x hx
  rw [decide_eq_true_eq]
  intro htimer
  exact honce.1 (htimer ▸ List.mem_map_of_mem hx)

end Agenda

/-! ### Events -/

section Events

variable {κ ω : Type}

/-- An event that may go with starting or stopping a timer. -/
def Event.movesTimer : Event κ ω → Bool
  | .changed .. => true
  | .registered _ => true
  | .rechecked _ => true
  | .rang _ => true
  | .accepted _ => true
  | _ => false

/-- The times of all events of a kind, in order. -/
def timesOf (kind : Event κ ω → Bool) (past : History κ ω) : List Nat :=
  (past.filter fun s => kind s.event).map Stamped.time

theorem timesOf_append (kind : Event κ ω → Bool) (past later : History κ ω) :
    timesOf kind (past ++ later) = timesOf kind past ++ timesOf kind later := by
  rw [timesOf, List.filter_append, List.map_append, timesOf, timesOf]

theorem timesOf_append_singleton (kind : Event κ ω → Bool) (past : History κ ω)
    (s : Stamped κ ω) :
    timesOf kind (past ++ [s]) = timesOf kind past ++ if kind s.event then [s.time] else [] := by
  rw [timesOf_append]
  congr 1
  by_cases h : kind s.event
  · simp only [timesOf, List.filter_cons, h, if_true, List.filter_nil, List.map_cons, List.map_nil]
  · simp only [timesOf, List.filter_cons, h, Bool.false_eq_true, if_false, List.filter_nil,
      List.map_nil]

theorem mem_timesOf {kind : Event κ ω → Bool} {past : History κ ω} {time : Nat} :
    time ∈ timesOf kind past ↔ ∃ s ∈ past, kind s.event ∧ s.time = time := by
  simp only [timesOf, List.mem_map, List.mem_filter, and_assoc]

theorem timesOf_eq_nil {kind : Event κ ω → Bool} {past : History κ ω}
    (h : ∀ s ∈ past, kind s.event = false) : timesOf kind past = [] := by
  rw [timesOf, List.map_eq_nil_iff, List.filter_eq_nil_iff]
  intro s hs
  rw [h s hs]
  exact Bool.false_ne_true

end Events

namespace Tracker

variable {κ ω : Type}

/-! ### What concerns no timer -/

/-- The events were written down, one after the other and at once, and none of them goes
    with starting or stopping a timer. -/
def WroteAside (t t' : Tracker κ ω) : Prop :=
  ∃ es : List (Event κ ω), (∀ e ∈ es, e.movesTimer = false) ∧
    t'.history = t.history ++ es.map fun e => ⟨t.clock, e⟩

/-- No timer was touched, and no event was written down that would go with it. -/
structure Quiet (t t' : Tracker κ ω) : Prop where
  wiring : t'.wiring = t.wiring
  agenda : t'.agenda = t.agenda
  clock : t'.clock = t.clock
  delay : t'.delay = t.delay
  history : WroteAside t t'

theorem WroteAside.refl (t : Tracker κ ω) : WroteAside t t :=
  ⟨[], List.forall_mem_nil _, (List.append_nil _).symm⟩

theorem wroteAside_recordAll (t : Tracker κ ω) (es : List (Event κ ω))
    (h : ∀ e ∈ es, e.movesTimer = false) : WroteAside t (t.recordAll es) :=
  ⟨es, h, rfl⟩

theorem WroteAside.trans {t t' t'' : Tracker κ ω} (h : WroteAside t t') (h' : WroteAside t' t'')
    (hclock : t'.clock = t.clock) : WroteAside t t'' := by
  rcases h with ⟨es, hes, hhistory⟩
  rcases h' with ⟨es', hes', hhistory'⟩
  refine ⟨es ++ es', fun e he => (List.mem_append.mp he).elim (hes e) (hes' e), ?_⟩
  rw [hhistory', hhistory, hclock, List.map_append, List.append_assoc]

theorem Undisturbed.quiet {t t' : Tracker κ ω} (h : Undisturbed t t') (hwrote : WroteAside t t') :
    Quiet t t' :=
  ⟨h.wiring, h.agenda, h.clock, h.delay, hwrote⟩

theorem wroteAside_announce (t : Tracker κ ω) : WroteAside t t.announce := by
  unfold announce
  split
  · exact WroteAside.refl t
  · exact wroteAside_recordAll _ [.overall t.allValid] (by simp [Event.movesTimer])

theorem quiet_recordAll (t : Tracker κ ω) (es : List (Event κ ω))
    (h : ∀ e ∈ es, e.movesTimer = false) : Quiet t (t.recordAll es) :=
  ⟨rfl, rfl, rfl, rfl, t.wroteAside_recordAll es h⟩

theorem quiet_setButton (t : Tracker κ ω) (b : Bool) : Quiet t (t.setButton b) :=
  (t.setButton_undisturbed b).quiet (WroteAside.refl t)

/-! ### The order of time -/

section InOrder

variable [DecidableEq κ]

/-- The history is in the order of time and of what has been, and the timers are of what is
    to come. -/
structure InOrder (t : Tracker κ ω) : Prop where
  written : (t.history.map Stamped.time).Pairwise (· ≤ ·)
  past : ∀ s ∈ t.history, s.time ≤ t.clock
  ahead : ∀ timer due, t.agenda.due? timer = some due → t.clock ≤ due

theorem inOrder_new (delay : Nat) (guards : ω → Option Field) (toolTips : ω → String) :
    InOrder (new delay guards toolTips : Tracker κ ω) :=
  ⟨List.Pairwise.nil, List.forall_mem_nil _, fun _ _ hdue => by cases hdue⟩

/-- What is written down now comes after all that was written down. -/
theorem InOrder.append {t t' : Tracker κ ω} (h : InOrder t) (es : List (Event κ ω))
    (hhistory : t'.history = t.history ++ es.map fun e => ⟨t'.clock, e⟩)
    (hclock : t.clock ≤ t'.clock)
    (hahead : ∀ timer due, t'.agenda.due? timer = some due → t'.clock ≤ due) : InOrder t' := by
  have hnow : ∀ time ∈ (es.map fun e => (⟨t'.clock, e⟩ : Stamped κ ω)).map Stamped.time,
      time = t'.clock := by
    intro time htime
    rcases List.mem_map.mp htime with ⟨s, hs, rfl⟩
    rcases List.mem_map.mp hs with ⟨e, -, rfl⟩
    rfl
  refine ⟨?_, fun s hs => ?_, hahead⟩
  · rw [hhistory, List.map_append, List.pairwise_append]
    refine ⟨h.written, List.pairwise_of_forall_mem_list fun a ha b hb => ?_, fun a ha b hb => ?_⟩
    · exact Nat.le_of_eq ((hnow a ha).trans (hnow b hb).symm)
    · rcases List.mem_map.mp ha with ⟨s, hs, rfl⟩
      rw [hnow b hb]
      exact Nat.le_trans (h.past s hs) hclock
  · rw [hhistory] at hs
    rcases List.mem_append.mp hs with hbefore | hafter
    · exact Nat.le_trans (h.past s hbefore) hclock
    · exact Nat.le_of_eq (hnow _ (List.mem_map_of_mem hafter))

/-- What leaves the clock, the agenda and the history as they were. -/
theorem InOrder.of_same {t t' : Tracker κ ω} (h : InOrder t) (hclock : t'.clock = t.clock)
    (hagenda : t'.agenda = t.agenda) (hhistory : t'.history = t.history) : InOrder t' := by
  constructor
  case written =>
    rw [hhistory]
    exact h.written
  case past =>
    rw [hhistory, hclock]
    exact h.past
  case ahead =>
    rw [hagenda, hclock]
    exact h.ahead

theorem InOrder.concat {t t' : Tracker κ ω} (h : InOrder t) (e : Event κ ω)
    (hhistory : t'.history = t.history ++ [⟨t'.clock, e⟩]) (hclock : t.clock ≤ t'.clock)
    (hahead : ∀ timer due, t'.agenda.due? timer = some due → t'.clock ≤ due) : InOrder t' :=
  h.append [e] hhistory hclock hahead

theorem InOrder.quiet {t t' : Tracker κ ω} (h : InOrder t) (hquiet : Quiet t t') :
    InOrder t' := by
  rcases hquiet.history with ⟨es, -, hhistory⟩
  rw [← hquiet.clock] at hhistory
  refine h.append es hhistory (Nat.le_of_eq hquiet.clock.symm) ?_
  rw [hquiet.agenda, hquiet.clock]
  exact h.ahead

theorem InOrder.stop {t : Tracker κ ω} (h : InOrder t) (timer : Timer κ) :
    InOrder { t with agenda := t.agenda.stop timer } := by
  refine ⟨h.written, h.past, fun other due hdue => h.ahead other due ?_⟩
  rw [Agenda.due?_eq_some_iff] at hdue ⊢
  exact ((t.agenda.mem_shots_stop timer _).mp hdue).1

theorem InOrder.start {t : Tracker κ ω} (h : InOrder t) (timer : Timer κ) {due : Nat}
    (hdue : t.clock ≤ due) : InOrder { t with agenda := t.agenda.start timer due } := by
  refine ⟨h.written, h.past, fun other due' hdue' => ?_⟩
  rw [Agenda.due?_start] at hdue'
  by_cases hother : other = timer
  · rw [if_pos hother, Option.some.injEq] at hdue'
    exact hdue' ▸ hdue
  · rw [if_neg hother] at hdue'
    exact h.ahead other due' hdue'

/-- A tracker whose timer rang, before anything comes of it. -/
def rung (t : Tracker κ ω) (s : Shot (Timer κ)) : Tracker κ ω :=
  { t with clock := s.due, agenda := t.agenda.stop s.timer }.record (.rang s.timer)

/-- When the timer that is the first rings, no other is late. -/
theorem InOrder.rung {t : Tracker κ ω} (h : InOrder t) {s : Shot (Timer κ)}
    {later : List (Shot (Timer κ))} (hshots : t.agenda.shots = s :: later) :
    InOrder (t.rung s) := by
  have hmem : s ∈ t.agenda.shots := hshots ▸ List.mem_cons_self ..
  have hclock : t.clock ≤ s.due := h.ahead s.timer s.due ((t.agenda.due?_eq_some_iff _ _).mpr hmem)
  refine h.concat (.rang s.timer) rfl hclock fun timer due hdue => ?_
  change (t.agenda.stop s.timer).due? timer = some due at hdue
  rw [Agenda.due?_eq_some_iff, t.agenda.shots_stop_of_cons hshots] at hdue
  have horder := t.agenda.inOrder
  rw [hshots, List.pairwise_cons] at horder
  exact horder.1 _ hdue

/-- Time may go on until the first timer rings. -/
theorem InOrder.wait {t : Tracker κ ω} (h : InOrder t) {time : Nat} (hclock : t.clock ≤ time)
    (hnone : ∀ timer due, t.agenda.due? timer = some due → time < due) :
    InOrder { t with clock := time } :=
  ⟨h.written, fun s hs => Nat.le_trans (h.past s hs) hclock,
    fun timer due hdue => Nat.le_of_lt (hnone timer due hdue)⟩

end InOrder

/-! ### Judging -/

variable [DecidableEq κ] [DecidableEq ω]

theorem wroteAside_settle (t : Tracker κ ω) (key : κ) (field : Tracked ω) (value : Text)
    (v : Verdict) : WroteAside t (t.settle key field value v) := by
  unfold settle
  simp only
  split
  · exact wroteAside_announce (t.putField key _)
  · refine WroteAside.trans ?_ (wroteAside_announce _) rfl
    exact wroteAside_recordAll _ [.judged key v.valid v.message] (by simp [Event.movesTimer])

variable [Named κ]

theorem wroteAside_judge (t : Tracker κ ω) (key : κ) (field : Tracked ω) (value : Text) :
    WroteAside t (t.judge key field value) := by
  have htold : WroteAside t (t.recordAll (field.check.consequences key value)) := by
    refine t.wroteAside_recordAll _ fun e he => ?_
    rcases field.check.noted_or_reported_of_mem_consequences key value e he with
      ⟨_, rfl⟩ | ⟨_, rfl⟩
    · rfl
    · rfl
  exact htold.trans (wroteAside_settle _ key field value _) rfl

/-- Judging a field concerns no timer. -/
theorem quiet_validate (t : Tracker κ ω) (key : κ) : Quiet t (t.validate key) :=
  (t.validate_undisturbed key).quiet <|
    t.validate_of_judge key (WroteAside.refl t) fun field _ => t.wroteAside_judge key field _

/-- What comes of a ring concerns no timer. -/
theorem quiet_fire (t : Tracker κ ω) (s : Shot (Timer κ)) : Quiet (t.rung s) (t.fire s) := by
  rcases s with ⟨timer, due⟩
  cases timer with
  | recheck key registration => exact quiet_validate _ key
  | pause => exact ⟨rfl, rfl, rfl, rfl, WroteAside.refl _⟩

/-! ### What happens at once -/

/-- A property that survives an edit, whatever comes of it: what is written down of it, the
    change with all that hears of it, and the judgement of a field at once. -/
structure Immediate (P : Tracker κ ω → Prop) : Prop where
  noted : ∀ t entry, P t → P (t.record (.noted entry))
  changed : ∀ t w value, P t → P (t.notice w (.changed value))
  recheck : ∀ t key, P t → P (t.recheck key)

section Immediate

variable {P : Tracker κ ω → Prop}

theorem Immediate.recheckAll (hP : Immediate P) (t : Tracker κ ω) (h : P t) : P t.recheckAll :=
  List.foldlRecOn _ _ h fun t ht key _ => hP.recheck t key ht

theorem Immediate.notice (hP : Immediate P) (t : Tracker κ ω) (w : ω) (e : Effect) (h : P t) :
    P (t.notice w e) := by
  cases e with
  | changed value => exact hP.changed t w value h
  | finished => exact List.foldlRecOn _ _ h fun t ht key _ => hP.recheck t key ht
  | noted entry => exact hP.noted t entry h
  | refused _ => exact h
  | platform => exact h

theorem Immediate.act (hP : Immediate P) (t : Tracker κ ω) (w : ω) (a : Action)
    (h : P (t.edited w (t.reaction w a).edit)) : P (t.act w a).1 := by
  rw [act_eq_foldl_notice]
  exact List.foldlRecOn _ _ h fun t ht effect _ => hP.notice t w effect ht

end Immediate

/-! ### The passing of time -/

/-- A property that survives the passing of time: the ring of the timer that is the first,
    and time in which none rings. -/
structure Lasting (P : Tracker κ ω → Prop) : Prop where
  fire : ∀ (t : Tracker κ ω) s later, t.agenda.shots = s :: later → P t → P (t.fire s)
  wait : ∀ (t : Tracker κ ω) time, t.clock ≤ time →
    (∀ timer due, t.agenda.due? timer = some due → time < due) → P t → P { t with clock := time }

theorem clock_fire (t : Tracker κ ω) (s : Shot (Timer κ)) : (t.fire s).clock = s.due :=
  (t.quiet_fire s).clock

theorem clock_foldl_fire_le {limit : Nat} (rung : List (Shot (Timer κ))) (t : Tracker κ ω)
    (hclock : t.clock ≤ limit) (hrung : ∀ s ∈ rung, s.due ≤ limit) :
    (rung.foldl fire t).clock ≤ limit :=
  List.foldlRecOn (motive := fun t' : Tracker κ ω => t'.clock ≤ limit) rung _ hclock
    fun t' _ s hs => (t'.clock_fire s).symm ▸ hrung s hs

section Lasting

variable {P : Tracker κ ω → Prop}

/-- Of timers that ring one after the other each is the first when it rings. -/
theorem Lasting.foldl_fire (hP : Lasting P) (rung : List (Shot (Timer κ))) (t : Tracker κ ω)
    (hfirst : rung <+: t.agenda.shots) (h : P t) : P (rung.foldl Tracker.fire t) := by
  induction rung generalizing t with
  | nil => exact h
  | cons s rest ih =>
      rcases hfirst with ⟨later, hlater⟩
      refine ih (t.fire s) ⟨later, ?_⟩ (hP.fire t s (rest ++ later) hlater.symm h)
      rw [agenda_fire, t.agenda.shots_stop_of_cons hlater.symm]
      rfl

theorem Lasting.advance (hP : Lasting P) (t : Tracker κ ω) (ms : Nat) (h : P t) :
    P (t.advance ms) := by
  have hrung := hP.foldl_fire _ t (t.agenda.dueBy_prefix (t.clock + ms)) h
  have hclock := clock_foldl_fire_le (t.agenda.dueBy (t.clock + ms)) t
    (Nat.le_add_right t.clock ms) fun s hs => of_decide_eq_true (List.mem_filter.mp hs).2
  refine hP.wait _ (t.clock + ms) hclock (fun timer due hdue => ?_) hrung
  -- What is left did not ring, so it is due later.
  rw [Agenda.due?_eq_some_iff] at hdue
  exact ((t.mem_shots_advance ms ⟨timer, due⟩).mp hdue).2

end Lasting

end Tracker

end ManagerSignup
