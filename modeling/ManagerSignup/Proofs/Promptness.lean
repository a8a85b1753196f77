import ManagerSignup.Proofs.Bursts
import ManagerSignup.Proofs.TrackerRuns

/-!
# Fields Are On Time

Every field that tracks a widget owes it an answer to each edit, and it is never late.

An edit starts the timers of all fields that hear of it, and a field that is judged for
another reason stops its timer. So the timer of a field runs as long as there is an edit
that the field has not answered, and it is due a delay after the last one. `OnTime` says
so of one field, and together with the rings there have been that is the whole state of
its timer. One more event changes what is owed and when the timer is due, and the two
changes are the same function of the event (`OnTime.concat`). That is the one argument
behind everything here. What is left for each operation is to say which event it writes
down and what it does to the agenda.

Two things may come between a field and its timer. A field that is registered again has a
new timer, and the old one goes on. Fields that are forgotten leave their listeners
behind, and if they come back there are two. Both are excluded where it matters, which is
in the steps of a run (`RegistersOnce`). In the invariant they show as `pending` and
`heard`: the timers are those of the fields, and the listeners are too.

## Main definitions

* `Tracker.OnTime`: The timer of a field is due when it should be.
* `Tracker.Prompt`: Every field is on time.
* `Tracker.dueAfter`: What one more event makes of a timer.
* `Tracker.Scheduled`: The timers of some fields were started.
* `Tracker.RegistersOnce`: No field is registered twice, and none is forgotten.

## Theorems

* `Tracker.Prompt.quiet`, `Tracker.Prompt.concat`: What concerns no timer, and one event.
* `Tracker.Prompt.changed`, `Tracker.Prompt.recheck`, `Tracker.Prompt.rung`,
  `Tracker.Prompt.joined`: Edits, judgements at once, rings and registrations.
* `Tracker.Prompt.step`, `Tracker.Prompt.run`: Steps and runs.
-/

namespace ManagerSignup

namespace Tracker

variable {κ ω : Type} [DecidableEq κ]

theorem field?_of_plan {t : Tracker κ ω} {key : κ} {plan : Plan ω}
    (h : Table.find? key t.wiring.plans = some plan) :
    ∃ field, t.field? key = some field ∧ field.plan = plan := by
  rw [wiring, Table.find?_view, Option.map_eq_some_iff] at h
  exact h

theorem schedule_of_plan {t : Tracker κ ω} {key : κ} {plan : Plan ω}
    (h : Table.find? key t.wiring.plans = some plan) :
    t.schedule key = { t with
      agenda := t.agenda.start (.recheck key plan.registration) (t.clock + t.delay) } := by
  rcases field?_of_plan h with ⟨field, hfield, rfl⟩
  rw [schedule, hfield]
  rfl

/-- Fields with a key of their own have a timer of their own. -/
theorem recheck_eq_recheck_iff {plans : Table κ (Plan ω)} {key k : κ} {plan p : Plan ω}
    (hplan : Table.find? key plans = some plan) (hp : Table.find? k plans = some p) :
    Timer.recheck k p.registration = .recheck key plan.registration ↔ key = k := by
  rw [Timer.recheck.injEq]
  refine ⟨fun htimer => htimer.1.symm, fun hkey => ⟨hkey.symm, ?_⟩⟩
  rw [hkey, hp, Option.some.injEq] at hplan
  rw [hplan]

variable [DecidableEq ω]

/-! ### What a field owes -/

/-- The timer of a field is due a delay after the last edit that is open, and whenever it
    rang it was. -/
structure OnTime (t : Tracker κ ω) (key : κ) (plan : Plan ω) : Prop where
  due : t.agenda.due? (.recheck key plan.registration) =
    (openSince key plan.widget t.history).map (· + t.delay)
  rung : RungOnTime key plan.widget t.delay t.history

/-- Every field is on time, and no timer but those of the fields runs or ever rang. -/
structure Prompt (t : Tracker κ ω) : Prop where
  inOrder : t.InOrder
  /-- Who hears of a widget are the fields that were registered with it. -/
  heard : ∀ w l, l ∈ (t.wiring.links w).onChange ↔
    ∃ key plan, l = .recheckSoon key ∧ Table.find? key t.wiring.plans = some plan ∧ plan.widget = w
  pending : ∀ key n due, t.agenda.due? (.recheck key n) = some due →
    ∃ plan, Table.find? key t.wiring.plans = some plan ∧ plan.registration = n
  rang : ∀ s ∈ t.history, ∀ key, s.event.isRingOf key →
    ∃ plan, Table.find? key t.wiring.plans = some plan
  onTime : ∀ key plan, Table.find? key t.wiring.plans = some plan → t.OnTime key plan

variable {t t' : Tracker κ ω}

theorem OnTime.quiet {key : κ} {plan : Plan ω} (h : t.OnTime key plan) (hquiet : Quiet t t') :
    t'.OnTime key plan := by
  rcases hquiet.history with ⟨es, hes, hhistory⟩
  constructor
  case due =>
    rw [hquiet.agenda, hquiet.delay, hhistory, openSince_append, openSinceFrom_of_aside]
    · exact h.due
    · intro s hs
      rcases List.mem_map.mp hs with ⟨e, he, rfl⟩
      exact ⟨Event.isChangeOf_eq_false_of_not_movesTimer (hes e he) _,
        Event.answers_eq_false_of_not_movesTimer (hes e he) _⟩
  case rung =>
    rw [hquiet.delay, hhistory]
    refine h.rung.append _ fun s hs => ?_
    rcases List.mem_map.mp hs with ⟨e, he, rfl⟩
    exact Event.isRingOf_eq_false_of_not_movesTimer (hes e he) key

/-- What concerns no timer leaves every field on time. -/
theorem Prompt.quiet (h : Prompt t) (hquiet : Quiet t t') : Prompt t' := by
  constructor
  case inOrder => exact h.inOrder.quiet hquiet
  case heard =>
    rw [hquiet.wiring]
    exact h.heard
  case pending =>
    rw [hquiet.wiring, hquiet.agenda]
    exact h.pending
  case rang =>
    rw [hquiet.wiring]
    rcases hquiet.history with ⟨es, hes, hhistory⟩
    intro s hs key hring
    rw [hhistory] at hs
    rcases List.mem_append.mp hs with hbefore | hafter
    · exact h.rang s hbefore key hring
    · rcases List.mem_map.mp hafter with ⟨e, he, rfl⟩
      rw [Event.isRingOf_eq_false_of_not_movesTimer (hes e he) key] at hring
      cases hring
  case onTime =>
    rw [hquiet.wiring]
    exact fun key plan hplan => (h.onTime key plan hplan).quiet hquiet

/-- What one more event makes of the time at which the timer of a field is due. -/
def dueAfter (t : Tracker κ ω) (time : Nat) (e : Event κ ω) (key : κ) (plan : Plan ω) :
    Option Nat :=
  if e.isChangeOf plan.widget then some (time + t.delay)
  else if e.answers key then none
  else t.agenda.due? (.recheck key plan.registration)

theorem dueAfter_of_not_change {time : Nat} {e : Event κ ω} {key : κ} {plan : Plan ω}
    (h : e.isChangeOf plan.widget = false) :
    t.dueAfter time e key plan =
      if e.answers key then none else t.agenda.due? (.recheck key plan.registration) := by
  rw [dueAfter, if_neg (Bool.eq_false_iff.mp h)]

/-- An answer stops the timer of its field, and no other. -/
theorem due?_stop_eq_dueAfter {timer : Timer κ} {time : Nat} {e : Event κ ω} {key : κ}
    {plan : Plan ω} (hchange : e.isChangeOf plan.widget = false)
    (hanswers : e.answers key ↔ .recheck key plan.registration = timer) :
    (t.agenda.stop timer).due? (.recheck key plan.registration) = t.dueAfter time e key plan := by
  rw [Agenda.due?_stop, dueAfter_of_not_change hchange]
  exact if_congr hanswers.symm rfl rfl

theorem OnTime.concat {key : κ} {plan : Plan ω} (h : t.OnTime key plan) (e : Event κ ω)
    (hdelay : t'.delay = t.delay) (hhistory : t'.history = t.history ++ [⟨t'.clock, e⟩])
    (hdue : t'.agenda.due? (.recheck key plan.registration) = t.dueAfter t'.clock e key plan)
    (hring : e.isRingOf key →
      t.agenda.due? (.recheck key plan.registration) = some t'.clock) : t'.OnTime key plan := by
  constructor
  case due =>
    -- What is open and what the timer is set to are told apart by the same two questions.
    rw [hdue, hdelay, hhistory, openSince_append_singleton, dueAfter, h.due]
    by_cases hchange : e.isChangeOf plan.widget
    · rw [if_pos hchange, if_pos hchange, Option.map_some]
    · rw [if_neg hchange, if_neg hchange]
      by_cases hanswers : e.answers key
      · rw [if_pos hanswers, if_pos hanswers, Option.map_none]
      · rw [if_neg hanswers, if_neg hanswers]
  case rung =>
    rw [hdelay, hhistory]
    refine h.rung.concat _ fun hr => ?_
    rw [← h.due]
    exact hring hr

/-- One more event leaves every field on time, if it makes of each timer what it should,
    and if a timer that rings is due. -/
theorem Prompt.concat (h : Prompt t) (e : Event κ ω) (hinOrder : t'.InOrder)
    (hwiring : t'.wiring = t.wiring) (hdelay : t'.delay = t.delay)
    (hhistory : t'.history = t.history ++ [⟨t'.clock, e⟩])
    (hpending : ∀ key n due, t'.agenda.due? (.recheck key n) = some due →
      ∃ plan, Table.find? key t.wiring.plans = some plan ∧ plan.registration = n)
    (hdue : ∀ key plan, Table.find? key t.wiring.plans = some plan →
      t'.agenda.due? (.recheck key plan.registration) = t.dueAfter t'.clock e key plan)
    (hring : ∀ key, e.isRingOf key → ∃ plan, Table.find? key t.wiring.plans = some plan ∧
      t.agenda.due? (.recheck key plan.registration) = some t'.clock) : Prompt t' := by
  constructor
  case inOrder => exact hinOrder
  case heard =>
    rw [hwiring]
    exact h.heard
  case pending =>
    rw [hwiring]
    exact hpending
  case rang =>
    rw [hwiring, hhistory]
    intro s hs key hr
    rcases List.mem_append.mp hs with hbefore | hnow
    · exact h.rang s hbefore key hr
    · rw [List.mem_singleton.mp hnow] at hr
      rcases hring key hr with ⟨plan, hplan, -⟩
      exact ⟨plan, hplan⟩
  case onTime =>
    rw [hwiring]
    intro key plan hplan
    refine (h.onTime key plan hplan).concat e hdelay hhistory (hdue key plan hplan) fun hr => ?_
    rcases hring key hr with ⟨plan', hplan', hnow⟩
    rw [hplan, Option.some.injEq] at hplan'
    exact hplan' ▸ hnow

theorem Prompt.pending_stop (h : Prompt t) {timer : Timer κ} {key : κ} {n due : Nat}
    (hdue : (t.agenda.stop timer).due? (.recheck key n) = some due) :
    ∃ plan, Table.find? key t.wiring.plans = some plan ∧ plan.registration = n := by
  rw [Agenda.due?_stop] at hdue
  split at hdue
  · cases hdue
  · exact h.pending key n due hdue

/-- A timer that rings is the answer of its field. -/
theorem Prompt.rung (h : Prompt t) {s : Shot (Timer κ)} {later : List (Shot (Timer κ))}
    (hshots : t.agenda.shots = s :: later) : Prompt (t.rung s) := by
  have hmem : s ∈ t.agenda.shots := hshots ▸ List.mem_cons_self ..
  have hnow : t.agenda.due? s.timer = some s.due := (t.agenda.due?_eq_some_iff _ _).mpr hmem
  refine h.concat (.rang s.timer) (h.inOrder.rung hshots) rfl rfl rfl
    (fun key n due hdue => h.pending_stop hdue)
    (fun key plan hplan => due?_stop_eq_dueAfter rfl ?_) (fun key hring => ?_)
  · -- A timer that has the key of the field is the timer of the field.
    cases htimer : s.timer with
    | pause =>
        constructor
        · intro hanswers
          cases hanswers
        · intro hsame
          cases hsame
    | recheck k n =>
        rw [htimer] at hnow
        rcases h.pending k n s.due hnow with ⟨plan', hplan', rfl⟩
        rw [Event.answers, decide_eq_true_eq]
        exact (recheck_eq_recheck_iff hplan' hplan).symm
  · cases htimer : s.timer with
    | pause =>
        rw [htimer] at hring
        cases hring
    | recheck k n =>
        rw [htimer, Event.isRingOf, decide_eq_true_eq] at hring
        rw [htimer, hring] at hnow
        rcases h.pending key n s.due hnow with ⟨plan, hplan, rfl⟩
        exact ⟨plan, hplan, hnow⟩

/-! ### Registrations -/

/-- A field that is new owes nothing, whatever its plan. -/
theorem Prompt.onTime_joined (h : Prompt t) {key : κ}
    (hnew : Table.find? key t.wiring.plans = none) (w : ω) (check : Check ω) (required : Bool)
    (plan : Plan ω) : (t.joined key w check required).OnTime key plan := by
  -- Whatever rang has a plan, and so has whatever will.
  have hnone : ∀ s ∈ t.history, s.event.isRingOf key = false := by
    intro s hs
    rw [Bool.eq_false_iff]
    intro hring
    rcases h.rang s hs key hring with ⟨plan, hplan⟩
    rw [hnew] at hplan
    cases hplan
  constructor
  case due =>
    have hidle : t.agenda.due? (.recheck key plan.registration) = none := by
      rw [Option.eq_none_iff_forall_ne_some]
      intro due hdue
      rcases h.pending key _ due hdue with ⟨plan, hplan, -⟩
      rw [hnew] at hplan
      cases hplan
    have hclosed : openSince key plan.widget (t.joined key w check required).history = none :=
      openSince_of_answers t.history (decide_eq_true rfl)
    rw [hclosed]
    exact hidle
  case rung =>
    refine rungOnTime_of_not_isRingOf fun s hs => ?_
    rcases List.mem_append.mp hs with hbefore | hnow
    · exact hnone s hbefore
    · rw [List.mem_singleton.mp hnow]
      rfl

theorem find?_joined (t : Tracker κ ω) (key k : κ) (w : ω) (check : Check ω) (required : Bool) :
    Table.find? k (t.joined key w check required).wiring.plans =
      if k = key then some { widget := w, check, required, registration := t.registrations }
      else Table.find? k t.wiring.plans := by
  rw [wiring_joined]
  exact Wiring.find?_register _ _ _ _

/-- Whatever had a plan is not the new field, so it has its plan still. -/
theorem find?_joined_of_some {key k : κ} {plan : Plan ω}
    (hnew : Table.find? key t.wiring.plans = none)
    (hplan : Table.find? k t.wiring.plans = some plan) (w : ω) (check : Check ω)
    (required : Bool) :
    Table.find? k (t.joined key w check required).wiring.plans = some plan := by
  rw [find?_joined, if_neg, hplan]
  rintro rfl
  rw [hnew] at hplan
  cases hplan

/-- Who hears of a widget are the fields that were registered with it, the new one with
    the others. -/
theorem Prompt.heard_joined (h : Prompt t) {key : κ}
    (hnew : Table.find? key t.wiring.plans = none) (w : ω) (check : Check ω) (required : Bool)
    (v : ω) (l : Listener κ) :
    l ∈ ((t.joined key w check required).wiring.links v).onChange ↔
      ∃ k plan, l = .recheckSoon k ∧
        Table.find? k (t.joined key w check required).wiring.plans = some plan ∧
        plan.widget = v := by
  have hlisten : l ∈ ((t.joined key w check required).wiring.links v).onChange ↔
      l ∈ (t.wiring.links v).onChange ∨ v = w ∧ l = .recheckSoon key := by
    rw [wiring_joined]
    exact Wiring.mem_onChange_register_iff _ _ _ _ _
  rw [hlisten, h.heard]
  constructor
  · rintro (⟨k, plan, hl, hplan, hwidget⟩ | ⟨hv, hl⟩)
    · exact ⟨k, plan, hl, find?_joined_of_some hnew hplan w check required, hwidget⟩
    · exact ⟨key, _, hl, (t.find?_joined key key w check required).trans (if_pos rfl), hv.symm⟩
  · rintro ⟨k, plan, hl, hplan, hwidget⟩
    rw [find?_joined] at hplan
    by_cases hk : k = key
    · rw [if_pos hk, Option.some.injEq] at hplan
      rw [← hplan] at hwidget
      exact Or.inr ⟨hwidget.symm, hk ▸ hl⟩
    · rw [if_neg hk] at hplan
      exact Or.inl ⟨k, plan, hl, hplan, hwidget⟩

/-- What another field owes is none of the new one's business. -/
theorem OnTime.joined {key k : κ} {plan : Plan ω} (h : t.OnTime k plan) (hk : k ≠ key) (w : ω)
    (check : Check ω) (required : Bool) : (t.joined key w check required).OnTime k plan := by
  refine h.concat (.registered key) rfl rfl ?_ fun hring => by cases hring
  rw [dueAfter_of_not_change rfl, if_neg fun hanswers => hk (of_decide_eq_true hanswers).symm]
  rfl

/-- A field that is new is on time, and so are the others still. -/
theorem Prompt.joined (h : Prompt t) {key : κ} (hnew : Table.find? key t.wiring.plans = none)
    (w : ω) (check : Check ω) (required : Bool) :
    Prompt (t.joined key w check required) := by
  constructor
  case inOrder => exact h.inOrder.concat (.registered key) rfl (Nat.le_refl _) h.inOrder.ahead
  case heard => exact h.heard_joined hnew w check required
  case pending =>
    intro k n due hdue
    rcases h.pending k n due hdue with ⟨plan, hplan, hn⟩
    exact ⟨plan, find?_joined_of_some hnew hplan w check required, hn⟩
  case rang =>
    intro s hs k hring
    rcases List.mem_append.mp hs with hbefore | hnow
    · rcases h.rang s hbefore k hring with ⟨plan, hplan⟩
      exact ⟨plan, find?_joined_of_some hnew hplan w check required⟩
    · -- What was written down is the registration, which is no ring.
      rw [List.mem_singleton.mp hnow] at hring
      cases hring
  case onTime =>
    intro k plan hplan
    rw [find?_joined] at hplan
    by_cases hk : k = key
    · rw [hk]
      exact h.onTime_joined hnew w check required plan
    · rw [if_neg hk] at hplan
      exact (h.onTime k plan hplan).joined hk w check required

/-! ### What a run registers -/

/-- The field that a step registers. -/
def Step.registered? : Step κ ω → Option κ
  | .register key _ _ _ => some key
  | _ => none

/-- Every field is registered once, and none is forgotten. -/
structure RegistersOnce (steps : List (Step κ ω)) : Prop where
  once : (steps.filterMap Step.registered?).Nodup
  kept : .cleanup ∉ steps

/-- A step changes no plan but that of the field it registers. -/
theorem find?_rewire (x : Wiring κ ω) (n : Nat) {s : Step κ ω} {key : κ} (hkept : s ≠ .cleanup)
    (hother : s.registered? ≠ some key) :
    Table.find? key (s.rewire x n).plans = Table.find? key x.plans := by
  cases s with
  | register k w check required =>
      refine (x.find?_register k key _).trans (if_neg ?_)
      rintro rfl
      exact hother rfl
  | cleanup => exact absurd rfl hkept
  | _ => rfl

theorem prompt_new (delay : Nat) (guards : ω → Option Field) (toolTips : ω → String) :
    Prompt (new delay guards toolTips : Tracker κ ω) := by
  constructor
  case inOrder => exact inOrder_new delay guards toolTips
  case heard =>
    intro w l
    constructor
    · intro hl
      cases hl
    · rintro ⟨key, plan, -, hplan, -⟩
      cases hplan
  case pending =>
    intro key n due hdue
    cases hdue
  case rang => exact List.forall_mem_nil _
  case onTime =>
    intro key plan hplan
    cases hplan

variable [Named κ]

/-! ### Edits -/

/-- The timers of some fields were started, and nothing else happened. -/
structure Scheduled (t : Tracker κ ω) (listeners : List (Listener κ)) (t' : Tracker κ ω) :
    Prop where
  same : t' = { t with agenda := t'.agenda }
  inOrder : t.InOrder → t'.InOrder
  due : ∀ key plan, Table.find? key t.wiring.plans = some plan →
    t'.agenda.due? (.recheck key plan.registration) =
      if .recheckSoon key ∈ listeners then some (t.clock + t.delay)
      else t.agenda.due? (.recheck key plan.registration)
  started : ∀ timer due, t'.agenda.due? timer = some due → t.agenda.due? timer = some due ∨
    ∃ key plan, Table.find? key t.wiring.plans = some plan ∧ timer = .recheck key plan.registration

/-- This is what comes of fields that are told of a change, if none of them judges at
    once. -/
theorem scheduled_foldl_tell (t : Tracker κ ω) (listeners : List (Listener κ))
    (h : ∀ l ∈ listeners, ∃ key plan, l = .recheckSoon key ∧
      Table.find? key t.wiring.plans = some plan) :
    Scheduled t listeners (listeners.foldl tell t) := by
  -- The induction is on those that were told so far, since the one that is told next finds
  -- what they have left.
  induction listeners using List.reverseRecOn with
  | nil => exact ⟨rfl, id, fun _ _ _ => rfl, fun _ _ hdue => Or.inl hdue⟩
  | append_singleton listeners l ih =>
      have hbefore := ih fun l hl => h l (List.mem_append_left _ hl)
      rcases h l (List.mem_append_right _ (List.mem_singleton_self l)) with
        ⟨key, plan, rfl, hplan⟩
      rw [List.foldl_append, List.foldl_cons, List.foldl_nil]
      generalize listeners.foldl tell t = told at hbefore
      have hsame := hbefore.same
      have hplan' : Table.find? key told.wiring.plans = some plan := by
        rw [hsame]
        exact hplan
      change Scheduled t _ (told.schedule key)
      rw [schedule_of_plan hplan']
      have hclock : told.clock = t.clock := by rw [hsame]
      have hdelay : told.delay = t.delay := by rw [hsame]
      constructor
      case same =>
        rw [hsame]
      case inOrder => exact fun h => (hbefore.inOrder h).start _ (Nat.le_add_right _ _)
      case due =>
        intro k p hp
        rw [Agenda.due?_start, hclock, hdelay]
        simp only [recheck_eq_recheck_iff hplan hp]
        by_cases hk : key = k
        · rw [if_pos hk, if_pos (List.mem_append_right _ (List.mem_singleton.mpr (hk ▸ rfl)))]
        · rw [if_neg hk, hbefore.due k p hp]
          refine if_congr ?_ rfl rfl
          rw [List.mem_append, List.mem_singleton, Listener.recheckSoon.injEq,
            or_iff_left (Ne.symm hk)]
      case started =>
        intro timer due hdue
        rw [Agenda.due?_start] at hdue
        by_cases htimer : timer = .recheck key plan.registration
        · exact Or.inr ⟨key, plan, hplan, htimer⟩
        · rw [if_neg htimer] at hdue
          exact hbefore.started timer due hdue

/-- An edit starts the timers of all fields that hear of it. -/
theorem Prompt.changed (h : Prompt t) (w : ω) (value : Text) :
    Prompt (t.notice w (.changed value)) := by
  have hscheduled := (t.record (.changed w value)).scheduled_foldl_tell
    (t.widgets w).onChange fun l hl => by
      rcases (h.heard w l).mp hl with ⟨key, plan, hkey, hplan, -⟩
      exact ⟨key, plan, hkey, hplan⟩
  change Prompt ((t.widgets w).onChange.foldl tell (t.record (.changed w value)))
  generalize (t.widgets w).onChange.foldl tell (t.record (.changed w value)) = told at hscheduled
  have hsame := hscheduled.same
  have hwiring : told.wiring = t.wiring := by
    rw [hsame]
    rfl
  have hdelay : told.delay = t.delay := by rw [hsame]; rfl
  have hclock : told.clock = t.clock := by rw [hsame]; rfl
  have hhistory : told.history = t.history ++ [⟨told.clock, .changed w value⟩] := by
    rw [hclock, hsame]
    rfl
  refine h.concat (.changed w value) (hscheduled.inOrder ?_) hwiring hdelay hhistory
    (fun key n due hdue => ?_) (fun key plan hplan => ?_) fun key hring => by cases hring
  · exact h.inOrder.concat _ rfl (Nat.le_refl _) h.inOrder.ahead
  · rcases hscheduled.started _ due hdue with hbefore | ⟨k, plan, hplan, htimer⟩
    · exact h.pending key n due hbefore
    · rw [Timer.recheck.injEq] at htimer
      exact ⟨plan, htimer.1 ▸ hplan, htimer.2.symm⟩
  · have hheard : .recheckSoon key ∈ (t.widgets w).onChange ↔ w = plan.widget := by
      refine (h.heard w _).trans ⟨?_, fun hw => ⟨key, plan, rfl, hplan, hw.symm⟩⟩
      rintro ⟨k, p, hk, hp, hw⟩
      rw [Listener.recheckSoon.injEq] at hk
      rw [← hk, hplan, Option.some.injEq] at hp
      rw [hp, hw]
    rw [hscheduled.due key plan hplan, dueAfter, hclock]
    refine if_congr ?_ rfl rfl
    rw [hheard, Event.isChangeOf, decide_eq_true_eq]

/-- A field that is judged at once answers what is open. -/
theorem Prompt.recheck (h : Prompt t) (key : κ) : Prompt (t.recheck key) := by
  refine t.recheck_of_forget key h fun field hfield => ?_
  have hsame := t.forget_sameInputs key field hfield
  have hplan := find?_plans hfield
  have hforgot : Prompt (t.forget key field) := by
    refine h.concat (.rechecked key) ?_ hsame.wiring rfl rfl
      (fun k n due hdue => h.pending_stop hdue)
      (fun k plan hk => due?_stop_eq_dueAfter rfl ?_) fun k hring => by cases hring
    · have hinOrder := h.inOrder.stop (timer key field)
      exact hinOrder.concat _ rfl (Nat.le_refl _) hinOrder.ahead
    · rw [Event.answers, decide_eq_true_eq]
      exact (recheck_eq_recheck_iff hplan hk).symm
  exact hforgot.quiet (quiet_validate _ key)

/-- An edit leaves every field on time. -/
theorem immediate_prompt : Immediate (Prompt (κ := κ) (ω := ω)) where
  noted t entry h := h.quiet <| t.quiet_recordAll [.noted entry] fun e he => by
    rw [List.mem_singleton.mp he]
    rfl
  changed _ w value h := h.changed w value
  recheck _ key h := h.recheck key

theorem lasting_prompt : Lasting (Prompt (κ := κ) (ω := ω)) where
  fire t s _ hshots h := (h.rung hshots).quiet (t.quiet_fire s)
  wait _ _ hclock hnone h := ⟨h.inOrder.wait hclock hnone, h.heard, h.pending, h.rang,
    fun key plan hplan => ⟨(h.onTime key plan hplan).due, (h.onTime key plan hplan).rung⟩⟩

/-! ### Runs -/

/-- A step leaves every field on time, unless it registers one again or forgets them. -/
theorem Prompt.step (h : Prompt t) (s : Step κ ω) (hkept : s ≠ .cleanup)
    (hnew : ∀ key, s.registered? = some key → Table.find? key t.wiring.plans = none) :
    Prompt (t.step s).1 := by
  cases s with
  | register key w check required =>
      exact (h.joined (hnew key rfl) w check required).quiet (quiet_validate _ key)
  | act w a =>
      refine immediate_prompt.act t w a (h.quiet ?_)
      exact ⟨t.wiring_edited w _, rfl, rfl, rfl, WroteAside.refl t⟩
  | recheck key => exact h.recheck key
  | recheckAll => exact immediate_prompt.recheckAll t h
  | advance ms => exact lasting_prompt.advance t ms h
  | cleanup => exact absurd rfl hkept
  | setToolTip w tip =>
      exact h.quiet ((t.setToolTip_undisturbed w tip).quiet (WroteAside.refl t))

theorem Prompt.run (h : Prompt t) (steps : List (Step κ ω)) (honce : RegistersOnce steps)
    (hnew : ∀ key ∈ steps.filterMap Step.registered?, Table.find? key t.wiring.plans = none) :
    Prompt (t.run steps) := by
  induction steps generalizing t with
  | nil => exact h
  | cons s rest ih =>
      have hs : s ≠ .cleanup := fun hs => honce.kept (hs ▸ List.mem_cons_self ..)
      -- A field that is registered later is new until then, since no step before gives it a
      -- plan.
      have hrest : ∀ key ∈ rest.filterMap Step.registered?, s.registered? ≠ some key := by
        intro key hkey hsame
        have hnodup := honce.once
        rw [List.filterMap_cons_some hsame, List.nodup_cons] at hnodup
        exact hnodup.1 hkey
      have hafter : RegistersOnce rest :=
        ⟨honce.once.sublist ((List.sublist_cons_self s rest).filterMap _),
          fun hmem => honce.kept (List.mem_cons_of_mem s hmem)⟩
      refine ih (h.step s hs fun key hkey => hnew key ?_) hafter fun key hkey => ?_
      · exact List.mem_filterMap.mpr ⟨s, List.mem_cons_self .., hkey⟩
      · rw [wiring_step, find?_rewire _ _ hs (hrest key hkey)]
        exact hnew key (((List.sublist_cons_self s rest).filterMap _).subset hkey)

end Tracker

end ManagerSignup
