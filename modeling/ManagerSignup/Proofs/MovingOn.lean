import Mathlib.Data.List.Perm.Subperm
import ManagerSignup.Proofs.Registrations
import ManagerSignup.Proofs.Timelines

/-!
# When the User Moves On

The user is asked to move on when the pause after a success is over, and not otherwise.

A success begins a pause, and when the pause is over the user is asked to move on. If
another success comes before that, the pause begins anew and the first success is not
answered by itself. So a time at which the user is asked is one that lies a pause behind
some success, with no success in between, and every such time is one, once it has come.

That law cannot be kept as it stands, because it speaks of times that have come, and it
would have to be shown anew whenever the clock goes on. `Paced` is the law without the
clock. It says for which times the user was asked or will be asked as things stand, and
that depends on the successes alone. Time may then pass as it likes: when the pause is
over, a time that was to come has come, and nothing else changes.

One thing may go wrong, and only between two events. If a success came at the very time
at which the pause is over, but before the user was asked, the pause would begin anew and
the user would not be asked then. This is why a pause that is over is never found where
something is done with a form. All timers that are due have rung when time has passed.

Nothing else that is done with a form touches the pause (`SamePause`). An edit starts the
timer of a field and has fields judged, a submission that fails has all of them judged,
and what all of this writes down is no success and ends no pause.

## Main definitions

* `Event.isSuccess`, `Event.isMove`: A success, and the end of a pause.
* `FollowsSuccess`: A time that lies a pause behind a success, with none in between.
* `Tracker.SamePause`: As far as the pause goes, nothing happened.
* `Tracker.Paced`: When the user was asked to move on, and will be.
* `Tracker.Waiting`: No pause is over.
* `Form.moves`, `Form.successes`: When the user was asked, and when there was a success.
* `Form.completeTexts`, `Form.twoSuccesses`: A run in which a pause is cut short.

## Theorems

* `followsSuccess_append_singleton`: One more success.
* `Tracker.immediate_samePause`: An edit does not touch the pause.
* `Tracker.Paced.accept`: A success.
* `Tracker.lasting_paced`: The passing of time.
* `Form.samePause_step`: Steps that bring no success.
* `Form.paced_of_reachable`: No run breaks the law.
* `Form.moves_exact`: When the user is asked to move on.
-/

namespace ManagerSignup

section Pause

variable {κ ω : Type}

/-- A registration was accepted. -/
def Event.isSuccess : Event κ ω → Bool
  | .accepted _ => true
  | _ => false

/-- The pause was over, and the user was asked to move on. -/
def Event.isMove : Event κ ω → Bool
  | .rang .pause => true
  | _ => false

/-- The time lies a pause behind a success, and there was no other in between. -/
def FollowsSuccess (successes : List Nat) (time : Nat) : Prop :=
  ∃ success ∈ successes, success + Form.pauseLength = time ∧
    ∀ other ∈ successes, ¬(success < other ∧ other < time)

/-- With one more success, its own pause counts, and of the others those that are over. -/
theorem followsSuccess_append_singleton {successes : List Nat} {now : Nat}
    (hearlier : ∀ success ∈ successes, success ≤ now) (time : Nat) :
    FollowsSuccess (successes ++ [now]) time ↔
      time = now + Form.pauseLength ∨ FollowsSuccess successes time ∧ time ≤ now := by
  constructor
  · rintro ⟨success, hsuccess, htime, hnone⟩
    rcases List.mem_append.mp hsuccess with hbefore | hlast
    · have hle := hearlier success hbefore
      have hnow := hnone now (List.mem_append_right _ (List.mem_singleton_self _))
      by_cases hsame : success = now
      · exact Or.inl (hsame ▸ htime.symm)
      · -- The new success is not in between, so the pause was over before it.
        refine Or.inr ⟨⟨success, hbefore, htime, fun other hother => ?_⟩, by omega⟩
        exact hnone other (List.mem_append_left _ hother)
    · exact Or.inl (List.mem_singleton.mp hlast ▸ htime.symm)
  · rintro (rfl | ⟨⟨success, hsuccess, htime, hnone⟩, hover⟩)
    · refine ⟨now, List.mem_append_right _ (List.mem_singleton_self _), rfl, fun other hother => ?_⟩
      rcases List.mem_append.mp hother with hbefore | hlast
      · have hle := hearlier other hbefore
        omega
      · rw [List.mem_singleton.mp hlast]
        omega
    · refine ⟨success, List.mem_append_left _ hsuccess, htime, fun other hother => ?_⟩
      rcases List.mem_append.mp hother with hbefore | hlast
      · exact hnone other hbefore
      · rw [List.mem_singleton.mp hlast]
        omega

theorem Event.not_isMove_of_not_movesTimer {e : Event κ ω} (h : e.movesTimer = false) :
    e.isMove = false ∧ e.isSuccess = false := by
  cases e with
  | rang timer => cases h
  | accepted reply => cases h
  | _ => exact ⟨rfl, rfl⟩

namespace Tracker

/-- The times at which the user was asked to move on, in order. -/
def moves (t : Tracker κ ω) : List Nat :=
  timesOf Event.isMove t.history

/-- The times at which registrations were accepted, in order. -/
def successes (t : Tracker κ ω) : List Nat :=
  timesOf Event.isSuccess t.history

/-- What is written down besides concerns neither. -/
theorem moves_append {t t' : Tracker κ ω} {es : History κ ω}
    (hhistory : t'.history = t.history ++ es)
    (h : ∀ s ∈ es, s.event.isMove = false ∧ s.event.isSuccess = false) :
    t'.moves = t.moves ∧ t'.successes = t.successes := by
  rw [moves, successes, hhistory, timesOf_append, timesOf_append,
    timesOf_eq_nil fun s hs => (h s hs).1, timesOf_eq_nil fun s hs => (h s hs).2,
    List.append_nil, List.append_nil]
  exact ⟨rfl, rfl⟩

theorem moves_record (t : Tracker κ ω) (e : Event κ ω) (hmove : e.isMove = false)
    (hsuccess : e.isSuccess = false) :
    (t.record e).moves = t.moves ∧ (t.record e).successes = t.successes := by
  refine moves_append rfl fun s hs => ?_
  rw [List.mem_singleton.mp hs]
  exact ⟨hmove, hsuccess⟩

variable [DecidableEq κ]

/-! ### What does not touch the pause -/

/-- As far as the pause goes, a tracker is as it was. -/
structure SamePause (before t : Tracker κ ω) : Prop where
  inOrder : t.InOrder
  clock : t.clock = before.clock
  due : t.agenda.due? .pause = before.agenda.due? .pause
  moves : t.moves = before.moves
  successes : t.successes = before.successes

section SamePause

variable {before t t' : Tracker κ ω}

theorem SamePause.refl (h : t.InOrder) : SamePause t t :=
  ⟨h, rfl, rfl, rfl, rfl⟩

theorem SamePause.of_same (h : SamePause before t) (hclock : t'.clock = t.clock)
    (hagenda : t'.agenda = t.agenda) (hhistory : t'.history = t.history) :
    SamePause before t' := by
  have hsame := moves_append (hhistory.trans (List.append_nil _).symm) (List.forall_mem_nil _)
  refine ⟨h.inOrder.of_same hclock hagenda hhistory, hclock.trans h.clock, ?_,
    hsame.1.trans h.moves, hsame.2.trans h.successes⟩
  rw [hagenda]
  exact h.due

theorem SamePause.quiet (h : SamePause before t) (hquiet : Quiet t t') : SamePause before t' := by
  rcases hquiet.history with ⟨es, hes, hhistory⟩
  have hsame := moves_append hhistory fun s hs => by
    rcases List.mem_map.mp hs with ⟨e, he, rfl⟩
    exact Event.not_isMove_of_not_movesTimer (hes e he)
  refine ⟨h.inOrder.quiet hquiet, hquiet.clock.trans h.clock, ?_, hsame.1.trans h.moves,
    hsame.2.trans h.successes⟩
  rw [hquiet.agenda]
  exact h.due

theorem SamePause.record (h : SamePause before t) (e : Event κ ω) (hmove : e.isMove = false)
    (hsuccess : e.isSuccess = false) : SamePause before (t.record e) := by
  rcases t.moves_record e hmove hsuccess with ⟨hmoves, hsuccesses⟩
  refine ⟨?_, h.clock, h.due, hmoves.trans h.moves, hsuccesses.trans h.successes⟩
  exact h.inOrder.concat e rfl (Nat.le_refl _) h.inOrder.ahead

theorem SamePause.stop (h : SamePause before t) (timer : Timer κ) (hother : .pause ≠ timer) :
    SamePause before { t with agenda := t.agenda.stop timer } := by
  refine ⟨h.inOrder.stop timer, h.clock, ?_, h.moves, h.successes⟩
  rw [Agenda.due?_stop, if_neg hother]
  exact h.due

theorem SamePause.start (h : SamePause before t) (timer : Timer κ) (hother : .pause ≠ timer)
    {due : Nat} (hdue : t.clock ≤ due) :
    SamePause before { t with agenda := t.agenda.start timer due } := by
  refine ⟨h.inOrder.start timer hdue, h.clock, ?_, h.moves, h.successes⟩
  rw [Agenda.due?_start, if_neg hother]
  exact h.due

theorem SamePause.schedule (h : SamePause before t) (key : κ) :
    SamePause before (t.schedule key) := by
  unfold Tracker.schedule
  split
  · exact h
  · exact h.start _ (pause_ne_timer key _) (Nat.le_add_right _ _)

end SamePause

/-! ### The law -/

/-- When the user was asked to move on, and will be as things stand: a pause after each
    success that no other followed before. -/
structure Paced (t : Tracker κ ω) : Prop where
  inOrder : t.InOrder
  law : ∀ time, time ∈ t.moves ∨ t.agenda.due? .pause = some time ↔
    FollowsSuccess t.successes time
  rising : t.moves.Pairwise (· < ·)
  before : ∀ time ∈ t.moves, ∀ due, t.agenda.due? .pause = some due → time < due

/-- No pause is over. -/
def Waiting (t : Tracker κ ω) : Prop :=
  ∀ due, t.agenda.due? .pause = some due → t.clock < due

section Paced

variable {t t' : Tracker κ ω}

theorem Paced.of_samePause (h : Paced t) (hsame : SamePause t t') : Paced t' := by
  constructor
  case inOrder => exact hsame.inOrder
  case law =>
    rw [hsame.moves, hsame.successes, hsame.due]
    exact h.law
  case rising =>
    rw [hsame.moves]
    exact h.rising
  case before =>
    rw [hsame.moves, hsame.due]
    exact h.before

/-- In the beginning nobody is asked, and nobody will be. -/
theorem paced_new (delay : Nat) (guards : ω → Option Field) (toolTips : ω → String) :
    Paced (new delay guards toolTips : Tracker κ ω) := by
  constructor
  case inOrder => exact inOrder_new delay guards toolTips
  case law =>
    intro time
    constructor
    · rintro (hmove | hpending)
      · cases hmove
      · cases hpending
    · rintro ⟨success, hsuccess, -⟩
      cases hsuccess
  case rising => exact List.Pairwise.nil
  case before => exact List.forall_mem_nil _

theorem Paced.moves_le (h : Paced t) : ∀ time ∈ t.moves, time ≤ t.clock := by
  intro time htime
  rcases mem_timesOf.mp htime with ⟨s, hs, -, rfl⟩
  exact h.inOrder.past s hs

theorem Paced.successes_le (h : Paced t) : ∀ success ∈ t.successes, success ≤ t.clock := by
  intro success hsuccess
  rcases mem_timesOf.mp hsuccess with ⟨s, hs, -, rfl⟩
  exact h.inOrder.past s hs

/-- Where no pause is over, the user was asked at every time for which it was time. -/
theorem Paced.mem_moves_iff (h : Paced t) (hwaiting : Waiting t) (time : Nat) :
    time ∈ t.moves ↔ FollowsSuccess t.successes time ∧ time ≤ t.clock := by
  rw [← h.law time]
  constructor
  · exact fun hmove => ⟨Or.inl hmove, h.moves_le time hmove⟩
  · rintro ⟨hmove | hpending, hover⟩
    · exact hmove
    · exact absurd hover (Nat.not_le_of_lt (hwaiting time hpending))

theorem Waiting.of_samePause (h : Waiting t) (hsame : SamePause t t') : Waiting t' := by
  intro due hdue
  rw [hsame.due] at hdue
  rw [hsame.clock]
  exact h due hdue

/-- A success begins a pause, and one that is not over is begun anew. -/
theorem Paced.accept (h : Paced t) (hwaiting : Waiting t) (reply : String) {after : Tracker κ ω}
    (hafter : after = { t.record (.accepted reply) with
      agenda := t.agenda.start .pause (t.clock + Form.pauseLength) }) :
    Paced after ∧ Waiting after := by
  have hlength : 0 < Form.pauseLength := by decide
  have hdue : after.agenda.due? .pause = some (t.clock + Form.pauseLength) := by
    rw [hafter, Agenda.due?_start, if_pos rfl]
  have hmoves : after.moves = t.moves := by
    rw [hafter]
    exact (timesOf_append ..).trans (List.append_nil _)
  have hsuccesses : after.successes = t.successes ++ [t.clock] := by
    rw [hafter]
    exact timesOf_append ..
  constructor
  · constructor
    case inOrder =>
      have hstarted := h.inOrder.start .pause (Nat.le_add_right t.clock Form.pauseLength)
      rw [hafter]
      exact hstarted.concat (.accepted reply) rfl (Nat.le_refl _) hstarted.ahead
    case law =>
      intro time
      -- The pause that ran before was not over, so of the other times those count at which
      -- the user was asked.
      rw [hmoves, hdue, hsuccesses, followsSuccess_append_singleton h.successes_le,
        ← h.mem_moves_iff hwaiting, Option.some.injEq, or_comm, eq_comm]
    case rising =>
      rw [hmoves]
      exact h.rising
    case before =>
      intro time htime due hdue'
      rw [hmoves] at htime
      rw [hdue, Option.some.injEq] at hdue'
      have hpast := h.moves_le time htime
      omega
  · intro due hdue'
    rw [hdue, Option.some.injEq] at hdue'
    rw [← hdue', hafter]
    exact Nat.lt_add_of_pos_right hlength

/-- A pause that is over is a time at which the user is asked. -/
theorem Paced.rung (h : Paced t) {s : Shot (Timer κ)} {later : List (Shot (Timer κ))}
    (hshots : t.agenda.shots = s :: later) : Paced (t.rung s) := by
  have hinOrder := h.inOrder.rung hshots
  have hmem : s ∈ t.agenda.shots := hshots ▸ List.mem_cons_self ..
  have hdue : t.agenda.due? s.timer = some s.due := (t.agenda.due?_eq_some_iff _ _).mpr hmem
  rcases s with ⟨timer, due⟩
  cases timer with
  | recheck key registration =>
      -- The timer of a field rings, and to the pause that is nothing.
      have hpause : (Tracker.rung t ⟨.recheck key registration, due⟩).agenda.due? .pause =
          t.agenda.due? .pause :=
        (t.agenda.due?_stop _ _).trans (if_neg fun h => by cases h)
      have hsame : (Tracker.rung t ⟨.recheck key registration, due⟩).moves = t.moves ∧
          (Tracker.rung t ⟨.recheck key registration, due⟩).successes = t.successes := by
        refine moves_append rfl fun s hs => ?_
        rw [List.mem_singleton.mp hs]
        exact ⟨rfl, rfl⟩
      rcases hsame with ⟨hmoves, hsuccesses⟩
      refine ⟨hinOrder, ?_, ?_, ?_⟩
      · rw [hmoves, hsuccesses, hpause]
        exact h.law
      · rw [hmoves]
        exact h.rising
      · rw [hmoves, hpause]
        exact h.before
  | pause =>
      have hpause : (Tracker.rung t ⟨.pause, due⟩).agenda.due? .pause = none :=
        (t.agenda.due?_stop _ _).trans (if_pos rfl)
      have hmoves : (Tracker.rung t ⟨.pause, due⟩).moves = t.moves ++ [due] := timesOf_append ..
      have hsuccesses : (Tracker.rung t ⟨.pause, due⟩).successes = t.successes :=
        (timesOf_append ..).trans (List.append_nil _)
      -- The time that was to come has come, and no other is to come.
      refine ⟨hinOrder, fun time => ?_, ?_, fun _ _ _ hnone => ?_⟩
      · rw [hmoves, hsuccesses, hpause, ← h.law time, hdue, List.mem_append, List.mem_singleton,
          Option.some.injEq]
        constructor
        · rintro ((hmove | rfl) | hnone)
          · exact Or.inl hmove
          · exact Or.inr rfl
          · cases hnone
        · rintro (hmove | rfl)
          · exact Or.inl (Or.inl hmove)
          · exact Or.inl (Or.inr rfl)
      · rw [hmoves, List.pairwise_append]
        refine ⟨h.rising, List.pairwise_singleton _ _, fun time htime time' htime' => ?_⟩
        rw [List.mem_singleton.mp htime']
        exact h.before time htime due hdue
      · rw [hpause] at hnone
        cases hnone

end Paced

variable [DecidableEq ω] [Named κ]

theorem SamePause.recheck {before t : Tracker κ ω} (h : SamePause before t) (key : κ) :
    SamePause before (t.recheck key) := by
  refine t.recheck_of_forget key h fun field _ => ?_
  have hstopped := h.stop (timer key field) (pause_ne_timer key field)
  have hforgot : SamePause before (t.forget key field) := by
    refine SamePause.record (hstopped.of_same ?_ ?_ ?_) (.rechecked key) rfl rfl
    all_goals rfl
  exact hforgot.quiet (quiet_validate _ key)

/-- An edit does not touch the pause, whatever hears of it. -/
theorem immediate_samePause (before : Tracker κ ω) : Immediate (SamePause before) where
  noted t entry h := h.record (.noted entry) rfl rfl
  changed t w value h := by
    refine List.foldlRecOn _ _ (h.record (.changed w value) rfl rfl) fun t ht l _ => ?_
    cases l with
    | recheckSoon key => exact ht.schedule key
    | recheckNow key => exact ht.recheck key
  recheck t key h := h.recheck key

theorem SamePause.act {before t : Tracker κ ω} (h : SamePause before t) (w : ω) (a : Action) :
    SamePause before (t.act w a).1 :=
  (immediate_samePause before).act t w a (h.of_same rfl rfl rfl)

theorem SamePause.register {before t : Tracker κ ω} (h : SamePause before t) (key : κ) (w : ω)
    (check : Check ω) (required : Bool) :
    SamePause before (t.register key w check required) := by
  have hjoined : SamePause before (t.joined key w check required) := by
    refine SamePause.record (h.of_same ?_ ?_ ?_) (.registered key) rfl rfl
    all_goals rfl
  exact hjoined.quiet (quiet_validate _ key)

/-- The law survives the passing of time. -/
theorem lasting_paced : Lasting (Paced (κ := κ) (ω := ω)) where
  fire t s later hshots h := by
    have hrung := h.rung hshots
    exact hrung.of_samePause ((SamePause.refl hrung.inOrder).quiet (t.quiet_fire s))
  wait t time hclock hnone h := ⟨h.inOrder.wait hclock hnone, h.law, h.rising, h.before⟩

/-- When time has passed, no pause is over. -/
theorem waiting_advance (t : Tracker κ ω) (ms : Nat) : Waiting (t.advance ms) := by
  intro due hdue
  rw [Agenda.due?_eq_some_iff] at hdue
  exact ((t.mem_shots_advance ms _).mp hdue).2

end Tracker

end Pause

/-! ### The form -/

namespace Form

open Tracker (SamePause Paced Waiting)

/-- The times at which the user was asked to move on, in order. -/
def moves (form : Form) : List Nat :=
  form.tracker.moves

/-- The times at which registrations were accepted, in order. -/
def successes (form : Form) : List Nat :=
  form.tracker.successes

section

variable {before t : Tracker Input Input}

theorem samePause_emptied (h : SamePause before t) : SamePause before (emptied t) :=
  List.foldlRecOn _ _ h fun _ ht i _ => ht.act i (.setText [])

/-- A submission under way has written down what became of it, which is no success yet. -/
theorem samePause_underWay (form : Form) (h : form.tracker.InOrder) :
    SamePause form.tracker form.underWay.tracker := by
  have hoff := (SamePause.refl h).quiet (form.tracker.quiet_setButton false)
  refine hoff.quiet (Tracker.quiet_recordAll _ _ fun e he => ?_)
  rcases List.mem_append.mp he with hlog | hsent
  · rcases List.mem_map.mp hlog with ⟨entry, -, rfl⟩
    rfl
  · rcases List.mem_map.mp hsent with ⟨record, -, rfl⟩
    rfl

theorem samePause_fail (form : Form) (x : Failure) (h : SamePause before form.tracker) :
    SamePause before (form.fail x).tracker := by
  have hreported : SamePause before (recordReport form.tracker (failureReport x)) := by
    refine SamePause.record (h.quiet (Tracker.quiet_recordAll _ _ fun e he => ?_))
      (.reported (failureReport x).error) rfl rfl
    rcases List.mem_map.mp he with ⟨entry, -, rfl⟩
    rfl
  have hjudged := (Tracker.immediate_samePause before).recheckAll _ hreported
  rw [tracker_fail]
  exact hjudged.quiet (Tracker.quiet_setButton _ _)

/-- What takes no time and brings no success does not touch the pause. -/
theorem samePause_step (form : Form) (h : form.tracker.InOrder) (s : Step)
    (hnow : ∀ ms, s ≠ .advance ms)
    (hnone : ∀ reply, ¬(form.submits s ∧ form.outcome.result = .ok reply)) :
    SamePause form.tracker (form.step s).1.tracker := by
  have hrefl := SamePause.refl h
  by_cases hsubmits : form.submits s
  · rw [step_of_submits form s hsubmits]
    cases hresult : form.outcome.result with
    | ok reply => exact absurd ⟨hsubmits, hresult⟩ (hnone reply)
    | error x =>
        rw [form.submit_of_error hresult]
        exact samePause_fail _ x (form.samePause_underWay h)
  · cases s with
    | act i a => exact hrefl.act i a
    | fill texts => exact List.foldlRecOn _ _ hrefl fun _ ht entry _ => ht.act entry.1 _
    | click =>
        -- A click that submits nothing does nothing.
        have hsame : form.click = form := if_neg hsubmits
        change SamePause form.tracker form.click.tracker
        rw [hsame]
        exact hrefl
    | submit => exact absurd rfl hsubmits
    | clear =>
        change SamePause form.tracker form.clear.tracker
        rw [tracker_clear]
        exact (Tracker.immediate_samePause _).recheckAll _ (samePause_emptied hrefl)
    | advance ms => exact absurd rfl (hnow ms)

end

/-- What a success makes of the pause. -/
theorem paced_succeed (form : Form) (reply : String) (h : Paced form.tracker)
    (hwaiting : Waiting form.tracker) :
    Paced (form.succeed reply).tracker ∧ Waiting (form.succeed reply).tracker ∧
      (form.succeed reply).moves = form.moves ∧
      (form.succeed reply).successes = form.successes ++ [form.tracker.clock] := by
  -- The inputs are emptied before the pause begins, and that has them all judged.
  have hnoted := (SamePause.refl h.inOrder).record (.noted acceptedEntry) rfl rfl
  have hcleared := (Tracker.immediate_samePause _).recheckAll _ (samePause_emptied hnoted)
  have hstarted := tracker_succeed form reply
  rw [afterSuccess] at hstarted
  generalize (emptied (form.tracker.record (.noted acceptedEntry))).recheckAll = cleared
    at hcleared hstarted
  rcases (h.of_samePause hcleared).accept (hwaiting.of_samePause hcleared) reply hstarted with
    ⟨hpaced, hstill⟩
  refine ⟨hpaced, hstill, ?_, ?_⟩
  · rw [moves, moves, hstarted, ← hcleared.moves]
    exact (timesOf_append ..).trans (List.append_nil _)
  · rw [successes, successes, hstarted, ← hcleared.successes, ← hcleared.clock]
    exact timesOf_append ..

/-- A submission that succeeds, as a step. -/
theorem paced_step_of_ok (form : Form) (h : Paced form.tracker) (hwaiting : Waiting form.tracker)
    (s : Step) {reply : String} (hsubmits : form.submits s)
    (hresult : form.outcome.result = .ok reply) :
    Paced (form.step s).1.tracker ∧ Waiting (form.step s).1.tracker ∧
      (form.step s).1.moves = form.moves ∧
      (form.step s).1.successes = form.successes ++ [form.tracker.clock] := by
  have hunder := form.samePause_underWay h.inOrder
  have hsucceeded := form.underWay.paced_succeed reply (h.of_samePause hunder)
    (hwaiting.of_samePause hunder)
  rw [step_of_submits form s hsubmits, form.submit_of_ok hresult]
  rw [moves, moves, successes, successes, hunder.moves, hunder.successes, hunder.clock]
    at hsucceeded
  exact hsucceeded

theorem paced_step (form : Form) (h : Paced form.tracker) (hwaiting : Waiting form.tracker)
    (s : Step) : Paced (form.step s).1.tracker ∧ Waiting (form.step s).1.tracker := by
  by_cases htime : ∃ ms, s = .advance ms
  · rcases htime with ⟨ms, rfl⟩
    exact ⟨Tracker.lasting_paced.advance form.tracker ms h, form.tracker.waiting_advance ms⟩
  · by_cases hsuccess : ∃ reply, form.submits s ∧ form.outcome.result = .ok reply
    · rcases hsuccess with ⟨reply, hsubmits, hresult⟩
      have hstep := form.paced_step_of_ok h hwaiting s hsubmits hresult
      exact ⟨hstep.1, hstep.2.1⟩
    · have hsame := form.samePause_step h.inOrder s (fun ms hms => htime ⟨ms, hms⟩)
        fun reply hreply => hsuccess ⟨reply, hreply⟩
      exact ⟨h.of_samePause hsame, hwaiting.of_samePause hsame⟩

/-- A form begins without a pause. -/
theorem Opened.paced {form : Form} (h : form.Opened) :
    Paced form.tracker ∧ Waiting form.tracker := by
  have hpaced : Paced blankInputs := Tracker.paced_new _ _ _
  have hwaiting : Waiting blankInputs := fun due hdue => by cases hdue
  rcases h.tracker_eq with ⟨es, hes, htracker⟩
  have hrecorded : SamePause blankInputs (blankInputs.recordAll es) := by
    refine (SamePause.refl hpaced.inOrder).quiet (blankInputs.quiet_recordAll es fun e he => ?_)
    rcases hes e he with ⟨_, rfl⟩ | ⟨_, rfl⟩
    · rfl
    · rfl
  have hregistered : SamePause blankInputs
      (Input.all.foldl registerInput (blankInputs.recordAll es)) :=
    List.foldlRecOn _ _ hrecorded fun _ ht i _ => ht.register i i (check i) true
  have hconnected : SamePause blankInputs (connected (blankInputs.recordAll es)) := by
    unfold connected
    generalize Input.all.foldl registerInput (blankInputs.recordAll es) = registered
      at hregistered ⊢
    exact hregistered.of_same rfl rfl rfl
  have hsame : SamePause blankInputs form.tracker := by
    rw [htracker, trackInputs_eq]
    exact ((Tracker.immediate_samePause _).recheckAll _ hconnected).quiet
      (Tracker.quiet_setButton _ _)
  exact ⟨hpaced.of_samePause hsame, hwaiting.of_samePause hsame⟩

/-- No run breaks the law, and none leaves a pause that is over. -/
theorem paced_of_reachable (form : Form) (h : form.Reachable anyEdit) :
    Paced form.tracker ∧ Waiting form.tracker := by
  induction h with
  | opened form hform => exact hform.paced
  | step form s _ _ ih => exact form.paced_step ih.1 ih.2 s

/-- In every run of a form, at every time that has come, the user was asked to move on if
    and only if there was a success 1500 milliseconds before and none in between. So the
    user is asked once at a time and no more often than there were successes. Whatever is
    done at once leaves all this as it is: a submission that succeeds begins the pause, and
    nothing else touches it. -/
theorem moves_exact (form : Form) (h : form.Reachable anyEdit) :
    (∀ time ≤ form.tracker.clock, time ∈ form.moves ↔
      ∃ success ∈ form.successes, success + 1500 = time ∧
        ∀ other ∈ form.successes, ¬(success < other ∧ other < time)) ∧
    (∀ time ∈ form.moves, time ≤ form.tracker.clock) ∧
    form.moves.Pairwise (· < ·) ∧ form.moves.length ≤ form.successes.length ∧
    ∀ s, (∀ ms, s ≠ .advance ms) →
      (form.step s).1.moves = form.moves ∧
      (∀ reply, form.submits s ∧ form.outcome.result = .ok reply →
        (form.step s).1.successes = form.successes ++ [form.tracker.clock]) ∧
      ((∀ reply, ¬(form.submits s ∧ form.outcome.result = .ok reply)) →
        (form.step s).1.successes = form.successes ∧
          (form.step s).1.tracker.agenda.due? .pause = form.tracker.agenda.due? .pause) := by
  rcases form.paced_of_reachable h with ⟨hpaced, hwaiting⟩
  have hexact : ∀ time, time ∈ form.moves ↔
      FollowsSuccess form.successes time ∧ time ≤ form.tracker.clock :=
    hpaced.mem_moves_iff hwaiting
  have hcounted : form.moves.length ≤ form.successes.length := by
    -- No two times lie a pause behind the same success.
    have honce : form.moves.Nodup := hpaced.rising.imp Nat.ne_of_lt
    have hsub : form.moves ⊆ form.successes.map (· + pauseLength) := by
      intro time htime
      rcases ((hexact time).mp htime).1 with ⟨success, hsuccess, hpause, -⟩
      exact List.mem_map.mpr ⟨success, hsuccess, hpause⟩
    have hle := (List.subperm_of_subset honce hsub).length_le
    rwa [List.length_map] at hle
  refine ⟨fun time htime => (hexact time).trans (and_iff_left htime), hpaced.moves_le,
    hpaced.rising, hcounted, fun s hnow => ?_⟩
  by_cases hsuccess : ∃ reply, form.submits s ∧ form.outcome.result = .ok reply
  · rcases hsuccess with ⟨reply, hsubmits, hresult⟩
    rcases form.paced_step_of_ok hpaced hwaiting s hsubmits hresult with
      ⟨-, -, hmoves, hsuccesses⟩
    exact ⟨hmoves, fun _ _ => hsuccesses, fun hnone => absurd ⟨hsubmits, hresult⟩ (hnone reply)⟩
  · have hsame := form.samePause_step hpaced.inOrder s hnow
      fun reply hreply => hsuccess ⟨reply, hreply⟩
    exact ⟨hsame.moves, fun reply hreply => absurd ⟨reply, hreply⟩ hsuccess,
      fun _ => ⟨hsame.successes, hsame.due⟩⟩

/-- Everything that has to be entered. -/
def completeTexts : List (Input × Text) :=
  [(.guarded .name, ['A', 'n', 'a']), (.guarded .username, ['a', '.', 'b']),
    (.guarded .documentNumber, ['1', '0', '5']), (.guarded .dialCode, ['+', '5', '7']),
    (.guarded .phoneNumber, ['3', '0', '0', '1', '2', '3', '4', '5', '6', '7']),
    (.password, ['p', 'w']), (.confirmation, ['p', 'w']), (.documentType, ['c', 'c'])]

/-- Two successes within one pause, with a failure and an edit behind them. -/
def twoSuccesses : List Step :=
  [.advance 200, .fill completeTexts, .submit, .advance 1000, .fill completeTexts, .submit,
    .submit, .act .password (.setText ['x']), .advance 3000]

/-- The first success is not answered, since the second one begins the pause anew. -/
theorem moves_exact_twoSuccesses :
    let after := (forOrganization "Acme" .dryRun).run twoSuccesses
    after.Reachable anyEdit ∧ after.successes = [200, 1200] ∧ 2700 ∈ after.moves ∧
      1700 ∉ after.moves ∧ after.moves.length ≤ 2 := by
  intro after
  have hopened : (forOrganization "Acme" .dryRun).Reachable anyEdit :=
    .opened _ (.forOrganization "Acme" .dryRun)
  have hafter := hopened.run twoSuccesses fun s _ form => form.allows_anyEdit s
  have hsuccesses : after.successes = [200, 1200] := by decide +kernel
  have hclock : after.tracker.clock = 4200 := by decide +kernel
  rcases moves_exact after hafter with ⟨hexact, -, -, hcounted, -⟩
  rw [hsuccesses, hclock] at hexact
  rw [hsuccesses] at hcounted
  exact ⟨hafter, hsuccesses, (hexact 2700 (by decide)).mpr (by decide),
    mt (hexact 1700 (by decide)).mp (by decide), hcounted⟩

end Form

end ManagerSignup
