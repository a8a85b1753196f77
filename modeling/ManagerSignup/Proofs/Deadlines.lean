import ManagerSignup.Proofs.TrackerRuns

/-!
# When Timers Ring

No timer of a tracker is due later than its delay from now, so waiting that long
lets all of them ring.

A timer is only ever started with the delay of its tracker, at the time it is
started, and time only goes on. That is the whole reason, and it holds of timers
that nobody waits for any more as well: one that a replaced field left behind was
started like any other. Judging neither starts nor stops a timer, so what waiting
does to the agenda can be said without looking at what rings. A shot is there
afterwards if it was there before and is due later.

## Main definitions

* `Tracker.Punctual`: No timer is due later than the delay from now.

## Theorems

* `Tracker.mem_shots_advance`: Which shots are left after waiting.
* `Tracker.timeless_punctual`, `Tracker.Punctual.step`, `Tracker.punctual_run`: No
  run makes a timer late.
* `Tracker.Punctual.isPending_advance`: After the delay no timer runs.
-/

namespace ManagerSignup

namespace Tracker

variable {κ ω : Type}

/-- No timer is due later than the delay from now. -/
def Punctual (t : Tracker κ ω) : Prop :=
  ∀ s ∈ t.agenda.shots, s.due ≤ t.clock + t.delay

/-- What leaves the clock, the delay and the agenda as they were. -/
theorem Punctual.of_undisturbed {t t' : Tracker κ ω} (h : Punctual t) (hsame : Undisturbed t t') :
    Punctual t' := by
  intro s hs
  rw [hsame.agenda] at hs
  rw [hsame.clock, hsame.delay]
  exact h s hs

variable [DecidableEq κ] [DecidableEq ω] [Named κ]

/-- A timer that rings starts no other. -/
theorem agenda_fire (t : Tracker κ ω) (s : Shot (Timer κ)) :
    (t.fire s).agenda = t.agenda.stop s.timer := by
  unfold fire ring
  cases s.timer with
  | recheck key registration => exact (validate_undisturbed _ key).agenda
  | pause => rfl

theorem mem_shots_foldl_fire (rings : List (Shot (Timer κ))) (t : Tracker κ ω)
    (s : Shot (Timer κ)) :
    s ∈ (rings.foldl fire t).agenda.shots ↔
      s ∈ t.agenda.shots ∧ s.timer ∉ rings.map Shot.timer := by
  induction rings generalizing t with
  | nil => exact ⟨fun h => ⟨h, List.not_mem_nil⟩, fun h => h.1⟩
  | cons first rest ih =>
      rw [List.foldl_cons, ih, agenda_fire, Agenda.mem_shots_stop, List.map_cons, List.mem_cons,
        not_or, and_assoc]

/-- After waiting the shots are left that are due later. -/
theorem mem_shots_advance (t : Tracker κ ω) (ms : Nat) (s : Shot (Timer κ)) :
    s ∈ (t.advance ms).agenda.shots ↔ s ∈ t.agenda.shots ∧ t.clock + ms < s.due := by
  change s ∈ ((t.agenda.dueBy (t.clock + ms)).foldl fire t).agenda.shots ↔ _
  rw [mem_shots_foldl_fire]
  refine and_congr_right fun hs => ?_
  rw [t.agenda.timer_mem_dueBy_iff (t.clock + ms) s hs, Nat.not_le]

/-- Judging a field at once stops a timer at most. -/
theorem recheck_starts_none (t : Tracker κ ω) (key : κ) :
    (t.recheck key).clock = t.clock ∧ (t.recheck key).delay = t.delay ∧
      ∀ s ∈ (t.recheck key).agenda.shots, s ∈ t.agenda.shots := by
  cases hkey : t.field? key with
  | none =>
      rw [Tracker.recheck, hkey]
      exact ⟨rfl, rfl, fun _ hs => hs⟩
  | some field =>
      have hjudged := (t.forget key field).validate_undisturbed key
      rw [recheck_eq_validate_forget t key field hkey, hjudged.clock, hjudged.delay, hjudged.agenda]
      exact ⟨rfl, rfl, fun s hs => ((t.agenda.mem_shots_stop (timer key field) s).mp hs).1⟩

/-- The delay is settled when a tracker is made. -/
theorem stable_delay (delay : Nat) : Stable fun t : Tracker κ ω => t.delay = delay where
  record _ _ _ h := h
  timers _ _ _ h := h
  validate t key h := (t.validate_undisturbed key).delay.trans h
  recheck t key h := (t.recheck_starts_none key).2.1.trans h

/-- What happens at once makes no timer late. -/
theorem timeless_punctual : Timeless (Punctual (κ := κ) (ω := ω)) where
  record t e _ h := h.of_undisturbed (t.record_undisturbed e)
  schedule t key h := by
    unfold Tracker.schedule
    split
    · exact h
    · next field _ =>
      intro s hs
      rcases (t.agenda.mem_shots_start _ _ s).mp hs with rfl | ⟨hold, -⟩
      · exact Nat.le_refl _
      · exact h s hold
  validate t key h := h.of_undisturbed (t.validate_undisturbed key)
  recheck t key h := by
    rcases t.recheck_starts_none key with ⟨hclock, hdelay, hsub⟩
    intro s hs
    rw [hclock, hdelay]
    exact h s (hsub s hs)

/-- Time goes on and brings no shot with it. -/
theorem Punctual.advance {t : Tracker κ ω} (h : Punctual t) (ms : Nat) :
    Punctual (t.advance ms) := by
  intro s hs
  have hbefore := h s ((t.mem_shots_advance ms s).mp hs).1
  rw [(stable_delay t.delay).advance t ms rfl]
  change s.due ≤ t.clock + ms + t.delay
  omega

theorem Punctual.step {t : Tracker κ ω} (h : Punctual t) (s : Step κ ω) :
    Punctual (t.step s).1 := by
  cases s with
  | register key w check required =>
      have hjoined : Punctual (t.joined key w check required) := h
      exact hjoined.of_undisturbed (validate_undisturbed _ key)
  | act w a => exact timeless_punctual.act t w a h
  | recheck key => exact timeless_punctual.recheck t key h
  | recheckAll => exact timeless_punctual.recheckAll t h
  | advance ms => exact h.advance ms
  | cleanup =>
      -- One timer is stopped after the other, and none of them is started.
      intro s hs
      refine h s ?_
      revert hs
      refine List.foldlRecOn (motive := fun a : Agenda (Timer κ) =>
        s ∈ a.shots → s ∈ t.agenda.shots) t.fields _ id fun a ha entry _ hs => ?_
      exact ha ((a.mem_shots_stop _ s).mp hs).1
  | setToolTip w tip => exact h.of_undisturbed (t.setToolTip_undisturbed w tip)

theorem punctual_run (delay : Nat) (guards : ω → Option Field) (toolTips : ω → String)
    (steps : List (Step κ ω)) : Punctual ((new delay guards toolTips).run steps) :=
  List.foldlRecOn _ _ (fun _ hs => absurd hs List.not_mem_nil)
    fun _ ht s _ => Punctual.step ht s

theorem delay_step (t : Tracker κ ω) (s : Step κ ω) : (t.step s).1.delay = t.delay := by
  cases s with
  | register key w check required => exact (validate_undisturbed _ key).delay
  | act w a => exact (stable_delay t.delay).act t w a rfl
  | recheck key => exact (stable_delay t.delay).recheck t key rfl
  | recheckAll => exact (stable_delay t.delay).recheckAll t rfl
  | advance ms => exact (stable_delay t.delay).advance t ms rfl
  | cleanup => rfl
  | setToolTip w tip => rfl

theorem delay_run (t : Tracker κ ω) (steps : List (Step κ ω)) :
    (t.run steps).delay = t.delay :=
  List.foldlRecOn (motive := fun t' : Tracker κ ω => t'.delay = t.delay) steps _ rfl
    fun t' ht s _ => (t'.delay_step s).trans ht

/-- Once the delay has passed no timer runs. -/
theorem Punctual.isPending_advance {t : Tracker κ ω} (h : Punctual t) (ms : Nat)
    (hms : t.delay ≤ ms) (timer : Timer κ) : (t.advance ms).agenda.isPending timer = false := by
  have hnone : (t.advance ms).agenda.shots = [] := by
    rw [List.eq_nil_iff_forall_not_mem]
    intro s hs
    rcases (t.mem_shots_advance ms s).mp hs with ⟨hold, hlater⟩
    have hdue := h s hold
    omega
  rw [Agenda.isPending, Agenda.due?, hnone]
  rfl

end Tracker

end ManagerSignup
