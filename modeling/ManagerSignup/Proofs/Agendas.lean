import ManagerSignup.Agenda
import Mathlib.Data.List.Nodup

/-!
# Which Timers Run

Starting a timer makes it run, stopping it makes it not run, and neither touches
another timer.

Where a shot stands among the others decides the order in which timers ring; when
a timer is due, and that it runs at all, is only a matter of its own shot. A timer
that is started gives up the shot it had first, so the new one is the one that is
found, wherever it was put.

## Theorems

* `Agenda.find?_place`: The shot that is found for a timer.
* `Agenda.due?_stop`, `Agenda.due?_start`: When timers are due after one was
  stopped or started.
* `Agenda.isPending_stop`, `Agenda.isPending_start`: Which timers run then.
* `Agenda.mem_shots_stop`, `Agenda.mem_shots_start`: Which shots there are then.
* `Agenda.timer_mem_dueBy_iff`: A shot rings by some time if it is due by then.
-/

namespace ManagerSignup

namespace Agenda

variable {τ : Type}

/-- The timer of a shot rings by some time if and only if the shot is due by then,
    since it is the only shot the timer has. -/
theorem timer_mem_dueBy_iff (a : Agenda τ) (limit : Nat) (s : Shot τ) (h : s ∈ a.shots) :
    s.timer ∈ (a.dueBy limit).map Shot.timer ↔ s.due ≤ limit := by
  rw [List.mem_map]
  constructor
  · rintro ⟨s', hs', htimer⟩
    rw [dueBy, List.mem_filter, decide_eq_true_eq] at hs'
    rw [← List.inj_on_of_nodup_map a.once hs'.1 h htimer]
    exact hs'.2
  · intro hdue
    refine ⟨s, ?_, rfl⟩
    rw [dueBy, List.mem_filter, decide_eq_true_eq]
    exact ⟨h, hdue⟩

variable [DecidableEq τ]

/-- Of shots in which a timer has none yet, one that is put among them is the one
    that is found for it, and for other timers nothing changes. -/
theorem find?_place (s : Shot τ) (l : List (Shot τ)) (hnew : s.timer ∉ l.map Shot.timer)
    (timer : τ) :
    (s.place l).find? (fun x => x.timer = timer) =
      if timer = s.timer then some s else l.find? fun x => x.timer = timer := by
  induction l with
  | nil =>
      by_cases htimer : timer = s.timer
      · simp only [Shot.place, List.find?_cons, htimer, decide_true, if_true]
      · simp only [Shot.place, List.find?_cons, List.find?_nil, Ne.symm htimer, decide_false,
          if_neg htimer]
  | cons x rest ih =>
      rw [List.map_cons, List.mem_cons, not_or] at hnew
      have hrest := ih hnew.2
      by_cases htimer : timer = s.timer
      · rw [if_pos htimer] at hrest ⊢
        -- The shot before it is another timer's.
        have hne : x.timer ≠ timer := fun h => hnew.1 (h.trans htimer).symm
        by_cases hle : x.due ≤ s.due
        · simp only [Shot.place, hle, if_true, List.find?_cons, hne, decide_false, hrest]
        · simp only [Shot.place, hle, if_false, List.find?_cons, htimer, decide_true]
      · rw [if_neg htimer] at hrest ⊢
        by_cases hle : x.due ≤ s.due
        · simp only [Shot.place, hle, if_true, List.find?_cons, hrest]
        · simp only [Shot.place, hle, if_false, List.find?_cons, Ne.symm htimer, decide_false]

theorem due?_stop (a : Agenda τ) (timer other : τ) :
    (a.stop timer).due? other = if other = timer then none else a.due? other := by
  simp only [due?, stop, List.find?_filter]
  by_cases h : other = timer
  · -- What would be found is what was struck out.
    have hnone : a.shots.find? (fun s => decide (decide (s.timer ≠ timer) = true ∧
        decide (s.timer = other) = true)) = none := by
      rw [List.find?_eq_none]
      intro s _
      simp only [h, decide_eq_true_eq, ne_eq, not_and_self, not_false_eq_true]
    rw [if_pos h, hnone, Option.map_none]
  · have hsame : (fun s : Shot τ => decide (decide (s.timer ≠ timer) = true ∧
        decide (s.timer = other) = true)) = fun s => decide (s.timer = other) := by
      funext s
      by_cases hs : s.timer = other
      · simp only [hs, ne_eq, h, not_false_eq_true, decide_true, and_self]
      · simp only [hs, decide_false, Bool.false_eq_true, and_false]
    rw [if_neg h, hsame]

theorem due?_start (a : Agenda τ) (timer other : τ) (due : Nat) :
    (a.start timer due).due? other = if other = timer then some due else a.due? other := by
  have hplaced := find?_place ⟨timer, due⟩ (a.stop timer).shots (a.timer_notMem_stop timer) other
  have hstopped := a.due?_stop timer other
  rw [due?, start, hplaced]
  by_cases h : other = timer
  · rw [if_pos h, if_pos h]
    rfl
  · rw [if_neg h] at hstopped
    rw [if_neg h, if_neg h]
    exact hstopped

theorem isPending_stop (a : Agenda τ) (timer other : τ) :
    (a.stop timer).isPending other ↔ other ≠ timer ∧ a.isPending other := by
  rw [isPending, due?_stop, isPending]
  by_cases h : other = timer
  · simp only [h, if_true, Option.isSome_none, Bool.false_eq_true, ne_eq, not_true_eq_false,
      false_and]
  · simp only [h, if_false, ne_eq, not_false_eq_true, true_and]

theorem isPending_start (a : Agenda τ) (timer other : τ) (due : Nat) :
    (a.start timer due).isPending other ↔ other = timer ∨ a.isPending other := by
  rw [isPending, due?_start, isPending]
  by_cases h : other = timer
  · simp only [h, if_true, Option.isSome_some, true_or]
  · simp only [h, if_false, false_or]

theorem mem_shots_stop (a : Agenda τ) (timer : τ) (s : Shot τ) :
    s ∈ (a.stop timer).shots ↔ s ∈ a.shots ∧ s.timer ≠ timer := by
  rw [stop, List.mem_filter, decide_eq_true_eq]

theorem mem_shots_start (a : Agenda τ) (timer : τ) (due : Nat) (s : Shot τ) :
    s ∈ (a.start timer due).shots ↔ s = ⟨timer, due⟩ ∨ s ∈ a.shots ∧ s.timer ≠ timer := by
  rw [start, mem_place, mem_shots_stop]

end Agenda

end ManagerSignup
