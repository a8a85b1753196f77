/-!
# Agendas

Timers that are running, in the order in which they will ring.

A timer rings once and has at most one shot at a time: starting it again gives
up the shot it had. Of two shots that are due at the same time the one that was
started first rings first. Both rules are kept by where a shot is put. It goes
behind everything that is due no later than it, so the list is always sorted by
time, and among equals by the start; there is no clock and no counter in it.

An agenda says what is to come and not what time it is. Whoever owns it asks for
what is due by some time, and takes each shot off as it rings.

## Main definitions

* `Shot`: A timer with the time at which it is due.
* `Agenda`: Shots in the order in which they will ring.
* `Agenda.start`, `Agenda.stop`: Starting and stopping a timer.
* `Agenda.due?`: When a timer is due.
* `Agenda.dueBy`: The shots that are due by some time.

## Theorems

* `Agenda.map_timer_place`, `Agenda.place_inOrder`: Where a shot is put.
-/

namespace ManagerSignup

/-- A timer with the time at which it is due. -/
structure Shot (τ : Type) where
  timer : τ
  due : Nat
  deriving DecidableEq, Repr

/-- Putting a shot behind everything that is due no later than it. -/
def Shot.place {τ : Type} (s : Shot τ) : List (Shot τ) → List (Shot τ)
  | [] => [s]
  | x :: rest => if x.due ≤ s.due then x :: s.place rest else s :: x :: rest

/-- Shots in the order in which they will ring, at most one for a timer. -/
structure Agenda (τ : Type) where
  shots : List (Shot τ)
  once : (shots.map Shot.timer).Nodup
  inOrder : shots.Pairwise (fun a b => a.due ≤ b.due)

namespace Agenda

variable {τ : Type}

theorem mem_place {s x : Shot τ} {l : List (Shot τ)} : x ∈ s.place l ↔ x = s ∨ x ∈ l := by
  induction l with
  | nil => simp [Shot.place]
  | cons y rest ih =>
      by_cases h : y.due ≤ s.due
      · simp only [Shot.place, h, if_true, List.mem_cons, ih]
        constructor <;> rintro (h | h | h) <;> simp [h]
      · simp [Shot.place, h]

theorem place_inOrder (s : Shot τ) {l : List (Shot τ)}
    (h : l.Pairwise (fun a b => a.due ≤ b.due)) :
    (s.place l).Pairwise (fun a b => a.due ≤ b.due) := by
  induction l with
  | nil => simp [Shot.place]
  | cons y rest ih =>
      have hy := List.pairwise_cons.1 h
      by_cases hle : y.due ≤ s.due
      · simp only [Shot.place, hle, if_true]
        refine List.pairwise_cons.2 ⟨fun x hx => ?_, ih hy.2⟩
        rcases mem_place.1 hx with rfl | hx
        · exact hle
        · exact hy.1 x hx
      · simp only [Shot.place, hle, if_false]
        refine List.pairwise_cons.2 ⟨fun x hx => ?_, h⟩
        rcases List.mem_cons.1 hx with rfl | hx
        · omega
        · have := hy.1 x hx
          omega

theorem map_timer_place (s : Shot τ) (l : List (Shot τ)) :
    ((s.place l).map Shot.timer).Perm (s.timer :: l.map Shot.timer) := by
  induction l with
  | nil => exact .refl _
  | cons y rest ih =>
      by_cases h : y.due ≤ s.due
      · simp only [Shot.place, h, if_true, List.map_cons]
        exact (ih.cons _).trans (.swap _ _ _)
      · simp only [Shot.place, h, if_false, List.map_cons]
        exact .refl _

/-- No timer runs. -/
def empty : Agenda τ :=
  { shots := [], once := List.nodup_nil, inOrder := List.Pairwise.nil }

variable [DecidableEq τ]

/-- Stopping a timer; one that does not run is left alone. -/
def stop (a : Agenda τ) (timer : τ) : Agenda τ :=
  { shots := a.shots.filter fun s => s.timer ≠ timer
    once := a.once.sublist (List.filter_sublist.map _)
    inOrder := a.inOrder.filter _ }

theorem timer_notMem_stop (a : Agenda τ) (timer : τ) :
    timer ∉ (a.stop timer).shots.map Shot.timer := by
  simp only [stop, List.mem_map, List.mem_filter, decide_eq_true_eq]
  rintro ⟨s, ⟨_, h⟩, rfl⟩
  exact h rfl

/-- Starting a timer that is due at some time; a shot it had before is given
    up. -/
def start (a : Agenda τ) (timer : τ) (due : Nat) : Agenda τ :=
  { shots := Shot.place ⟨timer, due⟩ (a.stop timer).shots
    once := (map_timer_place _ _).nodup_iff.2
      (List.nodup_cons.2 ⟨a.timer_notMem_stop timer, (a.stop timer).once⟩)
    inOrder := place_inOrder _ (a.stop timer).inOrder }

/-- When a timer is due, if it runs. -/
def due? (a : Agenda τ) (timer : τ) : Option Nat :=
  (a.shots.find? fun s => s.timer = timer).map Shot.due

/-- The timer runs. -/
def isPending (a : Agenda τ) (timer : τ) : Bool :=
  (a.due? timer).isSome

/-- The shots that are due by some time, in the order in which they ring. -/
def dueBy (a : Agenda τ) (limit : Nat) : List (Shot τ) :=
  a.shots.filter fun s => s.due ≤ limit

end Agenda

end ManagerSignup
