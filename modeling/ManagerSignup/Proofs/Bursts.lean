import Mathlib.Data.List.Chain
import Mathlib.Data.List.Induction
import ManagerSignup.Proofs.Timelines

/-!
# Edits and Their Answers

What a history tells about the edits of a widget and the answers of a field that hears
of them.

A field answers an edit when its timer rings, when it is judged at once, and when it is
registered, since it is judged then too. An edit that was not answered yet is open. There
may be several of them, and the last one counts, because it has started the timer anew.
`openSince` reads that time off the history, an event at a time, and forgets what came
before whenever the field answers.

When timers ring can be said of the history alone (`RungOnTime`): at each ring the last
open edit lay a delay behind, and there was one. This is enough to know what comes of a
burst of edits. As long as each edit comes before the delay of the one before it is over,
no ring finds an edit that lies so far behind. After the last edit there may be one ring,
and then nothing is open, so there is no second. The induction is on what was written down
since the first edit of the burst, and what it carries along is that there either was no
ring yet or exactly that one.

## Main definitions

* `Event.isChangeOf`, `Event.isRingOf`, `Event.answers`: Edits and answers.
* `openSince`: When the last edit that is open was made.
* `RungOnTime`: Each ring came a delay after the last open edit.
* `Burst`, `beginsBurst`: Edits of which each follows the one before within the delay.
* `lastEdit`: The time of the last of them.

## Theorems

* `openSince_eq_some_iff`, `isSome_openSince_iff`: What it means that an edit is open.
* `RungOnTime.concat`, `RungOnTime.append`: One more event, and several.
* `Burst.append`: What does not belong to a burst leaves it what it is.
* `Burst.rung`: What comes of a burst.
-/

namespace ManagerSignup

variable {κ ω : Type}

/-- The widget announced a text. -/
def Event.isChangeOf [DecidableEq ω] (w : ω) : Event κ ω → Bool
  | .changed v _ => v = w
  | _ => false

/-- A timer of the field rang. -/
def Event.isRingOf [DecidableEq κ] (key : κ) : Event κ ω → Bool
  | .rang (.recheck k _) => k = key
  | _ => false

/-- The field was registered or judged at once, or a timer of it rang. -/
def Event.answers [DecidableEq κ] (key : κ) : Event κ ω → Bool
  | .registered k => k = key
  | .rechecked k => k = key
  | .rang (.recheck k _) => k = key
  | _ => false

/-- When the last edit of a widget was made, if `first` was one and then others may have
    followed. -/
def lastEdit [DecidableEq ω] (w : ω) (first : Stamped κ ω) (later : History κ ω) : Nat :=
  (timesOf (Event.isChangeOf w) later).getLastD first.time

theorem lastEdit_append_singleton [DecidableEq ω] (w : ω) (first s : Stamped κ ω)
    (later : History κ ω) :
    lastEdit w first (later ++ [s]) =
      if s.event.isChangeOf w then s.time else lastEdit w first later := by
  rw [lastEdit, timesOf_append_singleton]
  by_cases hs : s.event.isChangeOf w
  · rw [if_pos hs, if_pos hs, List.getLastD_concat]
  · rw [if_neg hs, if_neg hs, List.append_nil, lastEdit]

theorem Event.isChangeOf_eq_false_of_not_movesTimer [DecidableEq ω] {e : Event κ ω}
    (h : e.movesTimer = false) (w : ω) : e.isChangeOf w = false := by
  cases e with
  | changed v value => cases h
  | _ => rfl

section

variable [DecidableEq κ] {key : κ} {e : Event κ ω}

theorem Event.answers_of_isRingOf (h : e.isRingOf key) : e.answers key := by
  cases e with
  | rang timer =>
      cases timer with
      | recheck k registration => exact h
      | pause => cases h
  | _ => cases h

/-- A timer that rings is an answer of its field alone. -/
theorem Event.isRingOf_of_answers {timer : Timer κ}
    (h : (rang timer : Event κ ω).answers key) : (rang timer : Event κ ω).isRingOf key := by
  cases timer with
  | recheck k registration => exact h
  | pause => cases h

theorem Event.answers_eq_false_of_not_movesTimer (h : e.movesTimer = false) (key : κ) :
    e.answers key = false := by
  cases e with
  | registered k => cases h
  | rechecked k => cases h
  | rang timer => cases h
  | _ => rfl

theorem Event.isRingOf_eq_false_of_not_movesTimer (h : e.movesTimer = false) (key : κ) :
    e.isRingOf key = false := by
  cases e with
  | rang timer => cases h
  | _ => rfl

variable [DecidableEq ω] {w : ω}

/-- What answers is no edit. -/
theorem Event.isChangeOf_eq_false_of_answers (h : e.answers key) : e.isChangeOf w = false := by
  cases e with
  | changed v value => cases h
  | _ => rfl

/-! ### Open edits -/

/-- When the last edit of a widget was made, unless the field answered since. What was open
    before is given. -/
def openSinceFrom (key : κ) (w : ω) (before : Option Nat) (past : History κ ω) : Option Nat :=
  past.foldl
    (fun last s =>
      if s.event.isChangeOf w then some s.time
      else if s.event.answers key then none
      else last)
    before

/-- When the last edit of a widget was made, unless the field answered since. -/
def openSince (key : κ) (w : ω) (past : History κ ω) : Option Nat :=
  openSinceFrom key w none past

variable {past later : History κ ω}

theorem openSince_append (past later : History κ ω) :
    openSince key w (past ++ later) = openSinceFrom key w (openSince key w past) later :=
  List.foldl_append

theorem openSince_append_singleton (past : History κ ω) (s : Stamped κ ω) :
    openSince key w (past ++ [s]) =
      if s.event.isChangeOf w then some s.time
      else if s.event.answers key then none
      else openSince key w past :=
  openSince_append past [s]

/-- An answer leaves nothing open. -/
theorem openSince_of_answers (past : History κ ω) {s : Stamped κ ω} (h : s.event.answers key) :
    openSince key w (past ++ [s]) = none := by
  rw [openSince_append_singleton,
    if_neg (Bool.eq_false_iff.mp (Event.isChangeOf_eq_false_of_answers h)), if_pos h]

/-- What neither edits nor answers changes nothing. -/
theorem openSinceFrom_of_aside {before : Option Nat}
    (h : ∀ s ∈ later, s.event.isChangeOf w = false ∧ s.event.answers key = false) :
    openSinceFrom key w before later = before := by
  induction later with
  | nil => rfl
  | cons s rest ih =>
      rcases h s (List.mem_cons_self ..) with ⟨hchange, hanswers⟩
      rw [openSinceFrom, List.foldl_cons, if_neg (Bool.eq_false_iff.mp hchange),
        if_neg (Bool.eq_false_iff.mp hanswers)]
      exact ih fun s hs => h s (List.mem_cons_of_mem _ hs)

/-- As long as the field does not answer, an edit is open. -/
theorem isSome_openSinceFrom {before : Option Nat} (hbefore : before.isSome)
    (h : ∀ s ∈ later, s.event.answers key = false) :
    (openSinceFrom key w before later).isSome := by
  induction later generalizing before with
  | nil => exact hbefore
  | cons s rest ih =>
      have hrest := fun s hs => h s (List.mem_cons_of_mem _ hs)
      rw [openSinceFrom, List.foldl_cons,
        if_neg (Bool.eq_false_iff.mp (h s (List.mem_cons_self ..)))]
      by_cases hchange : s.event.isChangeOf w
      · rw [if_pos hchange]
        exact ih rfl hrest
      · rw [if_neg hchange]
        exact ih hbefore hrest

/-- The time is that of an edit after which there was neither an edit nor an answer. -/
theorem openSince_eq_some_iff (past : History κ ω) (time : Nat) :
    openSince key w past = some time ↔
      ∃ earlier s later, past = earlier ++ s :: later ∧ s.event.isChangeOf w ∧ s.time = time ∧
        ∀ x ∈ later, x.event.isChangeOf w = false ∧ x.event.answers key = false := by
  constructor
  · intro h
    -- If the last event is neither an edit nor an answer, the edit was open before it.
    induction past using List.reverseRecOn with
    | nil => cases h
    | append_singleton past s ih =>
        rw [openSince_append_singleton] at h
        by_cases hchange : s.event.isChangeOf w
        · rw [if_pos hchange, Option.some.injEq] at h
          exact ⟨past, s, [], rfl, hchange, h, List.forall_mem_nil _⟩
        · rw [if_neg hchange] at h
          by_cases hanswers : s.event.answers key
          · rw [if_pos hanswers] at h
            cases h
          · rw [if_neg hanswers] at h
            rcases ih h with ⟨earlier, edit, later, rfl, hedit, htime, hlater⟩
            refine ⟨earlier, edit, later ++ [s], by rw [List.append_assoc, List.cons_append],
              hedit, htime, fun x hx => ?_⟩
            rcases List.mem_append.mp hx with hx | hx
            · exact hlater x hx
            · rw [List.mem_singleton.mp hx]
              exact ⟨Bool.eq_false_iff.mpr hchange, Bool.eq_false_iff.mpr hanswers⟩
  · rintro ⟨earlier, s, later, rfl, hchange, rfl, hlater⟩
    rw [← List.singleton_append, ← List.append_assoc, openSince_append,
      openSinceFrom_of_aside hlater, openSince_append_singleton, if_pos hchange]

/-- An edit is open if and only if the field did not answer since. -/
theorem isSome_openSince_iff (past : History κ ω) :
    (openSince key w past).isSome ↔
      ∃ earlier s later, past = earlier ++ s :: later ∧ s.event.isChangeOf w ∧
        ∀ x ∈ later, x.event.answers key = false := by
  constructor
  · intro h
    rcases Option.isSome_iff_exists.mp h with ⟨time, htime⟩
    rcases (openSince_eq_some_iff past time).mp htime with
      ⟨earlier, s, later, hpast, hchange, -, hlater⟩
    exact ⟨earlier, s, later, hpast, hchange, fun x hx => (hlater x hx).2⟩
  · rintro ⟨earlier, s, later, rfl, hchange, hlater⟩
    rw [← List.singleton_append, ← List.append_assoc, openSince_append]
    refine isSome_openSinceFrom ?_ hlater
    rw [openSince_append_singleton, if_pos hchange]
    rfl

/-! ### Rings -/

/-- At each ring there was an open edit, and the last one lay a delay behind. -/
def RungOnTime (key : κ) (w : ω) (delay : Nat) (past : History κ ω) : Prop :=
  ∀ before s, before ++ [s] <+: past → s.event.isRingOf key →
    (openSince key w before).map (· + delay) = some s.time

variable {delay : Nat}

theorem RungOnTime.of_prefix (h : RungOnTime key w delay past) {before : History κ ω}
    (hbefore : before <+: past) : RungOnTime key w delay before :=
  fun earlier s hs => h earlier s (hs.trans hbefore)

theorem rungOnTime_of_not_isRingOf (h : ∀ s ∈ past, s.event.isRingOf key = false) :
    RungOnTime key w delay past := by
  intro before s hbefore hring
  rw [h s (hbefore.subset (List.mem_append_right _ (List.mem_singleton_self s)))] at hring
  cases hring

theorem RungOnTime.concat (h : RungOnTime key w delay past) (s : Stamped κ ω)
    (hs : s.event.isRingOf key → (openSince key w past).map (· + delay) = some s.time) :
    RungOnTime key w delay (past ++ [s]) := by
  intro before s' hbefore hring
  rcases List.prefix_concat_iff.mp hbefore with hsame | hearlier
  · rcases List.append_inj' hsame rfl with ⟨rfl, hlast⟩
    rw [(List.cons.inj hlast).1] at hring ⊢
    exact hs hring
  · exact h before s' hearlier hring

/-- What is no ring comes at any time. -/
theorem RungOnTime.append (h : RungOnTime key w delay past) (later : History κ ω)
    (hlater : ∀ s ∈ later, s.event.isRingOf key = false) :
    RungOnTime key w delay (past ++ later) := by
  induction later using List.reverseRecOn with
  | nil => rwa [List.append_nil]
  | append_singleton later s ih =>
      rw [← List.append_assoc]
      refine (ih fun x hx => hlater x (List.mem_append_left _ hx)).concat s fun hring => ?_
      rw [hlater s (List.mem_append_right _ (List.mem_singleton_self s))] at hring
      cases hring

/-! ### Bursts -/

/-- What was written down since an edit, as far as it is a burst: each edit follows the one
    before within the delay, and nobody asked for a judgement meanwhile. -/
structure Burst (key : κ) (w : ω) (delay : Nat) (first : Stamped κ ω) (later : History κ ω) :
    Prop where
  edited : first.event.isChangeOf w
  close : (first.time :: timesOf (Event.isChangeOf w) later).IsChain fun a b => b < a + delay
  unasked : ∀ s ∈ later, s.event.answers key → s.event.isRingOf key

/-- As long as no timer rings, a burst is not answered. -/
theorem Burst.answers_eq_false {first : Stamped κ ω} (h : Burst key w delay first later)
    (hnone : timesOf (Event.isRingOf key) later = []) :
    ∀ s ∈ first :: later, s.event.answers key = false := by
  intro s hs
  rw [Bool.eq_false_iff]
  intro hanswers
  rcases List.mem_cons.mp hs with rfl | hlater
  · have hedited := h.edited
    rw [Event.isChangeOf_eq_false_of_answers hanswers] at hedited
    cases hedited
  · have hring := mem_timesOf.mpr ⟨s, hlater, h.unasked s hlater hanswers, rfl⟩
    rw [hnone] at hring
    cases hring

instance (key : κ) (w : ω) (delay : Nat) (first : Stamped κ ω) (later : History κ ω) :
    Decidable (Burst key w delay first later) :=
  decidable_of_iff
    (first.event.isChangeOf w ∧
      (first.time :: timesOf (Event.isChangeOf w) later).IsChain (fun a b => b < a + delay) ∧
      ∀ s ∈ later, s.event.answers key → s.event.isRingOf key)
    ⟨fun h => ⟨h.1, h.2.1, h.2.2⟩, fun h => ⟨h.edited, h.close, h.unasked⟩⟩

/-- The events are a burst from the first on, with the last edit at some time. -/
def beginsBurst (key : κ) (w : ω) (delay last : Nat) : History κ ω → Bool
  | [] => false
  | first :: later => decide (Burst key w delay first later) && lastEdit w first later == last

theorem exists_burst_of_beginsBurst {last : Nat} (past : History κ ω) (n : Nat)
    (h : beginsBurst key w delay last (past.drop n)) :
    ∃ first later, past.drop n = first :: later ∧ Burst key w delay first later ∧
      lastEdit w first later = last := by
  cases hdrop : past.drop n with
  | nil =>
      rw [hdrop] at h
      cases h
  | cons first later =>
      rw [hdrop, beginsBurst, Bool.and_eq_true, decide_eq_true_eq, beq_iff_eq] at h
      exact ⟨first, later, rfl, h⟩

theorem Burst.of_append {first : Stamped κ ω} {s : Stamped κ ω}
    (h : Burst key w delay first (later ++ [s])) : Burst key w delay first later := by
  refine ⟨h.edited, ?_, fun x hx => h.unasked x (List.mem_append_left _ hx)⟩
  have hclose := h.close
  rw [timesOf_append, ← List.cons_append] at hclose
  exact hclose.left_of_append

/-- What is neither an edit nor asked for leaves a burst what it is. -/
theorem Burst.append {first : Stamped κ ω} (h : Burst key w delay first past)
    (hlater : ∀ s ∈ later, s.event.isChangeOf w = false ∧
      (s.event.answers key → s.event.isRingOf key)) :
    Burst key w delay first (past ++ later) ∧
      lastEdit w first (past ++ later) = lastEdit w first past := by
  have hedits : timesOf (Event.isChangeOf w) (past ++ later) =
      timesOf (Event.isChangeOf w) past := by
    rw [timesOf_append, timesOf_eq_nil fun s hs => (hlater s hs).1, List.append_nil]
  refine ⟨⟨h.edited, ?_, fun s hs => ?_⟩, ?_⟩
  · rw [hedits]
    exact h.close
  · exact (List.mem_append.mp hs).elim (h.unasked s) fun hs => (hlater s hs).2
  · rw [lastEdit, hedits, lastEdit]

/-- The next edit of a burst comes before the delay of the last one is over. -/
theorem Burst.lt_of_change {first s : Stamped κ ω}
    (h : Burst key w delay first (later ++ [s])) (hs : s.event.isChangeOf w) :
    s.time < lastEdit w first later + delay := by
  have hclose := h.close
  rw [timesOf_append_singleton, if_pos hs, ← List.cons_append, List.isChain_append] at hclose
  refine hclose.2.2 _ ?_ s.time rfl
  rw [List.getLast?_cons, lastEdit, List.getLastD_eq_getLast?]
  rfl

/-- Whatever was written down since the first edit of a burst, either the last edit is still
    open and the timer has not rung, or it has rung once, a delay after that edit. -/
theorem Burst.rung {first : Stamped κ ω} (h : Burst key w delay first later)
    (hrung : RungOnTime key w delay (past ++ first :: later))
    (hwritten : ((past ++ first :: later).map Stamped.time).Pairwise (· ≤ ·)) :
    (timesOf (Event.isRingOf key) later = [] ∧
        openSince key w (past ++ first :: later) = some (lastEdit w first later)) ∨
      timesOf (Event.isRingOf key) later = [lastEdit w first later + delay] ∧
        openSince key w (past ++ first :: later) = none := by
  induction later using List.reverseRecOn with
  | nil =>
      refine Or.inl ⟨rfl, ?_⟩
      rw [openSince_append_singleton, if_pos h.edited]
      rfl
  | append_singleton later s ih =>
      have happend : past ++ first :: (later ++ [s]) = past ++ first :: later ++ [s] := by
        rw [List.append_assoc, List.cons_append]
      rw [happend] at hrung hwritten ⊢
      rw [List.map_append, List.pairwise_append] at hwritten
      rcases hwritten with ⟨hwritten, -, hnow⟩
      have hbefore := ih h.of_append (hrung.of_prefix (List.prefix_append _ _)) hwritten
      rw [openSince_append_singleton, timesOf_append_singleton]
      by_cases hchange : s.event.isChangeOf w
      · -- An edit comes before a ring could, and is open.
        have hring : s.event.isRingOf key = false := by
          rw [Bool.eq_false_iff]
          intro hring
          rw [Event.isChangeOf_eq_false_of_answers (Event.answers_of_isRingOf hring)] at hchange
          cases hchange
        have hlast : lastEdit w first (later ++ [s]) = s.time := by
          rw [lastEdit_append_singleton, if_pos hchange]
        rw [if_neg (Bool.eq_false_iff.mp hring), List.append_nil, if_pos hchange]
        rcases hbefore with ⟨hnone, -⟩ | ⟨honce, -⟩
        · exact Or.inl ⟨hnone, congrArg some hlast.symm⟩
        · have hring : lastEdit w first later + delay ∈ timesOf (Event.isRingOf key) later :=
            honce ▸ List.mem_singleton_self _
          rcases mem_timesOf.mp hring with ⟨x, hx, -, htime⟩
          have hpast : x.time ≤ s.time :=
            hnow _ (List.mem_map_of_mem (List.mem_append_right _ (List.mem_cons_of_mem _ hx)))
              _ (List.mem_map_of_mem (List.mem_singleton_self s))
          have hsoon := h.lt_of_change hchange
          omega
      · have hlast : lastEdit w first (later ++ [s]) = lastEdit w first later := by
          rw [lastEdit_append_singleton, if_neg hchange]
        rw [if_neg hchange, hlast]
        by_cases hring : s.event.isRingOf key
        · -- A ring finds the last edit open, and leaves none.
          have hopen := hrung _ s List.prefix_rfl hring
          rw [if_pos hring, if_pos (Event.answers_of_isRingOf hring)]
          rcases hbefore with ⟨hnone, hlastOpen⟩ | ⟨-, hclosed⟩
          · rw [hlastOpen, Option.map_some, Option.some.injEq] at hopen
            rw [hnone, hopen]
            exact Or.inr ⟨rfl, rfl⟩
          · rw [hclosed] at hopen
            cases hopen
        · have hanswers : ¬s.event.answers key := fun hanswers => hring
            (h.unasked s (List.mem_append_right _ (List.mem_singleton_self s)) hanswers)
          rw [if_neg hring, if_neg hanswers, List.append_nil]
          exact hbefore

end

end ManagerSignup
