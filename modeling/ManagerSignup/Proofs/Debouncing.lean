import ManagerSignup.Proofs.Promptness

/-!
# A Burst of Edits Is Answered Once

When the timer of a field runs, when it is due, and what a field does about many edits.

A field that judged its input at every key would judge what nobody means yet. So it waits,
and the promise is that it waits long enough and no longer. Its timer runs exactly while
there is an edit that it has not answered, and the timer is due a delay after the last
one. Edits that follow each other closely are answered together, by one ring, and that
ring is never early, never lost and never doubled. `Promptness` has shown why this is so,
and here it is said in terms of the history alone (`Debounced`).

It is said of every moment and not only of what a step leaves. While time passes timers
ring one after the other, and each ring tells listeners something, who may ask about any
field. A moment is therefore whatever the rings so far have left.

That the verdict stays what it was until a field answers is another matter, since it is
not about timers at all. It takes a second invariant, which compares a field with what it
was when the history was shorter (`AsBefore`). A verdict only changes when a field is
judged, which is always next to an event that answers.

## Main definitions

* `Tracker.AsBefore`: A field is as it was, unless it answered.
* `Tracker.Moment`: A moment while time passes.
* `Tracker.LeftAlone`: Timers may have rung, and nothing else was asked for.
* `Tracker.Debounced`: What a field does about the edits of its widget.
* `Tracker.twoFields`, `Tracker.threeEdits`: A run with a burst.

## Theorems

* `Tracker.asBefore_run`: No run changes a field that does not answer.
* `Tracker.Prompt.debounced`: What is on time is debounced.
* `Tracker.leftAlone_advance`: What the passing of time brings.
* `Tracker.Prompt.rings_advance`: What comes of a burst when time passes.
* `Tracker.debounced_run`: All of this in a run.
-/

namespace ManagerSignup

namespace Tracker

variable {κ ω : Type} [DecidableEq κ] {t t' : Tracker κ ω}

/-! ### Fields that do not answer -/

/-- Since a history was written down, a field is as it was, unless it answered. -/
def AsBefore (past : History κ ω) (key : κ) (before : Option (Tracked ω)) (t : Tracker κ ω) :
    Prop :=
  ∃ rest, t.history = past ++ rest ∧
    ((∀ s ∈ rest, s.event.answers key = false) → t.field? key = before)

section AsBefore

variable {past : History κ ω} {key : κ} {before : Option (Tracked ω)}

theorem AsBefore.append (h : AsBefore past key before t) {es : History κ ω}
    (hhistory : t'.history = t.history ++ es)
    (hfield : (∀ s ∈ es, s.event.answers key = false) → t'.field? key = t.field? key) :
    AsBefore past key before t' := by
  rcases h with ⟨rest, hrest, hbefore⟩
  refine ⟨rest ++ es, by rw [hhistory, hrest, List.append_assoc], fun hnone => ?_⟩
  rw [hfield fun s hs => hnone s (List.mem_append_right _ hs)]
  exact hbefore fun s hs => hnone s (List.mem_append_left _ hs)

theorem AsBefore.of_same (h : AsBefore past key before t) (hhistory : t'.history = t.history)
    (hfields : t'.fields = t.fields) : AsBefore past key before t' :=
  h.append (hhistory.trans (List.append_nil _).symm) fun _ => by rw [field?, hfields, field?]

theorem AsBefore.record (h : AsBefore past key before t) (e : Event κ ω) :
    AsBefore past key before (t.record e) :=
  h.append rfl fun _ => rfl

theorem AsBefore.schedule (h : AsBefore past key before t) (k : κ) :
    AsBefore past key before (t.schedule k) := by
  unfold Tracker.schedule
  split
  · exact h
  · exact h.of_same rfl rfl

variable [DecidableEq ω] [Named κ]

/-- An answer of one field is followed by its being judged, and the others are left
    alone. -/
theorem AsBefore.answer (h : AsBefore past key before t) (s : Stamped κ ω) (k : κ)
    (hanswers : s.event.answers k) (hhistory : t'.history = t.history ++ [s])
    (hfield : key ≠ k → t'.field? key = t.field? key) :
    AsBefore past key before (t'.validate k) := by
  rcases (t'.quiet_validate k).history with ⟨es, -, hjudged⟩
  rw [hhistory, List.append_assoc] at hjudged
  refine h.append hjudged fun hnone => ?_
  have hother : key ≠ k := by
    rintro rfl
    rw [hnone s (List.mem_append_left _ (List.mem_singleton_self s))] at hanswers
    cases hanswers
  rw [field?_validate, if_neg hother, hfield hother]

theorem AsBefore.recheck (h : AsBefore past key before t) (k : κ) :
    AsBefore past key before (t.recheck k) :=
  t.recheck_of_forget k h fun field _ => h.answer ⟨t.clock, .rechecked k⟩ k (decide_eq_true rfl)
    rfl fun hother => (t.field?_forget k key field).trans (if_neg hother)

theorem immediate_asBefore : Immediate (AsBefore (κ := κ) (ω := ω) past key before) where
  noted _ entry h := h.record (.noted entry)
  changed _ w value h := by
    refine List.foldlRecOn _ _ (h.record (.changed w value)) fun t ht l _ => ?_
    cases l with
    | recheckSoon k => exact ht.schedule k
    | recheckNow k => exact ht.recheck k
  recheck _ k h := h.recheck k

theorem lasting_asBefore : Lasting (AsBefore (κ := κ) (ω := ω) past key before) where
  fire t s _ _ h := by
    rcases s with ⟨timer, due⟩
    cases timer with
    | recheck k n =>
        exact h.answer ⟨due, .rang (.recheck k n)⟩ k (decide_eq_true rfl) rfl fun _ => rfl
    | pause =>
        have hstopped : AsBefore past key before
            { t with clock := due, agenda := t.agenda.stop .pause } := h.of_same rfl rfl
        exact hstopped.record (.rang .pause)
  wait _ _ _ _ h := h.of_same rfl rfl

theorem AsBefore.step (h : AsBefore past key before t) (s : Step κ ω) (hkept : s ≠ .cleanup) :
    AsBefore past key before (t.step s).1 := by
  cases s with
  | register k w check required =>
      exact h.answer ⟨t.clock, .registered k⟩ k (decide_eq_true rfl) rfl fun hother =>
        (t.field?_joined k key w check required).trans (if_neg hother)
  | act w a => exact immediate_asBefore.act t w a (h.of_same rfl rfl)
  | recheck k => exact h.recheck k
  | recheckAll => exact immediate_asBefore.recheckAll t h
  | advance ms => exact lasting_asBefore.advance t ms h
  | cleanup => exact absurd rfl hkept
  | setToolTip w tip => exact h.of_same rfl rfl

theorem asBefore_run (t : Tracker κ ω) (steps : List (Step κ ω)) (hkept : .cleanup ∉ steps)
    (key : κ) : AsBefore t.history key (t.field? key) (t.run steps) :=
  List.foldlRecOn _ _ ⟨[], (List.append_nil _).symm, fun _ => rfl⟩ fun _ ht s hs =>
    ht.step s fun hcleanup => hkept (hcleanup ▸ hs)

end AsBefore

/-! ### The law -/

variable [DecidableEq ω]

/-- What a field does about the edits of its widget. -/
structure Debounced (delay : Nat) (t : Tracker κ ω) (key : κ) (field : Tracked ω) : Prop where
  /-- Its timer runs if and only if there was an edit that it has not answered. -/
  pending : t.isPending key ↔ ∃ earlier edit later, t.history = earlier ++ edit :: later ∧
    edit.event.isChangeOf field.widget ∧ ∀ s ∈ later, s.event.answers key = false
  /-- The timer is due a delay after the last edit. -/
  due : ∀ due, t.agenda.due? (timer key field) = some due ↔
    ∃ earlier edit later, t.history = earlier ++ edit :: later ∧
      edit.event.isChangeOf field.widget ∧ edit.time + delay = due ∧
      ∀ s ∈ later, s.event.isChangeOf field.widget = false ∧ s.event.answers key = false
  /-- A burst is answered by one ring, a delay after its last edit, and by none before. -/
  burst : ∀ earlier first later, t.history = earlier ++ first :: later →
    Burst key field.widget delay first later →
      (t.isPending key → timesOf (Event.isRingOf key) later = [] ∧
        t.agenda.due? (timer key field) = some (lastEdit field.widget first later + delay) ∧
        t.clock ≤ lastEdit field.widget first later + delay) ∧
      (t.isPending key = false →
        timesOf (Event.isRingOf key) later = [lastEdit field.widget first later + delay] ∧
        lastEdit field.widget first later + delay ≤ t.clock)

theorem Prompt.debounced (h : Prompt t) {delay : Nat} (hdelay : t.delay = delay) {key : κ}
    {field : Tracked ω} (hfield : t.field? key = some field) : Debounced delay t key field := by
  have honTime := h.onTime key field.plan (find?_plans hfield)
  have hdue : t.agenda.due? (timer key field) =
      (openSince key field.widget t.history).map (· + delay) := hdelay ▸ honTime.due
  have hpending : t.isPending key = (openSince key field.widget t.history).isSome := by
    rw [isPending, hfield]
    exact (congrArg Option.isSome hdue).trans Option.isSome_map
  constructor
  case pending =>
    rw [hpending]
    exact isSome_openSince_iff t.history
  case due =>
    intro due
    rw [hdue, Option.map_eq_some_iff]
    constructor
    · rintro ⟨time, hopen, rfl⟩
      rcases (openSince_eq_some_iff t.history time).mp hopen with
        ⟨earlier, edit, later, hhistory, hedit, rfl, hlater⟩
      exact ⟨earlier, edit, later, hhistory, hedit, rfl, hlater⟩
    · rintro ⟨earlier, edit, later, hhistory, hedit, rfl, hlater⟩
      exact ⟨edit.time, (openSince_eq_some_iff t.history _).mpr
        ⟨earlier, edit, later, hhistory, hedit, rfl, hlater⟩, rfl⟩
  case burst =>
    intro earlier first later hhistory hburst
    have hrung := hdelay ▸ honTime.rung
    have hwritten := h.inOrder.written
    rw [hhistory] at hrung hwritten
    rw [hpending, hdue, hhistory]
    -- A timer that runs is not late, and a ring that was written down is past.
    rcases hburst.rung hrung hwritten with ⟨hnone, hopen⟩ | ⟨honce, hclosed⟩
    · rw [hopen]
      refine ⟨fun _ => ⟨hnone, rfl, ?_⟩, fun hidle => by cases hidle⟩
      refine h.inOrder.ahead (timer key field) _ ?_
      rw [hdue, hhistory, hopen]
      rfl
    · rw [hclosed]
      refine ⟨fun hrunning => absurd hrunning Bool.false_ne_true, fun _ => ⟨honce, ?_⟩⟩
      have hring : lastEdit field.widget first later + delay ∈
          timesOf (Event.isRingOf key) later := honce ▸ List.mem_singleton_self _
      rcases mem_timesOf.mp hring with ⟨s, hs, -, htime⟩
      rw [← htime]
      refine h.inOrder.past s ?_
      rw [hhistory]
      exact List.mem_append_right _ (List.mem_cons_of_mem _ hs)

variable [Named κ]

/-- A moment after `t`: of the timers that ring by some time the first ones have rung. -/
def Moment (t u : Tracker κ ω) : Prop :=
  ∃ ms rung, rung <+: t.agenda.dueBy (t.clock + ms) ∧ u = rung.foldl fire t

/-- What survives the passing of time holds at every moment of it. -/
theorem Lasting.moment {P : Tracker κ ω → Prop} (hP : Lasting P) {u : Tracker κ ω}
    (hu : Moment t u) (h : P t) : P u := by
  rcases hu with ⟨ms, rung, hrung, rfl⟩
  exact hP.foldl_fire rung t (hrung.trans (t.agenda.dueBy_prefix _)) h

theorem moment_refl (t : Tracker κ ω) : Moment t t :=
  ⟨0, [], List.nil_prefix, rfl⟩

theorem delay_moment {u : Tracker κ ω} (hu : Moment t u) : u.delay = t.delay := by
  rcases hu with ⟨ms, rung, -, rfl⟩
  exact List.foldlRecOn (motive := fun t' : Tracker κ ω => t'.delay = t.delay) rung _ rfl
    fun t' ht s _ => (t'.quiet_fire s).delay.trans ht

/-- Since a history was written down, no widget was edited, and no field answered but by
    its timer. -/
def LeftAlone (past : History κ ω) (t : Tracker κ ω) : Prop :=
  ∃ rest, t.history = past ++ rest ∧ ∀ s ∈ rest, ∀ key w,
    s.event.isChangeOf w = false ∧ (s.event.answers key → s.event.isRingOf key)

theorem lasting_leftAlone (past : History κ ω) : Lasting (LeftAlone (κ := κ) past) where
  fire t s _ _ h := by
    rcases h with ⟨rest, hrest, halone⟩
    rcases (t.quiet_fire s).history with ⟨es, hes, hhistory⟩
    have hrang : (Tracker.rung t s).history = past ++ (rest ++ [⟨s.due, .rang s.timer⟩]) := by
      rw [← List.append_assoc, ← hrest]
      rfl
    rw [hrang, List.append_assoc] at hhistory
    -- Behind the ring stands what came of the judgement.
    refine ⟨_, hhistory, fun x hx key w => ?_⟩
    rcases List.mem_append.mp hx with hx | hx
    · rcases List.mem_append.mp hx with hx | hx
      · exact halone x hx key w
      · rw [List.mem_singleton.mp hx]
        exact ⟨rfl, Event.isRingOf_of_answers⟩
    · rcases List.mem_map.mp hx with ⟨e, he, rfl⟩
      refine ⟨Event.isChangeOf_eq_false_of_not_movesTimer (hes e he) w, fun hanswers => ?_⟩
      rw [Event.answers_eq_false_of_not_movesTimer (hes e he) key] at hanswers
      cases hanswers
  wait _ _ _ _ h := h

theorem leftAlone_advance (t : Tracker κ ω) (ms : Nat) : LeftAlone t.history (t.advance ms) :=
  (lasting_leftAlone t.history).advance t ms ⟨[], (List.append_nil _).symm, List.forall_mem_nil _⟩

/-- When time passes, a burst is answered if it is time. -/
theorem Prompt.rings_advance (h : Prompt t) {delay : Nat} (hdelay : t.delay = delay) (ms : Nat)
    {key : κ} {field : Tracked ω} (hfield : t.field? key = some field)
    {earlier later : History κ ω} {first : Stamped κ ω}
    (hhistory : t.history = earlier ++ first :: later)
    (hburst : Burst key field.widget delay first later) :
    ∃ rest, (t.advance ms).history = earlier ++ first :: (later ++ rest) ∧
      Burst key field.widget delay first (later ++ rest) ∧
      timesOf (Event.isRingOf key) (later ++ rest) =
        if t.clock + ms < lastEdit field.widget first later + delay then []
        else [lastEdit field.widget first later + delay] := by
  rcases t.leftAlone_advance ms with ⟨rest, hrest, halone⟩
  rw [hhistory, List.append_assoc, List.cons_append] at hrest
  rcases hburst.append fun s hs => halone s hs key field.widget with ⟨hstill, hlast⟩
  -- The field has the plan it had.
  have hplan : Table.find? key (t.advance ms).wiring.plans = some field.plan := by
    have hwiring := t.wiring_step (.advance ms)
    change (t.advance ms).wiring = t.wiring at hwiring
    rw [hwiring]
    exact find?_plans hfield
  rcases field?_of_plan hplan with ⟨after, hafter, hsame⟩
  have hwidget : after.widget = field.widget := congrArg Plan.widget hsame
  have hadvanced : (t.advance ms).delay = delay :=
    ((stable_delay t.delay).advance t ms rfl).trans hdelay
  have hclock : (t.advance ms).clock = t.clock + ms := rfl
  rw [← hwidget] at hstill
  rcases ((lasting_prompt.advance t ms h).debounced hadvanced hafter).burst earlier first _
    hrest hstill with ⟨hcalm, hrung⟩
  rw [hwidget, hclock, hlast] at hcalm hrung
  rw [hwidget] at hstill
  refine ⟨rest, hrest, hstill, ?_⟩
  cases hpending : (t.advance ms).isPending key with
  | true =>
      rcases hcalm hpending with ⟨hnone, hdue, -⟩
      rw [Agenda.due?_eq_some_iff, mem_shots_advance] at hdue
      rw [if_pos hdue.2, hnone]
  | false =>
      rcases hrung hpending with ⟨honce, hover⟩
      rw [if_neg (Nat.not_lt_of_le hover), honce]

theorem Prompt.of_registersOnce (delay : Nat) (guards : ω → Option Field)
    (toolTips : ω → String) {steps : List (Step κ ω)} (h : RegistersOnce steps) :
    Prompt ((new delay guards toolTips : Tracker κ ω).run steps) :=
  (prompt_new delay guards toolTips).run steps h fun _ _ => rfl

/-- In every run in which each field is registered once and none is forgotten, at every
    moment, the timer of a field runs if and only if its widget was edited and the field has
    not answered since, and then it is due a delay after the last edit. A burst of edits is
    answered by exactly one ring, a delay after its last edit, and one only has to wait until
    then. Until a field answers, its verdict is what it was. -/
theorem debounced_run (delay : Nat) (guards : ω → Option Field) (toolTips : ω → String)
    (steps more : List (Step κ ω)) (honce : RegistersOnce (steps ++ more)) (key : κ)
    (field : Tracked ω) :
    let t : Tracker κ ω := (new delay guards toolTips).run steps
    (∀ u, Moment (t.run more) u → u.field? key = some field →
      Debounced delay u key field ∧
      (∀ rest, u.history = t.history ++ rest → (∀ s ∈ rest, s.event.answers key = false) →
        t.field? key = some field) ∧
      ∀ calm first later, u.history = t.history ++ (calm ++ first :: later) →
        (∀ s ∈ calm, s.event.answers key = false) →
        Burst key field.widget delay first later → u.isPending key →
        t.field? key = some field) ∧
    ((t.run more).field? key = some field →
      ∀ earlier first later, (t.run more).history = earlier ++ first :: later →
        Burst key field.widget delay first later →
        ∀ ms, ∃ rest, ((t.run more).advance ms).history = earlier ++ first :: (later ++ rest) ∧
          Burst key field.widget delay first (later ++ rest) ∧
          timesOf (Event.isRingOf key) (later ++ rest) =
            if (t.run more).clock + ms < lastEdit field.widget first later + delay then []
            else [lastEdit field.widget first later + delay]) := by
  intro t
  have hafter : t.run more = (new delay guards toolTips).run (steps ++ more) :=
    List.foldl_append.symm
  have hprompt : Prompt (t.run more) := hafter ▸ Prompt.of_registersOnce delay guards toolTips honce
  have hdelay : (t.run more).delay = delay := hafter ▸ delay_run _ _
  refine ⟨fun u hu hfield => ?_, fun hfield earlier first later hhistory hburst ms =>
    hprompt.rings_advance hdelay ms hfield hhistory hburst⟩
  have hdebounced := (lasting_prompt.moment hu hprompt).debounced
    ((delay_moment hu).trans hdelay) hfield
  have hsame : ∀ rest, u.history = t.history ++ rest →
      (∀ s ∈ rest, s.event.answers key = false) → t.field? key = some field := by
    have hrun := t.asBefore_run more (fun hmem => honce.kept (List.mem_append_right _ hmem)) key
    rcases lasting_asBefore.moment hu hrun with ⟨rest', hrest', hfield'⟩
    intro rest hrest hnone
    rw [hrest', List.append_cancel_left_eq] at hrest
    rw [← hfield' (hrest ▸ hnone), hfield]
  refine ⟨hdebounced, hsame, fun calm first later hhistory hcalm hburst hpending => ?_⟩
  -- While the timer runs nobody has answered.
  rw [← List.append_assoc] at hhistory
  have hnone := ((hdebounced.burst _ first later hhistory hburst).1 hpending).1
  refine hsame _ ((List.append_assoc ..).symm ▸ hhistory) fun s hs => ?_
  rcases List.mem_append.mp hs with hbefore | hlater
  · exact hcalm s hbefore
  · exact hburst.answers_eq_false hnone s hlater

/-- Two fields with an input of their own. -/
def twoFields : List (Step String Nat) :=
  [.register "name" 0 (.grammar .name) true, .register "phone" 1 (.grammar .phoneNumber) true,
    .advance 50]

/-- Three edits of the first input, with the second field edited and judged between them. -/
def threeEdits : List (Step String Nat) :=
  [.act 0 (.setText ['a']), .advance 150, .act 0 (.setText ['a', 'b']), .act 1 (.setText ['3']),
    .advance 100, .recheck "phone", .act 0 (.setText ['a'])]

theorem registersOnce_threeEdits : RegistersOnce (twoFields ++ threeEdits) where
  once := by
    change ["name", "phone"].Nodup
    decide
  kept := by simp [twoFields, threeEdits]

/-- The two fields before the edits. -/
def beforeEdits : Tracker String Nat :=
  (new 200 (fun _ => none) fun _ => "").run twoFields

/-- The last edit was at 300, and however long one waits, the first field is judged once,
    at 500. Until then its verdict is the one it had before the first edit. -/
theorem debounced_run_threeEdits :
    RegistersOnce (twoFields ++ threeEdits) ∧
      (∃ field, (beforeEdits.run threeEdits).field? "name" = some field ∧
        beforeEdits.field? "name" = some field ∧
        (beforeEdits.run threeEdits).agenda.due? (timer "name" field) = some 500) ∧
      timesOf (Event.isRingOf "name") (((beforeEdits.run threeEdits).advance 400).history.drop 6) =
        [500] := by
  have hlaw := debounced_run 200 (fun _ => none) (fun _ => "") twoFields threeEdits
    registersOnce_threeEdits "name"
  rw [← beforeEdits] at hlaw
  -- The first five events are those of the registrations, and the next one is the first edit.
  have hopened : beforeEdits.history.length = 5 := by decide +kernel
  have hburst : beginsBurst "name" 0 200 300 ((beforeEdits.run threeEdits).history.drop 5) := by
    decide +kernel
  have hwidget : ((beforeEdits.run threeEdits).field? "name").map Tracked.widget = some 0 := by
    decide +kernel
  have hpending : (beforeEdits.run threeEdits).isPending "name" := by decide +kernel
  have hclock : (beforeEdits.run threeEdits).clock = 300 := by decide +kernel
  generalize beforeEdits = t at *
  rcases exists_burst_of_beginsBurst _ 5 hburst with ⟨first, later, hdrop, hburst, hlast⟩
  rcases Option.map_eq_some_iff.mp hwidget with ⟨field, hfield, hw⟩
  rw [← hw] at hburst hlast
  have hhistory : (t.run threeEdits).history = t.history ++ first :: later := by
    rcases t.asBefore_run threeEdits (by simp [threeEdits]) "name" with ⟨rest, hrest, -⟩
    rw [← hdrop, hrest, ← hopened, List.drop_left]
  refine ⟨registersOnce_threeEdits, ⟨field, hfield, ?_⟩, ?_⟩
  · rcases (hlaw field).1 _ (moment_refl _) hfield with ⟨hdebounced, -, hsame⟩
    have hdue := ((hdebounced.burst t.history first later hhistory hburst).1 hpending).2.1
    rw [hlast] at hdue
    exact ⟨hsame [] first later hhistory (List.forall_mem_nil _) hburst hpending, hdue⟩
  · rcases (hlaw field).2 hfield t.history first later hhistory hburst 400 with
      ⟨rest, hafter, -, hrings⟩
    rw [hlast, hclock] at hrings
    rw [hafter, ← List.tail_drop, List.drop_left' hopened, List.tail_cons]
    exact hrings

end Tracker

end ManagerSignup
