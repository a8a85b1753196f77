import ManagerSignup.Proofs.Freshness

/-!
# Runs of a Tracker

Whatever is done with a tracker, each of its fields either is about to be judged
or has the verdict on the text its widget holds.

The form wires its fields once and for all. A tracker by itself may be rewired at
any time: a key is registered again with another widget, two keys share one, all
fields are forgotten while their timers run. Much is left behind by that. A
replaced field leaves a timer that nobody stops and a place among the listeners
of its old widget, and either may call for a judgement of a field that it knows
nothing about. No harm comes of it, and that is the point of `FreshBut.register`:
what is left behind can only have a field judged once too often, or excuse it
until a timer of its own has rung. What could do harm is a new field with an old
verdict, and a new field has none.

What a field is registered with can be read off the steps, without looking at the
tracker: it is what its key was registered with last, unless everything was
forgotten since. `termsAfter` does the reading, so that a verdict is compared
with what was asked for and not with what happens to be stored.

Checks that answer by the text alone hang on no other widget, and then hearing of
one's own widget is being attentive. That is all that `Check.Plain` is for.

## Main definitions

* `Check.Plain`: A check answers by the text alone.
* `Terms`: What a field is registered with.
* `Tracker.Step.rewire`: What a step makes of the wiring.
* `Tracker.termsAfter`: What a key is registered with after some steps.
* `Tracker.AllJudged`: Every field has judged a text.

## Theorems

* `Tracker.wiring_step`: What each step makes of the wiring.
* `Tracker.terms_run`: What the fields are registered with after a run.
* `Tracker.FreshBut.register`, `Tracker.FreshBut.cleanup`: Registering and
  forgetting fields.
* `Tracker.FreshBut.step`, `Tracker.FreshBut.run`: Steps and runs.
* `Tracker.stable_forall_field`, `Tracker.forall_field_run`: What judging makes of a
  field.
* `Tracker.stable_allJudged`, `Tracker.AllJudged.register`: No field is without a
  verdict.
* `Tracker.isPending_or_upToDate`: What holds of every field after every run.
-/

namespace ManagerSignup

variable {κ ω : Type}

namespace Check

/-- A check answers by the text alone. A grammar always does, a rule may. -/
def Plain : Check ω → Prop
  | .grammar _ => True
  | .rule answer => ∀ s s' value, answer s value = answer s' value

theorem Plain.verdict_eq {c : Check ω} (h : c.Plain) (required : Bool) (s s' : Surroundings ω)
    (value : Text) : c.verdict required s value = c.verdict required s' value := by
  unfold verdict
  cases c with
  | grammar f => rfl
  | rule answer =>
      by_cases hblank : Text.allBlank value
      · rw [if_pos hblank, if_pos hblank]
      · rw [if_neg hblank, if_neg hblank]
        exact h s s' value

theorem Plain.steady {c : Check ω} (h : c.Plain) : c.Steady :=
  fun required s s' value _ => h.verdict_eq required s s' value

theorem Plain.ignores {c : Check ω} (h : c.Plain) (w : ω) : c.Ignores w :=
  fun required s s' value _ => h.verdict_eq required s s' value

end Check

/-- What a field is registered with. -/
structure Terms (ω : Type) where
  widget : ω
  check : Check ω
  required : Bool

/-- What the field was registered with. -/
def Tracked.terms (field : Tracked ω) : Terms ω :=
  { widget := field.widget, check := field.check, required := field.required }

/-- What the plan says but for the number of the registration. -/
def Plan.terms (plan : Plan ω) : Terms ω :=
  { widget := plan.widget, check := plan.check, required := plan.required }

/-- A new field hears of its own widget, and what was heard before is heard still. -/
theorem Wiring.Attentive.register [DecidableEq κ] [DecidableEq ω] {x : Wiring κ ω}
    (h : x.Attentive) (key : κ) (plan : Plan ω) (hplain : plan.check.Plain) :
    (x.register key plan).Attentive := by
  -- Listeners are only ever added.
  have hheard : ∀ l w, l ∈ (x.links w).onChange → l ∈ ((x.register key plan).links w).onChange :=
    fun l w hl => (x.mem_onChange_register_iff key plan w l).mpr (Or.inl hl)
  intro k p hp
  rw [Wiring.find?_register] at hp
  by_cases hk : k = key
  · rw [if_pos hk, Option.some.injEq] at hp
    rw [hk, ← hp]
    have hown := (x.mem_onChange_register_iff key plan plan.widget (.recheckSoon key)).mpr
      (Or.inr ⟨rfl, rfl⟩)
    exact ⟨hplain.steady, hown, fun w _ => Or.inr (hplain.ignores w)⟩
  · rw [if_neg hk] at hp
    rcases h k p hp with ⟨hsteady, hown, hothers⟩
    refine ⟨hsteady, hheard _ _ hown, fun w hw => ?_⟩
    exact (hothers w hw).imp_left (hheard _ w)

namespace Tracker

/-- A step registers no check that answers by more than the text. -/
def Step.Plain : Step κ ω → Prop
  | .register _ _ check _ => check.Plain
  | _ => True

variable [DecidableEq κ]

/-- What a key is registered with after a step, if it was registered with
    something, or not at all, before. -/
def Step.terms (key : κ) (before : Option (Terms ω)) : Step κ ω → Option (Terms ω)
  | .register k w check required =>
      if key = k then some { widget := w, check, required } else before
  | .cleanup => none
  | _ => before

/-- What a key is registered with after some steps: what it was registered with
    last, unless everything was forgotten since. -/
def termsAfter (steps : List (Step κ ω)) (key : κ) : Option (Terms ω) :=
  steps.foldl (fun before s => s.terms key before) none

theorem terms_eq_plans (t : Tracker κ ω) (key : κ) :
    (t.field? key).map Tracked.terms = (Table.find? key t.wiring.plans).map Plan.terms := by
  rw [wiring, Table.find?_view, Option.map_map]
  rfl

variable [DecidableEq ω]

/-- What a step makes of the wiring, if there were `n` registrations before. -/
def Step.rewire (x : Wiring κ ω) (n : Nat) : Step κ ω → Wiring κ ω
  | .register key w check required =>
      x.register key { widget := w, check, required, registration := n }
  | .cleanup => { plans := [], links := x.links }
  | _ => x

theorem terms_rewire (x : Wiring κ ω) (n : Nat) (s : Step κ ω) (key : κ) :
    (Table.find? key (s.rewire x n).plans).map Plan.terms =
      s.terms key ((Table.find? key x.plans).map Plan.terms) := by
  cases s with
  | register k w check required =>
      simp only [Step.rewire, Step.terms, Wiring.find?_register]
      by_cases hk : key = k
      · rw [if_pos hk, if_pos hk]
        rfl
      · rw [if_neg hk, if_neg hk]
  | cleanup => rfl
  | act w a => rfl
  | recheck k => rfl
  | recheckAll => rfl
  | advance ms => rfl
  | setToolTip w tip => rfl

/-- Forgetting all fields leaves none to be wrong about. -/
theorem FreshBut.cleanup {t : Tracker κ ω} (owed : List (Listener κ)) :
    FreshBut owed t.cleanup := by
  have hnone : ∀ key, t.cleanup.field? key = none := fun _ => rfl
  refine ⟨?_, fun key field hfield => ?_, fun key field hfield => ?_⟩
  · rw [wiring_cleanup]
    intro key plan hplan
    cases hplan
  · rw [hnone] at hfield
    cases hfield
  · rw [hnone] at hfield
    cases hfield

theorem freshBut_new (delay : Nat) (guards : ω → Option Field) (toolTips : ω → String) :
    FreshBut [] (new delay guards toolTips : Tracker κ ω) := by
  refine ⟨fun _ _ hplan => ?_, fun _ _ hfield => ?_, fun _ _ hfield => ?_⟩
  · cases hplan
  · cases hfield
  · cases hfield

/-- Every field has judged a text. -/
def AllJudged (t : Tracker κ ω) : Prop :=
  ∀ key field, t.field? key = some field → field.lastValue ≠ none

variable [Named κ]

/-- What each step makes of the wiring. -/
theorem wiring_step (t : Tracker κ ω) (s : Step κ ω) :
    (t.step s).1.wiring = s.rewire t.wiring t.registrations := by
  cases s with
  | register key w check required => exact t.wiring_register key w check required
  | act w a => exact t.wiring_act w a
  | recheck key => exact (t.recheck_sameInputs key).wiring
  | recheckAll => exact t.recheckAll_sameInputs.wiring
  | advance ms => exact (t.advance_sameInputs ms).wiring
  | cleanup => exact t.wiring_cleanup
  | setToolTip w tip => exact (t.setToolTip_undisturbed w tip).wiring

/-- What a field is registered with changes as the steps say. -/
theorem terms_step (t : Tracker κ ω) (s : Step κ ω) (key : κ) :
    ((t.step s).1.field? key).map Tracked.terms =
      s.terms key ((t.field? key).map Tracked.terms) := by
  rw [terms_eq_plans, terms_eq_plans, wiring_step, terms_rewire]

theorem terms_run (t : Tracker κ ω) (steps : List (Step κ ω)) (key : κ) :
    ((t.run steps).field? key).map Tracked.terms =
      steps.foldl (fun before s => s.terms key before) ((t.field? key).map Tracked.terms) := by
  induction steps generalizing t with
  | nil => rfl
  | cons s rest ih =>
      -- The rest of the run begins with what the first step made of the terms.
      have hrest := ih (t.step s).1
      rw [terms_step] at hrest
      exact hrest

/-- A new field is judged at once, and the others do not notice. Timers and
    listeners that a replaced field leaves are no debt of anybody. -/
theorem FreshBut.register {t : Tracker κ ω} (h : FreshBut [] t) (key : κ) (w : ω)
    (check : Check ω) (required : Bool) (hplain : check.Plain) :
    FreshBut [] (t.register key w check required) := by
  rw [register_eq_validate_joined]
  refine FreshBut.validate ?_
  refine ⟨?_, fun k field hfield _ value hvalue => ?_, fun k field hfield hsoon _ => ?_⟩
  · rw [wiring_joined]
    exact h.attentive.register key _ hplain
  · -- Until it is judged the new field is owed that, and only it is.
    rcases field_cases (t.field?_joined key k w check required) _ hfield with
      ⟨-, rfl⟩ | ⟨-, hold⟩
    · -- What has judged nothing remembers nothing wrong.
      cases hvalue
    · rw [text_joined]
      exact h.remembers k field hold List.not_mem_nil value hvalue
  · rcases field_cases (t.field?_joined key k w check required) _ hfield with
      ⟨rfl, -⟩ | ⟨-, hold⟩
    · exact absurd (List.mem_singleton_self _) hsoon
    · rw [text_joined]
      exact h.current k field hold List.not_mem_nil List.not_mem_nil

/-- Every step keeps the fields fresh. -/
theorem FreshBut.step {t : Tracker κ ω} (h : FreshBut [] t) (s : Step κ ω) (hs : s.Plain) :
    FreshBut [] (t.step s).1 := by
  cases s with
  | register key w check required => exact h.register key w check required hs
  | act w a => exact h.act w a
  | recheck key => exact h.recheck_of_fresh key
  | recheckAll => exact h.recheckAll
  | advance ms => exact h.advance ms
  | cleanup => exact FreshBut.cleanup []
  | setToolTip w tip => exact h.of_undisturbed (t.setToolTip_undisturbed w tip) rfl

theorem FreshBut.run {t : Tracker κ ω} (h : FreshBut [] t) (steps : List (Step κ ω))
    (hplain : ∀ s ∈ steps, s.Plain) : FreshBut [] (t.run steps) :=
  List.foldlRecOn _ _ h (fun _ ht s hs => FreshBut.step ht s (hplain s hs))

section EveryField

variable {P : Tracked ω → Prop}
variable (hjudged : ∀ (field : Tracked ω) s value, P (field.judgedOn s value))

include hjudged

/-- What every judgement makes of its field is stable, if all fields are that. A
    field need not be that between forgetting and judging. -/
theorem stable_forall_field :
    Stable fun t : Tracker κ ω => ∀ key field, t.field? key = some field → P field where
  record _ _ _ h := h
  timers _ _ _ h := h
  validate t key h k field hfield := by
    rw [field?_validate] at hfield
    by_cases hk : k = key
    · rw [if_pos hk, Option.map_eq_some_iff] at hfield
      rcases hfield with ⟨before, hbefore, rfl⟩
      by_cases hlast : before.lastValue = some (t.text before.widget)
      · rw [if_pos hlast]
        exact h key before hbefore
      · rw [if_neg hlast]
        exact hjudged before _ _
    · rw [if_neg hk] at hfield
      exact h k field hfield
  recheck t key h k field hfield := by
    rw [field?_recheck] at hfield
    by_cases hk : k = key
    · rw [if_pos hk, Option.map_eq_some_iff] at hfield
      rcases hfield with ⟨before, -, rfl⟩
      exact hjudged before _ _
    · rw [if_neg hk] at hfield
      exact h k field hfield

/-- A registration ends with a judgement, and what the field was before nobody
    sees. -/
theorem forall_field_register {t : Tracker κ ω}
    (h : ∀ key field, t.field? key = some field → P field) (key : κ) (w : ω) (check : Check ω)
    (required : Bool) (k : κ) (field : Tracked ω)
    (hfield : (t.register key w check required).field? k = some field) : P field := by
  rw [register_eq_validate_joined, field?_validate, field?_joined, field?_joined,
    if_pos rfl, Option.map_some] at hfield
  by_cases hk : k = key
  · -- The new field has judged nothing yet, so its text is not the one judged last.
    have hnew : ∀ value, (Tracked.unjudged w check required t.registrations).lastValue ≠
        some value := fun _ => (Option.some_ne_none _).symm
    rw [if_pos hk, if_neg (hnew _), Option.some.injEq] at hfield
    rw [← hfield]
    exact hjudged _ _ _
  · rw [if_neg hk, if_neg hk] at hfield
    exact h k field hfield

/-- After every run all fields are what a judgement makes of them. -/
theorem forall_field_run (delay : Nat) (guards : ω → Option Field) (toolTips : ω → String)
    (steps : List (Step κ ω)) (key : κ) (field : Tracked ω)
    (hfield : ((new delay guards toolTips).run steps).field? key = some field) : P field := by
  have hstable := stable_forall_field (κ := κ) hjudged
  have hstep : ∀ t : Tracker κ ω, (∀ key field, t.field? key = some field → P field) →
      ∀ s, ∀ key field, (t.step s).1.field? key = some field → P field := by
    intro t h s
    cases s with
    | register key w check required => exact forall_field_register hjudged h key w check required
    | act w a => exact hstable.act t w a h
    | recheck key => exact hstable.recheck t key h
    | recheckAll => exact hstable.recheckAll t h
    | advance ms => exact hstable.advance t ms h
    | cleanup => exact nofun
    | setToolTip w tip => exact h
  exact List.foldlRecOn (motive := fun t : Tracker κ ω =>
    ∀ key field, t.field? key = some field → P field) steps _
      (fun _ _ hnone => absurd hnone.symm (Option.some_ne_none _))
      (fun t ht s _ => hstep t ht s) key field hfield

end EveryField

/-- Between forgetting and judging a field is without a verdict, and at no other
    time. -/
theorem stable_allJudged : Stable (AllJudged (κ := κ) (ω := ω)) :=
  stable_forall_field fun _ _ _ => Option.some_ne_none _

/-- A registration ends with a verdict. -/
theorem AllJudged.register {t : Tracker κ ω} (h : AllJudged t) (key : κ) (w : ω)
    (check : Check ω) (required : Bool) : AllJudged (t.register key w check required) :=
  forall_field_register (fun _ _ _ => Option.some_ne_none _) h key w check required

/-- Whatever is done with a tracker whose checks answer by the text alone, its
    fields are those that were registered and not forgotten, each with what it was
    registered with last. Each of them either is about to be judged, or the text
    judged last is the one its widget holds and the verdict is the one that judging
    it now would give. -/
theorem isPending_or_upToDate (delay : Nat) (guards : ω → Option Field) (toolTips : ω → String)
    (steps : List (Step κ ω)) (hplain : ∀ s ∈ steps, s.Plain) (key : κ) :
    let t := (new delay guards toolTips : Tracker κ ω).run steps
    (t.field? key).map Tracked.terms = termsAfter steps key ∧
      ∀ field, t.field? key = some field →
        t.isPending key ∨
          (field.lastValue = some (t.text field.widget) ∧
            field.verdict =
              field.check.verdict field.required t.surroundings (t.text field.widget)) := by
  intro t
  have hfresh : FreshBut [] t := (freshBut_new delay guards toolTips).run steps hplain
  refine ⟨terms_run _ steps key, fun field hfield => ?_⟩
  by_cases hpending : t.isPending key
  · exact Or.inl hpending
  · refine Or.inr ⟨?_, (hfresh.isPending_or_verdict_of_check hfield).resolve_left hpending⟩
    -- The timer that is asked about is the field's own, whatever others still run.
    have htimer : ¬t.agenda.isPending (timer key field) := by
      rw [isPending, hfield] at hpending
      exact hpending
    exact (hfresh.current key field hfield List.not_mem_nil List.not_mem_nil).resolve_left htimer

/-- A key that is registered twice, at last with the widget of another key, while
    the timer of its first registration runs. -/
def replacedRun : List (Step String Nat) :=
  [.register "phone" 0 (.grammar .phoneNumber) true,
    .act 0 (.setText ['3']),
    .register "phone" 1 (.rule fun _ _ => .fault "Not this one") true,
    .register "name" 1 (.grammar .name) false,
    .act 1 (.setText ['b']),
    .advance 100,
    .recheck "phone"]

theorem plain_replacedRun : ∀ s ∈ replacedRun, s.Plain := by
  unfold replacedRun
  intro s hs
  simp only [List.mem_cons, List.not_mem_nil, or_false] at hs
  rcases hs with rfl | rfl | rfl | rfl | rfl | rfl | rfl <;> simp [Step.Plain, Check.Plain]

/-- The timer of the first registration still runs, but the field that is tracked
    now is up to date with the text of its widget. -/
theorem isPending_or_upToDate_replacedRun :
    (∀ s ∈ replacedRun, s.Plain) ∧
      ((new 200 (fun _ => none) fun _ => "").run replacedRun).agenda.isPending
        (.recheck "phone" 0) ∧
      ∃ field, ((new 200 (fun _ => none) fun _ => "").run replacedRun).field? "phone" = some field ∧
        field.widget = 1 ∧ field.lastValue = some ['b'] ∧
        field.verdict = .fault "Not this one" := by
  rcases isPending_or_upToDate 200 (fun _ => none) (fun _ => "") replacedRun plain_replacedRun
    "phone" with ⟨hterms, hjudged⟩
  rw [show termsAfter replacedRun "phone" = some
    { widget := 1, check := .rule fun _ _ => .fault "Not this one", required := true } from rfl]
    at hterms
  rcases Option.map_eq_some_iff.mp hterms with ⟨field, hfield, hregistered⟩
  have hwidget : field.widget = 1 := congrArg Terms.widget hregistered
  have hcheck : field.check = .rule fun _ _ => .fault "Not this one" :=
    congrArg Terms.check hregistered
  have hrequired : field.required = true := congrArg Terms.required hregistered
  rcases hjudged field hfield with hpending | ⟨hlast, hverdict⟩
  · exact absurd hpending (by decide +kernel)
  · rw [hwidget] at hlast hverdict
    rw [hcheck, hrequired] at hverdict
    refine ⟨plain_replacedRun, by decide +kernel, field, hfield, hwidget, hlast.trans ?_,
      hverdict.trans ?_⟩
    · decide +kernel
    · decide +kernel

end Tracker

end ManagerSignup
