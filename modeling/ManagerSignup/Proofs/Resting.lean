import ManagerSignup.Proofs.Announcements
import ManagerSignup.Proofs.Deadlines

/-!
# Waiting and Asking

Waiting until every timer has rung and having every field judged at once come to
the same.

The two go very different ways. Waiting judges the fields whose timers run, in
the order in which they ring, and passes over those that hold a text they judged
before. Asking judges every field, in the order of registration, whatever it
knows. They meet because both end at rest: every field has judged the text its
widget holds. What is passed over while waiting is fresh, so nothing is lost by
not looking at it, and a tracker at rest is determined by what was registered and
by the texts. Neither of these is touched on either way.

At rest there is nothing left to say. A field that is judged again gets the
verdict it has, whose message is no news, and the conjunction was announced when
it came about. So asking again is heard by nobody, and that is why it can be
asked without being remembered.

Checks that answer by the text alone are what this takes. A check that counts how
often it was asked answers differently the second time.

## Main definitions

* `Event.isSignal`, `Tracker.signals`: What was said about the fields.
* `Tracker.AtRest`: Every field has judged the text its widget holds.

## Theorems

* `Tracker.AtRest.fields_eq`: At rest the fields are what the inputs make them.
* `Tracker.AtRest.recheck`, `Tracker.AtRest.recheckAll`: Asking a tracker at rest.
* `Tracker.FreshBut.atRest`: Fresh fields without timers are at rest.
* `Tracker.FreshBut.atRest_advance`, `Tracker.FreshBut.atRest_recheckAll`: Two ways to
  come to rest.
* `Tracker.advance_agrees_recheckAll`: Waiting and asking after every run.
-/

namespace ManagerSignup

variable {κ ω : Type}

/-- An event by which others learn how a field or the fields as a whole stand. -/
def Event.isSignal : Event κ ω → Bool
  | .judged .. => true
  | .overall _ => true
  | _ => false

/-- A field is what it was registered with, the text judged last and the
    verdict. -/
theorem Tracked.eq_of_plan_eq {field field' : Tracked ω} (hplan : field.plan = field'.plan)
    (hlast : field.lastValue = field'.lastValue) (hverdict : field.verdict = field'.verdict) :
    field = field' := by
  rcases field with ⟨widget, check, required, registration, lastValue, valid, message⟩
  rcases field' with ⟨widget', check', required', registration', lastValue', valid', message'⟩
  rcases Plan.mk.inj hplan with ⟨rfl, rfl, rfl, rfl⟩
  rcases Verdict.mk.inj hverdict with ⟨rfl, rfl⟩
  cases hlast
  rfl

namespace Tracker

/-- What was said about the fields, one by one and as a whole, in order. -/
def signals (t : Tracker κ ω) : List (Event κ ω) :=
  (t.history.map Stamped.event).filter Event.isSignal

/-- The same wiring is that of the same keys in the same order. -/
theorem keys_eq_of_wiring_eq {t t' : Tracker κ ω} (h : t.wiring = t'.wiring) :
    t.fields.keys = t'.fields.keys := by
  rw [← Table.keys_view Tracked.plan t.fields, ← Table.keys_view Tracked.plan t'.fields]
  exact congrArg (fun x : Wiring κ ω => x.plans.keys) h

theorem signals_recordAll (t : Tracker κ ω) (es : List (Event κ ω))
    (h : ∀ e ∈ es, ¬e.isSignal) : (t.recordAll es).signals = t.signals := by
  have hnone : es.filter Event.isSignal = [] := List.filter_eq_nil_iff.mpr h
  simp only [signals, recordAll, List.map_append, List.filter_append, List.map_map,
    Function.comp_def, List.map_id', hnone, List.append_nil]

variable [DecidableEq κ]

/-- Fields that agree on a verdict with those before stand as those did. -/
theorem allValid_putField (t : Tracker κ ω) (key : κ) (field field' : Tracked ω)
    (h : t.field? key = some field) (hvalid : field'.valid = field.valid) :
    (t.putField key field').allValid = t.allValid := by
  have hview : Table.find? key (Table.view Tracked.valid t.fields) = some field'.valid := by
    rw [Table.find?_view, show Table.find? key t.fields = some field from h, hvalid]
    rfl
  rw [allValid_eq_view, allValid_eq_view]
  change (Table.view Tracked.valid (Table.put key field' t.fields)).all Prod.snd = _
  rw [Table.view_put, Table.put_eq_self _ _ _ hview]

variable [DecidableEq ω]

/-- Every field has judged the text its widget holds, its verdict is the one that
    judging it now would give, and the conjunction has been announced. -/
structure AtRest (t : Tracker κ ω) : Prop where
  once : t.fields.keys.Nodup
  fresh : FreshBut [] t
  current : ∀ key field, t.field? key = some field →
    field.lastValue = some (t.text field.widget)
  overall : t.fields ≠ [] → t.overall = some t.allValid

/-- The verdict that judging a field at rest would give is the one it has. -/
theorem AtRest.judgedOn_eq_self {t : Tracker κ ω} (h : AtRest t) {key : κ} {field : Tracked ω}
    (hfield : t.field? key = some field) :
    field.judgedOn t.surroundings (t.text field.widget) = field := by
  have hlast := h.current key field hfield
  have hsteady := (h.fresh.attentive key field.plan (find?_plans hfield)).1
  have hverdict : field.verdict =
      field.check.verdict field.required t.surroundings (t.text field.widget) := by
    rw [h.fresh.remembers key field hfield List.not_mem_nil _ hlast]
    exact field.plan.verdictOn_self hsteady t.surroundings
  refine Tracked.eq_of_plan_eq rfl hlast.symm ?_
  rw [hverdict]
  rfl

/-- At rest the fields are what the wiring and the texts make them, however the
    tracker came to rest. -/
theorem AtRest.fields_eq {t t' : Tracker κ ω} (h : AtRest t) (h' : AtRest t')
    (hwiring : t.wiring = t'.wiring) (htext : t.text = t'.text) : t.fields = t'.fields := by
  refine Table.eq_of_find?_eq _ _ h.once (keys_eq_of_wiring_eq hwiring) fun key => ?_
  have hplan : (t.field? key).map Tracked.plan = (t'.field? key).map Tracked.plan := by
    have hfound := congrArg (fun x : Wiring κ ω => Table.find? key x.plans) hwiring
    simp only [wiring, Table.find?_view] at hfound
    exact hfound
  change t.field? key = t'.field? key
  cases hfield : t.field? key with
  | none =>
      rw [hfield, Option.map_none, eq_comm, Option.map_eq_none_iff] at hplan
      exact hplan.symm
  | some field =>
      rw [hfield, Option.map_some, eq_comm, Option.map_eq_some_iff] at hplan
      rcases hplan with ⟨field', hfield', hsame⟩
      rw [hfield', Option.some.injEq]
      -- Both have judged the same text, and both remember the verdict on it.
      have hwidget : field'.widget = field.widget := congrArg Plan.widget hsame
      have hlast : field.lastValue = field'.lastValue := by
        rw [h.current key field hfield, h'.current key field' hfield', htext, hwidget]
      refine Tracked.eq_of_plan_eq hsame.symm hlast ?_
      rw [h.fresh.remembers key field hfield List.not_mem_nil _ (h.current key field hfield),
        h'.fresh.remembers key field' hfield' List.not_mem_nil _ (h'.current key field' hfield'),
        hsame, htext, hwidget]

/-- Fresh fields whose timers do not run are at rest. -/
theorem FreshBut.atRest {t : Tracker κ ω} (h : FreshBut [] t) (hannounced : Announced t)
    (honce : t.fields.keys.Nodup) (hidle : ∀ key, t.isPending key = false) : AtRest t where
  once := honce
  fresh := h
  overall := hannounced.settled
  current key field hfield := by
    refine (h.current key field hfield List.not_mem_nil List.not_mem_nil).resolve_left ?_
    have htimer := hidle key
    rw [isPending, hfield] at htimer
    exact Bool.not_eq_true _ ▸ htimer

/-- At rest the last announcement is whether each of the fields is valid. -/
theorem AtRest.getLast?_announcements {t : Tracker κ ω} (h : AtRest t)
    (hannounced : Announced t) (hsome : t.fields ≠ []) :
    t.announcements.getLast? = some (t.fields.keys.all t.isValid) := by
  rw [hannounced.last, h.overall hsome, t.allValid_eq_all_isValid h.once]

variable [Named κ]

/-- A judgement that comes to the verdict a field has is heard by nobody. -/
theorem signals_judge_of_same (t : Tracker κ ω) (key : κ) (field : Tracked ω) (value : Text)
    (hfield : t.field? key = some field)
    (hsame : field.check.verdict field.required t.surroundings value = field.verdict)
    (hoverall : t.overall = some t.allValid) :
    (t.judge key field value).signals = t.signals ∧
      (t.judge key field value).overall = t.overall := by
  let told : Tracker κ ω :=
    { t.recordAll (field.check.consequences key value) with judged := t.judged + 1 }
  let again : Tracked ω := { field with lastValue := some value }
  have hjudge : t.judge key field value = (told.putField key again).announce := by
    unfold judge settle
    simp only [hsame]
    -- The message is the one there was, so it is not shown again.
    rw [if_pos (show field.verdict.message = field.message from rfl)]
    rfl
  have hvalid : (told.putField key again).allValid = t.allValid :=
    allValid_putField told key field again hfield rfl
  have hsilent : (told.putField key again).announce = told.putField key again := by
    rw [announce, if_pos]
    rw [hvalid]
    exact hoverall
  rw [hjudge, hsilent]
  refine ⟨t.signals_recordAll _ fun e he => ?_, rfl⟩
  rcases field.check.noted_or_reported_of_mem_consequences key value e he with
    ⟨_, rfl⟩ | ⟨_, rfl⟩
  · exact Bool.false_ne_true
  · exact Bool.false_ne_true

/-- Asking for one field of a tracker at rest is heard by nobody and changes no
    field. -/
theorem AtRest.recheck {t : Tracker κ ω} (h : AtRest t) (key : κ) :
    AtRest (t.recheck key) ∧ (t.recheck key).signals = t.signals := by
  have hinputs := t.recheck_sameInputs key
  have hfield? : ∀ k, (t.recheck key).field? k = t.field? k := by
    intro k
    rw [field?_recheck]
    by_cases hk : k = key
    · rw [if_pos hk, hk]
      cases hfield : t.field? key with
      | none => rfl
      | some field => rw [Option.map_some, h.judgedOn_eq_self hfield]
    · rw [if_neg hk]
  have hfields : (t.recheck key).fields = t.fields :=
    (Table.eq_of_find?_eq _ _ h.once (keys_eq_of_wiring_eq hinputs.wiring.symm)
      fun k => (hfield? k).symm).symm
  have hquiet : (t.recheck key).signals = t.signals ∧ (t.recheck key).overall = t.overall := by
    cases hfield : t.field? key with
    | none =>
        rw [Tracker.recheck, hfield]
        exact ⟨rfl, rfl⟩
    | some field =>
        -- What was forgotten is judged anew, and the verdict is the old one.
        have hsome : t.fields ≠ [] :=
          List.ne_nil_of_mem (Table.mem_of_find? key field t.fields hfield)
        have hforgot := t.forget_sameInputs key field hfield
        have hfound := t.field?_forget key key field
        rw [if_pos rfl] at hfound
        have hjudgedOn := h.judgedOn_eq_self hfield
        have hsurroundings : (t.forget key field).surroundings = t.surroundings :=
          congrArg (Surroundings.mk · t.judged) hforgot.text
        rw [recheck_eq_validate_forget t key field hfield, Tracker.validate, hfound]
        simp only
        rw [if_neg (Option.some_ne_none _).symm]
        rcases signals_judge_of_same (t.forget key field) key _
          ((t.forget key field).text field.widget) hfound (by
            rw [hsurroundings, hforgot.text]
            exact congrArg Tracked.verdict hjudgedOn) (by
            rw [allValid_forget t key field hfield]
            exact h.overall hsome) with ⟨hsignals, hoverall⟩
        refine ⟨hsignals.trans ?_, hoverall⟩
        refine signals_recordAll _ [.rechecked key] fun e he => ?_
        rw [List.mem_singleton.mp he]
        exact Bool.false_ne_true
  refine ⟨⟨?_, h.fresh.recheck_of_fresh key, fun k field hfield => ?_, fun hsome => ?_⟩, hquiet.1⟩
  · rw [hfields]
    exact h.once
  · rw [hinputs.text]
    exact h.current k field ((hfield? k).symm.trans hfield)
  · rw [hquiet.2, allValid, hfields]
    exact h.overall (hfields ▸ hsome)

/-- Asking a tracker at rest is heard by nobody, and it stays at rest. -/
theorem AtRest.recheckAll {t : Tracker κ ω} (h : AtRest t) :
    AtRest t.recheckAll ∧ t.recheckAll.signals = t.signals :=
  List.foldlRecOn (motive := fun t' : Tracker κ ω => AtRest t' ∧ t'.signals = t.signals)
    t.fields.keys _ ⟨h, rfl⟩ fun _ ht key _ =>
      ⟨(ht.1.recheck key).1, (ht.1.recheck key).2.trans ht.2⟩

/-- Fresh fields come to rest by waiting as long as the delay. -/
theorem FreshBut.atRest_advance {t : Tracker κ ω} (h : FreshBut [] t) (hannounced : Announced t)
    (honce : t.fields.keys.Nodup) (hpunctual : Punctual t) (ms : Nat) (hms : t.delay ≤ ms) :
    AtRest (t.advance ms) ∧ ∀ key, (t.advance ms).isPending key = false := by
  have hkeys := keys_eq_of_wiring_eq (t.advance_sameInputs ms).wiring
  have hidle : ∀ key, (t.advance ms).isPending key = false := by
    intro key
    rw [isPending]
    cases (t.advance ms).field? key with
    | none => rfl
    | some field => exact hpunctual.isPending_advance ms hms _
  exact ⟨(h.advance ms).atRest (hannounced.step (.advance ms)) (hkeys ▸ honce) hidle, hidle⟩

/-- They also come to rest by being judged. -/
theorem FreshBut.atRest_recheckAll {t : Tracker κ ω} (h : FreshBut [] t)
    (hannounced : Announced t) (honce : t.fields.keys.Nodup) :
    AtRest t.recheckAll ∧ ∀ key, t.recheckAll.isPending key = false := by
  have hkeys := keys_eq_of_wiring_eq t.recheckAll_sameInputs.wiring
  exact ⟨h.recheckAll.atRest (hannounced.step .recheckAll) (hkeys ▸ honce) t.isPending_recheckAll,
    t.isPending_recheckAll⟩

/-- Whatever was done with a tracker whose checks answer by the text alone,
    waiting as long as its delay or longer and judging everything at once leave
    the same fields: each with the text judged last, the verdict and the message.
    If there are any, the last announcement is the same on both ways, and it is
    what judging everything answers: whether each of them is valid. No field's
    timer runs after either, and judging everything again is heard by nobody. -/
theorem advance_agrees_recheckAll (delay : Nat) (guards : ω → Option Field)
    (toolTips : ω → String) (steps : List (Step κ ω)) (hplain : ∀ s ∈ steps, s.Plain) (ms : Nat)
    (hms : delay ≤ ms) :
    let t := (new delay guards toolTips : Tracker κ ω).run steps
    let waited := (t.step (.advance ms)).1
    let asked := (t.step .recheckAll).1
    waited.fields = asked.fields ∧ waited.fields.keys = t.fields.keys ∧
      (t.fields ≠ [] →
        waited.announcements.getLast? = some (waited.fields.keys.all waited.isValid) ∧
        asked.announcements.getLast? = some (waited.fields.keys.all waited.isValid)) ∧
      (∀ key, waited.isPending key = false ∧ asked.isPending key = false) ∧
      (t.step .recheckAll).2 = .applied (waited.fields.keys.all waited.isValid) ∧
      (waited.step .recheckAll).1.signals = waited.signals ∧
      (asked.step .recheckAll).1.signals = asked.signals := by
  intro t waited asked
  have hfresh : FreshBut [] t := (freshBut_new delay guards toolTips).run steps hplain
  have hannounced : Announced t := announced_run delay guards toolTips steps
  have honce : t.fields.keys.Nodup := nodup_keys_run delay guards toolTips steps
  have hdelay : t.delay ≤ ms := (delay_run _ steps).le.trans hms
  rcases hfresh.atRest_advance hannounced honce (punctual_run delay guards toolTips steps) ms
    hdelay with ⟨hwaited, hidle⟩
  rcases hfresh.atRest_recheckAll hannounced honce with ⟨hasked, hidle'⟩
  -- Both ways leave the inputs alone, and at rest these say all.
  have hsame : SameInputs t waited := t.advance_sameInputs ms
  have hsame' : SameInputs t asked := t.recheckAll_sameInputs
  have hkeys : waited.fields.keys = t.fields.keys := keys_eq_of_wiring_eq hsame.wiring
  have hfields : waited.fields = asked.fields :=
    hwaited.fields_eq hasked (hsame.wiring.trans hsame'.wiring.symm)
      (hsame.text.trans hsame'.text.symm)
  have hvalid : asked.allValid = waited.fields.keys.all waited.isValid := by
    rw [← waited.allValid_eq_all_isValid hwaited.once, allValid, allValid, hfields]
  have hthere : t.fields ≠ [] → waited.fields ≠ [] := by
    intro hfields hnone
    rw [hnone] at hkeys
    exact hfields (List.map_eq_nil_iff.mp hkeys.symm)
  refine ⟨hfields, hkeys, fun hsome => ⟨?_, ?_⟩, fun key => ⟨hidle key, hidle' key⟩,
    congrArg ActionAnswer.applied hvalid, hwaited.recheckAll.2, hasked.recheckAll.2⟩
  · exact hwaited.getLast?_announcements (hannounced.step (.advance ms)) (hthere hsome)
  · have hconjunction : asked.fields.keys.all asked.isValid =
        waited.fields.keys.all waited.isValid := by
      rw [← asked.allValid_eq_all_isValid hasked.once, hvalid]
    rw [← hconjunction]
    exact hasked.getLast?_announcements (hannounced.step .recheckAll) (hfields ▸ hthere hsome)

/-- One field was judged a moment ago, the timer of another runs, and so does one
    that a replaced field left behind. Both ways find the name fine, and the
    number wrong. -/
theorem advance_agrees_recheckAll_replacedRun :
    let t := (new 200 (fun _ => none) fun _ => "" : Tracker String Nat).run replacedRun
    let waited := (t.step (.advance 250)).1
    (∀ s ∈ replacedRun, s.Plain) ∧ 200 ≤ 250 ∧ t.isPending "name" = true ∧
      waited.fields = (t.step .recheckAll).1.fields ∧ waited.fields.keys = ["phone", "name"] ∧
      (t.step .recheckAll).2 = .applied false ∧ waited.isPending "name" = false ∧
      (waited.step .recheckAll).1.signals = waited.signals := by
  intro t waited
  have hboth := advance_agrees_recheckAll 200 (fun _ => none) (fun _ => "") replacedRun
    plain_replacedRun 250 (by decide)
  have hkeys : waited.fields.keys = ["phone", "name"] := by decide +kernel
  have hinvalid : waited.isValid "phone" = false := by decide +kernel
  have hconjunction : waited.fields.keys.all waited.isValid = false := by
    rw [hkeys, List.all_cons, hinvalid, Bool.false_and]
  exact ⟨plain_replacedRun, by decide, by decide +kernel, hboth.1, hkeys,
    hboth.2.2.2.2.1.trans (congrArg ActionAnswer.applied hconjunction),
    (hboth.2.2.2.1 "name").1, hboth.2.2.2.2.2.1⟩

end Tracker

end ManagerSignup
