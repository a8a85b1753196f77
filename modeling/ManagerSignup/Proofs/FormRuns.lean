import ManagerSignup.Form
import ManagerSignup.Proofs.Freshness

/-!
# Runs of the Form

What the form does to its inputs, whatever is done with it.

A form is opened, and then there is no end to what can happen: edits of any
input, time, clicks, submissions with any outcome. All of it comes down to six
things that are done to the tracker and to setting the button, and `Kept` asks of
a property that each of the six keeps it. `Kept.step` is the one place where the
steps of the form are opened, so an invariant is shown by six short arguments
about the tracker.

The button is apart because a submission sets it by hand. What does not speak of
the button survives that anyway, which is `KeptByButton`. What does speak of it
may fail while a submission is under way and still be right afterwards.

Some invariants hold only if the inputs are edited fairly. Which edits are made
is therefore a parameter of `Reachable`. What the form itself does to its inputs
is not: it only ever empties them, and `Kept` asks for that separately.

The first invariant is the wiring. Nothing that can be done with a form
registers a field, so it is always the wiring the form was opened with, and that
one is attentive. The confirmation alone looks at another input, and it is told
of every change of the password.

## Main definitions

* `Form.wiring`: The wiring of every form.
* `Form.Kept`: A property that every operation of the form keeps.
* `Form.KeptByButton`: A property that survives setting the button.
* `Form.Opened`: How a form begins.
* `Form.Allows`: The edits in a step are among those that may be made.
* `Form.Reachable`: What a form may become.

## Theorems

* `Form.trackInputs_eq`: Tracking the inputs ends with judging all of them.
* `Form.wiring_trackInputs`: Tracking the inputs makes the wiring.
* `Form.attentive_wiring`: The wiring is attentive.
* `Form.submit_of_ok`, `Form.submit_of_error`: The two ways out of a submission.
* `Form.Kept.step`, `Form.Kept.of_reachable`: Steps and runs.
* `Form.wiring_of_reachable`: No run changes the wiring.
-/

namespace ManagerSignup

namespace Form

/-- The plan of an input that was the `n`-th to be registered. -/
def plan (i : Input) (n : Nat) : Plan Input :=
  { widget := i, check := check i, required := true, registration := n }

/-- The wiring of every form: each input has one field, which hears of its own
    input, and the confirmation hears of the password. -/
def wiring : Wiring Input Input :=
  { plans := Input.all.zipIdx.map fun entry => (entry.1, plan entry.1 entry.2)
    links := fun i =>
      { guard := i.guard?
        onChange := .recheckSoon i ::
          if i = .password then [.recheckNow .confirmation] else []
        onFinish := [i] } }

theorem find?_wiring (i : Input) : ∃ n, Table.find? i wiring.plans = some (plan i n) := by
  cases i with
  | guarded f => cases f <;> exact ⟨_, rfl⟩
  | password => exact ⟨_, rfl⟩
  | confirmation => exact ⟨_, rfl⟩
  | documentType => exact ⟨_, rfl⟩

/-- Registering inputs in turn registers their plans in turn. -/
theorem wiring_foldl_registerInput (inputs : List Input) (t : Tracker Input Input) :
    (inputs.foldl registerInput t).wiring =
      (inputs.zipIdx t.registrations).foldl
        (fun x entry => x.register entry.1 (plan entry.1 entry.2)) t.wiring := by
  induction inputs generalizing t with
  | nil => rfl
  | cons i rest ih =>
      have hwiring : (registerInput t i).wiring = t.wiring.register i (plan i t.registrations) :=
        t.wiring_register i i (check i) true
      have hnumber : (registerInput t i).registrations = t.registrations + 1 :=
        t.registrations_register i i (check i) true
      rw [List.foldl_cons, ih, hwiring, hnumber, List.zipIdx_cons, List.foldl_cons]

/-- What the registrations of a form, and the listener that judges the
    confirmation, make of the wiring of blank inputs. -/
theorem listen_foldl_register_wiring_blankInputs :
    ((Input.all.zipIdx.foldl (fun x entry => x.register entry.1 (plan entry.1 entry.2))
      blankInputs.wiring).listen .password (.recheckNow .confirmation)) = wiring := by
  ext1
  · rfl
  · funext i
    cases i with
    | guarded f => cases f <;> rfl
    | password => rfl
    | confirmation => rfl
    | documentType => rfl

/-- The inputs with all their fields and listeners and with the button, before
    everything is judged once more. -/
def connected (t : Tracker Input Input) : Tracker Input Input :=
  { (Input.all.foldl registerInput t).update .password fun w =>
      { w with onChange := w.onChange ++ [.recheckNow .confirmation] } with
    button := some false }

theorem trackInputs_eq (t : Tracker Input Input) :
    trackInputs t = (connected t).recheckAll.setButton (connected t).recheckAll.allValid := by
  simp only [trackInputs, connected]

/-- Connecting the inputs makes the wiring. -/
theorem wiring_connected (t : Tracker Input Input) (hwiring : t.wiring = blankInputs.wiring)
    (hfirst : t.registrations = 0) : (connected t).wiring = wiring := by
  have hregistered := wiring_foldl_registerInput Input.all t
  rw [hwiring, hfirst] at hregistered
  unfold connected
  -- What the registrations made of the tracker matters only by its wiring.
  generalize Input.all.foldl registerInput t = registered at hregistered ⊢
  have hlistening := registered.wiring_listen .password (.recheckNow .confirmation)
  rw [hregistered, listen_foldl_register_wiring_blankInputs] at hlistening
  exact hlistening

/-- Tracking the inputs makes the wiring. -/
theorem wiring_trackInputs (t : Tracker Input Input) (hwiring : t.wiring = blankInputs.wiring)
    (hfirst : t.registrations = 0) : (trackInputs t).wiring = wiring := by
  rw [trackInputs_eq, (Tracker.setButton_undisturbed _ _).wiring,
    (Tracker.recheckAll_sameInputs _).wiring]
  exact wiring_connected t hwiring hfirst

theorem text_foldl_registerInput (inputs : List Input) (t : Tracker Input Input) :
    (inputs.foldl registerInput t).text = t.text := by
  induction inputs generalizing t with
  | nil => rfl
  | cons i rest ih =>
      rw [List.foldl_cons, ih]
      exact t.text_register i i (check i) true

/-- Tracking the inputs does not change what they hold. -/
theorem text_trackInputs (t : Tracker Input Input) (i : Input) :
    (trackInputs t).text i = t.text i := by
  have hregistered := congrFun (text_foldl_registerInput Input.all t) i
  rw [trackInputs_eq, (Tracker.setButton_undisturbed _ _).text,
    (Tracker.recheckAll_sameInputs _).text]
  unfold connected
  generalize Input.all.foldl registerInput t = registered at hregistered ⊢
  rw [← hregistered]
  refine (registered.text_update .password i fun w =>
    { w with onChange := w.onChange ++ [.recheckNow .confirmation] }).trans ?_
  split
  · rfl
  · rfl

/-- No check of the form counts verdicts. -/
theorem steady_check (i : Input) : (check i).Steady := by
  cases i with
  | guarded f => exact fun _ _ _ _ _ => rfl
  | password => exact fun _ _ _ _ _ => rfl
  | documentType => exact fun _ _ _ _ _ => rfl
  | confirmation =>
      intro required s s' value htexts
      simp only [Check.verdict, check, confirmationVerdict, htexts]

/-- Two sets of entries agree about the passwords if they agree on both of them. -/
theorem passwordsMatch_congr (texts texts' : Input → Text)
    (hpassword : texts .password = texts' .password)
    (hconfirmation : texts .confirmation = texts' .confirmation) :
    (entriesOf texts).passwordsMatch = (entriesOf texts').passwordsMatch := by
  unfold Entries.passwordsMatch Entries.text entriesOf
  simp only [hpassword, hconfirmation]

/-- Only the confirmation looks at other inputs, and of these only at the
    password. -/
theorem ignores_check (i w : Input)
    (h : i = .confirmation → w ≠ .password ∧ w ≠ .confirmation) : (check i).Ignores w := by
  cases i with
  | guarded f => exact fun _ _ _ _ _ => rfl
  | password => exact fun _ _ _ _ _ => rfl
  | documentType => exact fun _ _ _ _ _ => rfl
  | confirmation =>
      intro required s s' value htexts
      have hw := h rfl
      have hmatch := passwordsMatch_congr s.texts s'.texts
        (htexts .password (Ne.symm hw.1)) (htexts .confirmation (Ne.symm hw.2))
      simp only [Check.verdict, check, confirmationVerdict, hmatch]

/-- Every field of the form hears of all that its verdict hangs on. -/
theorem attentive_wiring : wiring.Attentive := by
  intro i p hp
  rcases find?_wiring i with ⟨n, hn⟩
  rw [hn, Option.some.injEq] at hp
  rw [← hp]
  refine ⟨steady_check i, List.mem_cons_self .., fun w hw => ?_⟩
  change w ≠ i at hw
  change .recheckNow i ∈ (wiring.links w).onChange ∨ (check i).Ignores w
  -- One pair of inputs is not left alone, and there the listener stands.
  by_cases hconfirmation : i = .confirmation ∧ w = .password
  · rw [hconfirmation.1, hconfirmation.2]
    exact Or.inl (by decide)
  · refine Or.inr (ignores_check i w fun hi => ⟨fun hpassword => ?_, fun hself => ?_⟩)
    · exact hconfirmation ⟨hi, hpassword⟩
    · exact hw (hself.trans hi.symm)

/-- A property that every operation of the form on its tracker keeps. Of the
    edits it has to survive those that may be made, and the emptying of an
    input. -/
structure Kept (may : Tracker Input Input → Input → Action → Prop)
    (P : Tracker Input Input → Prop) : Prop where
  act : ∀ t i a, may t i a → P t → P (t.act i a).1
  empty : ∀ (t : Tracker Input Input) i, P t → P (t.act i (.setText [])).1
  recheckAll : ∀ t, P t → P t.recheckAll
  advance : ∀ t ms, P t → P (t.advance ms)
  recordAll : ∀ t es, P t → P (t.recordAll es)
  startPause : ∀ (t : Tracker Input Input) due,
    P t → P { t with agenda := t.agenda.start .pause due }

/-- A property that survives what a submission does to the button. -/
def KeptByButton (P : Tracker Input Input → Prop) : Prop :=
  ∀ t b, b = false ∨ b = t.allValid → P t → P (t.setButton b)

/-- The edits in a step are among those that may be made. -/
def Allows (may : Tracker Input Input → Input → Action → Prop) (form : Form) : Step → Prop
  | .act i a => may form.tracker i a
  | .fill texts => ∀ entry ∈ texts, ∀ t, may t entry.1 (.setText entry.2)
  | _ => True

/-- How a form begins. -/
inductive Opened : Form → Prop where
  | forOrganization (organization : String) (backend : Backend) :
      Opened (forOrganization organization backend)
  | ofSettings (stored : Option Value) (backend : Backend) (form : Form) :
      ofSettings stored backend = .ok form → Opened form

/-- What a form may become, if certain edits may be made and anything else may
    happen. -/
inductive Reachable (may : Tracker Input Input → Input → Action → Prop) : Form → Prop where
  | opened (form : Form) : form.Opened → Reachable may form
  | step (form : Form) (s : Step) :
      Reachable may form → form.Allows may s → Reachable may (form.step s).1

/-- Several steps that are always allowed lead from what is reachable to what
    is. -/
theorem Reachable.run {may : Tracker Input Input → Input → Action → Prop} {form : Form}
    (h : form.Reachable may) (steps : List Step)
    (hallows : ∀ s ∈ steps, ∀ form : Form, form.Allows may s) :
    (form.run steps).Reachable may :=
  List.foldlRecOn _ _ h (fun form hform s hs => .step form s hform (hallows s hs form))

section Kept

variable {may : Tracker Input Input → Input → Action → Prop} {P : Tracker Input Input → Prop}

theorem Kept.and {Q : Tracker Input Input → Prop} (hP : Kept may P) (hQ : Kept may Q) :
    Kept may fun t => P t ∧ Q t where
  act t i a hmay h := ⟨hP.act t i a hmay h.1, hQ.act t i a hmay h.2⟩
  empty t i h := ⟨hP.empty t i h.1, hQ.empty t i h.2⟩
  recheckAll t h := ⟨hP.recheckAll t h.1, hQ.recheckAll t h.2⟩
  advance t ms h := ⟨hP.advance t ms h.1, hQ.advance t ms h.2⟩
  recordAll t es h := ⟨hP.recordAll t es h.1, hQ.recordAll t es h.2⟩
  startPause t due h := ⟨hP.startPause t due h.1, hQ.startPause t due h.2⟩

theorem Kept.record (hP : Kept may P) (t : Tracker Input Input) (e : Event Input Input)
    (h : P t) : P (t.record e) :=
  hP.recordAll t [e] h

theorem Kept.recordReport (hP : Kept may P) (t : Tracker Input Input) (r : Report) (h : P t) :
    P (recordReport t r) :=
  hP.record _ _ (hP.recordAll t _ h)

/-- Emptying one input after the other. -/
def emptied (t : Tracker Input Input) : Tracker Input Input :=
  Input.all.foldl (fun t i => (t.act i (.setText [])).1) t

theorem tracker_clear (form : Form) :
    form.clear.tracker = (emptied form.tracker).recheckAll := by
  simp only [Form.clear, withTracker, emptied]

theorem Kept.emptied (hP : Kept may P) (t : Tracker Input Input) (h : P t) : P (emptied t) :=
  List.foldlRecOn _ _ h (fun t ht i _ => hP.empty t i ht)

theorem Kept.clear (hP : Kept may P) (form : Form) (h : P form.tracker) :
    P form.clear.tracker := by
  rw [tracker_clear]
  exact hP.recheckAll _ (hP.emptied _ h)

theorem Kept.fill (hP : Kept may P) (form : Form) (texts : List (Input × Text))
    (hmay : form.Allows may (.fill texts)) (h : P form.tracker) :
    P (form.fill texts).tracker :=
  List.foldlRecOn _ _ h fun t ht entry hentry => hP.act t _ _ (hmay entry hentry t) ht

theorem tracker_fail (form : Form) (x : Failure) :
    (form.fail x).tracker =
      ((recordReport form.tracker (failureReport x)).recheckAll).setButton
        ((recordReport form.tracker (failureReport x)).recheckAll).allValid :=
  rfl

theorem Kept.fail (hP : Kept may P) (hbutton : KeptByButton P) (form : Form) (x : Failure)
    (h : P form.tracker) : P (form.fail x).tracker := by
  rw [tracker_fail]
  exact hbutton _ _ (Or.inr rfl) (hP.recheckAll _ (hP.recordReport _ _ h))

/-- The tracker of a form that was cleared after a success, before the pause
    begins. -/
def afterSuccess (t : Tracker Input Input) (reply : String) : Tracker Input Input :=
  ((emptied (t.record (.noted acceptedEntry))).recheckAll).record (.accepted reply)

theorem tracker_succeed (form : Form) (reply : String) :
    (form.succeed reply).tracker =
      { afterSuccess form.tracker reply with
        agenda := (afterSuccess form.tracker reply).agenda.start .pause
          ((afterSuccess form.tracker reply).clock + pauseLength) } := by
  simp only [Form.succeed, withTracker, tracker_clear, say, afterSuccess]
  -- What judging makes of the empty inputs is on both sides, and is not looked into.
  generalize (emptied (form.tracker.record (.noted acceptedEntry))).recheckAll = cleared
  rfl

theorem Kept.succeed (hP : Kept may P) (form : Form) (reply : String) (h : P form.tracker) :
    P (form.succeed reply).tracker := by
  have hemptied := hP.emptied _ (hP.record form.tracker (.noted acceptedEntry) h)
  rw [tracker_succeed]
  exact hP.startPause _ _ (hP.record _ _ (hP.recheckAll _ hemptied))

/-- The form while a submission is under way: the button is off, and what came
    of it is written down. -/
def underWay (form : Form) : Form :=
  (form.say "" .plain).withTracker fun t => recordOutcome (t.setButton false) form.outcome

theorem Kept.underWay (hP : Kept may P) (hbutton : KeptByButton P) (form : Form)
    (h : P form.tracker) : P form.underWay.tracker :=
  hP.recordAll _ _ (hbutton form.tracker false (Or.inl rfl) h)

theorem submit_of_ok (form : Form) {reply : String} (h : form.outcome.result = .ok reply) :
    form.submit = form.underWay.succeed reply := by
  unfold submit
  simp only [h]
  rfl

theorem submit_of_error (form : Form) {x : Failure} (h : form.outcome.result = .error x) :
    form.submit = form.underWay.fail x := by
  unfold submit
  simp only [h]
  rfl

/-- A submission ends in success or in failure. -/
theorem submit_cases (form : Form) :
    (∃ reply, form.submit = form.underWay.succeed reply) ∨
      ∃ x, form.submit = form.underWay.fail x := by
  cases hresult : form.outcome.result with
  | ok reply => exact Or.inl ⟨reply, form.submit_of_ok hresult⟩
  | error x => exact Or.inr ⟨x, form.submit_of_error hresult⟩

theorem Kept.submit (hP : Kept may P) (hbutton : KeptByButton P) (form : Form)
    (h : P form.tracker) : P form.submit.tracker := by
  have hstarted := hP.underWay hbutton form h
  rcases form.submit_cases with ⟨reply, hsubmit⟩ | ⟨x, hsubmit⟩
  · rw [hsubmit]
    exact hP.succeed _ reply hstarted
  · rw [hsubmit]
    exact hP.fail hbutton _ x hstarted

/-- What every operation keeps and a submission keeps, every step keeps. -/
theorem Kept.step (hP : Kept may P)
    (hsubmit : ∀ form : Form, P form.tracker → P form.submit.tracker) (form : Form) (s : Step)
    (hmay : form.Allows may s) (h : P form.tracker) : P (form.step s).1.tracker := by
  cases s with
  | act i a => exact hP.act form.tracker i a hmay h
  | fill texts => exact hP.fill form texts hmay h
  | click =>
      -- A button that is off does nothing.
      change P form.click.tracker
      unfold Form.click
      split
      · exact hsubmit form h
      · exact h
  | submit => exact hsubmit form h
  | clear => exact hP.clear form h
  | advance ms => exact hP.advance form.tracker ms h

/-- What every step keeps and every form begins with, holds of every form. -/
theorem Kept.of_reachable (hP : Kept may P)
    (hsubmit : ∀ form : Form, P form.tracker → P form.submit.tracker)
    (hopened : ∀ form : Form, form.Opened → P form.tracker) (form : Form)
    (h : form.Reachable may) : P form.tracker := by
  induction h with
  | opened form hform => exact hopened form hform
  | step form s _ hmay ih => exact hP.step hsubmit form s hmay ih

end Kept

theorem backend_submit (form : Form) : form.submit.backend = form.backend := by
  unfold submit
  simp only
  split
  · simp only [succeed, withTracker, clear, say]
  · simp only [fail, withTracker, say]

theorem backend_step (form : Form) (s : Step) : (form.step s).1.backend = form.backend := by
  cases s with
  | act i a => simp only [step]
  | fill texts => simp only [step, fill, withTracker]
  | click =>
      change form.click.backend = form.backend
      unfold click
      split
      · exact form.backend_submit
      · rfl
  | submit => exact form.backend_submit
  | clear => simp only [step, clear, withTracker]
  | advance ms => simp only [step, withTracker]

/-- Nothing that is done with a form changes the backend. -/
theorem backend_run (form : Form) (steps : List Step) : (form.run steps).backend = form.backend :=
  List.foldlRecOn (motive := fun form' : Form => form'.backend = form.backend) steps _ rfl
    fun form' hform s _ => (form'.backend_step s).trans hform

/-- A form begins with blank inputs that are tracked. All that was written down
    before is what loading the settings left, and what is wrong with them. -/
theorem Opened.tracker_eq {form : Form} (h : form.Opened) :
    ∃ es, (∀ e ∈ es, (∃ entry, e = .noted entry) ∨ ∃ x, e = .reported (settingsReport x).error) ∧
      form.tracker = trackInputs (blankInputs.recordAll es) := by
  have hnoted : ∀ log : List Entry, ∀ e ∈ log.map (Event.noted : _ → Event Input Input),
      (∃ entry, e = .noted entry) ∨ ∃ x, e = .reported (settingsReport x).error := by
    intro log e he
    rcases List.mem_map.mp he with ⟨entry, -, rfl⟩
    exact Or.inl ⟨entry, rfl⟩
  cases h with
  | forOrganization organization backend => exact ⟨[], List.forall_mem_nil _, rfl⟩
  | ofSettings stored backend _ hform =>
      unfold Form.ofSettings at hform
      split at hform
      · next loaded _ =>
        cases hform
        exact ⟨loaded.log.map .noted, hnoted _, rfl⟩
      · -- Two things that are written down in turn are one list of things.
        next e _ =>
        cases hform
        refine ⟨(settingsReport e).log.map .noted ++ [.reported (settingsReport e).error], ?_, ?_⟩
        · intro e' he'
          rcases List.mem_append.mp he' with hlog | hreport
          · exact hnoted _ e' hlog
          · exact Or.inr ⟨e, List.mem_singleton.mp hreport⟩
        · simp only [around, Form.recordReport, Tracker.record, Tracker.recordAll, blankInputs,
            Tracker.new, List.nil_append, List.map_append, List.map_cons, List.map_nil]
      · cases hform

theorem Opened.wiring_eq {form : Form} (h : form.Opened) : form.tracker.wiring = wiring := by
  rcases h.tracker_eq with ⟨es, -, htracker⟩
  rw [htracker]
  exact wiring_trackInputs _ (blankInputs.recordAll_undisturbed es).wiring rfl

/-- Nothing that can be done with a form changes the wiring. -/
theorem kept_wiring (may : Tracker Input Input → Input → Action → Prop) :
    Kept may fun t => t.wiring = wiring where
  act t i a _ h := (t.wiring_act i a).trans h
  empty t i h := (t.wiring_act i _).trans h
  recheckAll t h := t.recheckAll_sameInputs.wiring.trans h
  advance t ms h := (t.advance_sameInputs ms).wiring.trans h
  recordAll _ _ h := h
  startPause _ _ h := h

theorem wiring_of_reachable {may : Tracker Input Input → Input → Action → Prop} (form : Form)
    (h : form.Reachable may) : form.tracker.wiring = wiring :=
  (kept_wiring may).of_reachable ((kept_wiring may).submit fun _ _ _ h => h)
    (fun _ hform => hform.wiring_eq) form h

/-- Every input has a field, with the check of the input. -/
theorem exists_field (t : Tracker Input Input) (h : t.wiring = wiring) (i : Input) :
    ∃ field, t.field? i = some field ∧ field.widget = i ∧ field.check = check i ∧
      field.required = true := by
  rcases find?_wiring i with ⟨n, hn⟩
  rw [← h] at hn
  -- The plan is found, so it is the plan of a field.
  have hview := Table.find?_view Tracked.plan i t.fields
  rw [show Table.find? i (Table.view Tracked.plan t.fields) = some (plan i n) from hn] at hview
  rcases Option.map_eq_some_iff.mp hview.symm with ⟨field, hfield, hplan⟩
  exact ⟨field, hfield, congrArg Plan.widget hplan, congrArg Plan.check hplan,
    congrArg Plan.required hplan⟩

end Form

end ManagerSignup
