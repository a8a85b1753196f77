import ManagerSignup.Proofs.Submitting

/-!
# Registrations Are Exact

Of all that is done with a form, the backend is called once for each submission
that is sound, and a registration is accepted once for each call that is
answered.

Nothing but a submission has anything to do with the backend, and what one
submission does is told by its outcome. So a run has its dealings from the forms
it submits, one after the other, and `dealings_run` says so. Which calls were
made and which registrations were accepted are two questions that are asked of
the same list, and whether they agree is settled for each submission by itself:
a reply that comes back comes back for a record.

That nobody is registered twice does not follow from this, since a user may well
submit the same entries again. It follows from what a success leaves. An empty
form is not sound, submitting it changes no text, and neither does anything else
that is not an edit, whatever timers ring in the meantime.

## Main definitions

* `Form.submits`: A step is a submission.
* `Form.submissions`: The forms that are submitted in a run.
* `Form.call`: What the backend is handed for a form, and what comes back.
* `Form.Step.isIdle`: A step by which nothing is entered.
* `Form.Blank`: Nothing stands in any input.

## Theorems

* `Form.dealings_step`, `Form.dealings_run`: What steps and runs have to do with
  the backend.
* `Form.calls_run`, `Form.accepted_run`: Which calls are made, and which
  registrations are accepted.
* `Form.blank_of_accepted_ne`: A success leaves nothing.
* `Form.Blank.step`, `Form.Blank.run`: Where there is nothing, nothing is handed
  over.
* `Form.registrations_exact`: Every registration is accepted exactly once.
-/

namespace ManagerSignup

namespace Tracker

variable {κ ω : Type}

theorem dealings_setButton (t : Tracker κ ω) (b : Bool) :
    (t.setButton b).dealings = t.dealings := rfl

variable [DecidableEq κ] [DecidableEq ω] [Named κ]

theorem dealings_register (t : Tracker κ ω) (key : κ) (w : ω) (check : Check ω)
    (required : Bool) : (t.register key w check required).dealings = t.dealings := by
  rw [register_eq_validate_joined, dealings_validate]
  exact dealings_record _ _ rfl

end Tracker

namespace Form

/-! ### What a form begins with -/

theorem dealings_trackInputs (t : Tracker Input Input) :
    (trackInputs t).dealings = t.dealings := by
  have hregistered : (Input.all.foldl registerInput t).dealings = t.dealings :=
    List.foldlRecOn (motive := fun t' : Tracker Input Input => t'.dealings = t.dealings)
      Input.all _ rfl fun t' ht i _ => (t'.dealings_register i i (check i) true).trans ht
  have hconnected : (connected t).dealings = t.dealings := by
    unfold connected
    generalize Input.all.foldl registerInput t = registered at hregistered ⊢
    exact hregistered
  rw [trackInputs_eq, Tracker.dealings_setButton, Tracker.dealings_recheckAll, hconnected]

-- Nothing was handed over before a form is there.
theorem Opened.dealings_eq_nil {form : Form} (h : form.Opened) : form.tracker.dealings = [] := by
  rcases h.tracker_eq with ⟨es, hes, htracker⟩
  have htracking : ∀ e ∈ es, e.ofTracking := by
    intro e he
    rcases hes e he with ⟨_, rfl⟩ | ⟨_, rfl⟩
    · rfl
    · rfl
  rw [htracker, dealings_trackInputs, blankInputs.dealings_recordAll_of_tracking es htracking]
  rfl

/-! ### Submissions in a run -/

/-- The step is a submission: it was asked for, or a button was pressed that can
    be. -/
def submits (form : Form) : Step → Bool
  | .click => form.enabled
  | .submit => true
  | _ => false

/-- The forms that are submitted while several things are done, as they are at
    that moment. -/
def submissions (form : Form) : List Step → List Form
  | [] => []
  | s :: rest => (if form.submits s then [form] else []) ++ (form.step s).1.submissions rest

/-- What the backend is handed for a form, and what comes back. -/
def call (form : Form) : Record × Except Failure String :=
  let record := Record.ofEntries form.entries form.organization
  (record, (form.backend.answer form.calls.length record).result)

theorem step_of_submits (form : Form) (s : Step) (h : form.submits s) :
    (form.step s).1 = form.submit := by
  cases s with
  | click => exact if_pos h
  | submit => rfl
  | _ => cases h

-- What is no submission does nothing but track.
theorem dealings_step_of_not_submits (form : Form) (s : Step) (h : ¬form.submits s) :
    (form.step s).1.tracker.dealings = form.tracker.dealings := by
  cases s with
  | act i a => exact form.tracker.dealings_act i a
  | fill texts =>
      exact List.foldlRecOn
        (motive := fun t : Tracker Input Input => t.dealings = form.tracker.dealings)
        texts _ rfl fun t ht entry _ => (t.dealings_act _ _).trans ht
  | click =>
      have hsame : form.click = form := if_neg h
      exact congrArg (fun f : Form => f.tracker.dealings) hsame
  | submit => exact absurd rfl h
  | clear =>
      change form.clear.tracker.dealings = form.tracker.dealings
      rw [tracker_clear, Tracker.dealings_recheckAll, dealings_emptied]
  | advance ms => exact (Tracker.stable_dealings _).advance form.tracker ms rfl

theorem dealings_step (form : Form) (s : Step) :
    (form.step s).1.tracker.dealings =
      form.tracker.dealings ++ if form.submits s then form.outcome.dealings else [] := by
  by_cases h : form.submits s
  · rw [if_pos h, step_of_submits form s h, dealings_submit]
  · rw [if_neg h, dealings_step_of_not_submits form s h, List.append_nil]

/-- A run has its dealings with the backend from the forms that it submits. -/
theorem dealings_run (form : Form) (steps : List Step) :
    (form.run steps).tracker.dealings =
      form.tracker.dealings ++ (form.submissions steps).flatMap fun f => f.outcome.dealings := by
  -- The forms that are still to be submitted are those of the form after the step,
  -- so the induction is over all forms.
  induction steps generalizing form with
  | nil => exact (List.append_nil _).symm
  | cons s rest ih =>
      have hrest := ih (form.step s).1
      have hfirst := form.dealings_step s
      change ((form.step s).1.run rest).tracker.dealings = _
      rw [hrest, hfirst, submissions, List.flatMap_append, List.append_assoc]
      congr 2
      by_cases h : form.submits s
      · rw [if_pos h, if_pos h, List.flatMap_singleton]
      · rw [if_neg h, if_neg h, List.flatMap_nil]

-- Any one question about a run is asked of its submissions, if each of them has
-- one answer to it or none.
theorem filterMap_dealings_run {β : Type} (g : Event Input Input → Option β)
    (k : Form → Option β) (hk : ∀ f : Form, f.outcome.dealings.filterMap g = (k f).toList)
    (form : Form) (steps : List Step) :
    (form.run steps).tracker.dealings.filterMap g =
      form.tracker.dealings.filterMap g ++ (form.submissions steps).filterMap k := by
  rw [dealings_run, List.filterMap_append, List.filterMap_flatMap,
    List.filterMap_eq_flatMap_toList k]
  simp only [hk]

-- The outcome of a form that is sound is one call, and of any other there is
-- none. Whether the call is answered is a separate question.
theorem filterMap_call?_dealings_outcome (form : Form) :
    form.outcome.dealings.filterMap Event.call? =
      (if form.entries.sound then some form.call else none).toList := by
  rw [Outcome.filterMap_call?_dealings, outcome_eq, sent_submit]
  by_cases hsound : form.entries.sound
  · have hok := (checkEntries_eq_ok_iff_sound form.entries).mpr hsound
    rw [if_pos hsound, if_pos hsound, result_submit_of_ok _ _ _ _ hok]
    rfl
  · rw [if_neg hsound, if_neg hsound]
    rfl

theorem filterMap_reply?_dealings_outcome (form : Form) :
    form.outcome.dealings.filterMap Event.reply? =
      (if form.entries.sound then form.call.2.toOption else none).toList := by
  rw [Outcome.filterMap_reply?_dealings, outcome_eq, result_toOption_submit]
  rfl

/-- The backend is called once for each submission that is sound, in their
    order. -/
theorem calls_run (form : Form) (steps : List Step) :
    (form.run steps).calls =
      form.calls ++ ((form.submissions steps).filter fun f => f.entries.sound).map call := by
  rw [calls_eq_dealings, calls_eq_dealings,
    filterMap_dealings_run _ _ filterMap_call?_dealings_outcome, ← List.filterMap_eq_map,
    List.filterMap_filter]
  rfl

/-- A registration is accepted once for each of these that is answered. -/
theorem accepted_run (form : Form) (steps : List Step) :
    (form.run steps).accepted =
      form.accepted ++ (((form.submissions steps).filter fun f => f.entries.sound).map
        call).filterMap fun c => c.2.toOption := by
  rw [accepted_eq_dealings, accepted_eq_dealings,
    filterMap_dealings_run _ _ filterMap_reply?_dealings_outcome, List.filterMap_map,
    List.filterMap_filter]
  rfl

/-! ### After a success -/

/-- The step is a click, a submission, the passing of time, or being done with an
    input, none of which edits one. -/
def Step.isIdle : Step → Bool
  | .act _ a => a = .finish
  | .click => true
  | .submit => true
  | .advance _ => true
  | _ => false

/-- Nothing stands in any input. -/
def Blank (form : Form) : Prop :=
  ∀ i, form.tracker.text i = []

theorem Blank.sound_eq_false {form : Form} (h : form.Blank) : form.entries.sound = false := by
  rw [← Bool.not_eq_true, form.entries.sound_iff]
  rintro ⟨-, hcomplete⟩
  -- One field that is not complete will do, and the name is one.
  have hname := hcomplete .name
  rw [show form.entries.text (.guarded .name) = [] from h (.guarded .name)] at hname
  exact Field.ne_nil_of_complete _ _ hname rfl

-- A submission of nothing is refused by the checks, whatever the button shows.
theorem Blank.submit {form : Form} (h : form.Blank) :
    form.submit.Blank ∧ form.submit.calls = form.calls := by
  cases hcheck : checkEntries form.entries with
  | error fault =>
      have hrefused := form.refused_of_checkEntries hcheck
      exact ⟨fun i => (congrFun hrefused.2.text i).trans (h i), hrefused.1⟩
  | ok u =>
      have hsound := (checkEntries_eq_ok_iff_sound form.entries).mp hcheck
      rw [h.sound_eq_false] at hsound
      cases hsound

theorem text_step_of_isIdle (form : Form) (s : Step) (hidle : s.isIdle)
    (h : ¬form.submits s) : (form.step s).1.tracker.text = form.tracker.text := by
  cases s with
  | act i a =>
      have hfinish : a = .finish := of_decide_eq_true hidle
      rw [hfinish]
      exact form.tracker.text_act_finish i
  | click =>
      have hsame : form.click = form := if_neg h
      exact congrArg (fun f : Form => f.tracker.text) hsame
  | submit => exact absurd rfl h
  | advance ms => exact (form.tracker.advance_sameInputs ms).text
  | fill texts => cases hidle
  | clear => cases hidle

/-- Where there is nothing, nothing is handed over, and it stays so until there is
    an edit. -/
theorem Blank.step {form : Form} (h : form.Blank) (s : Step) (hidle : s.isIdle) :
    (form.step s).1.Blank ∧ (form.step s).1.calls = form.calls := by
  by_cases hsubmits : form.submits s
  · rw [step_of_submits form s hsubmits]
    exact h.submit
  · have htext := form.text_step_of_isIdle s hidle hsubmits
    refine ⟨fun i => (congrFun htext i).trans (h i), ?_⟩
    rw [calls_eq_dealings, dealings_step_of_not_submits form s hsubmits, ← calls_eq_dealings]

theorem Blank.run {form : Form} (h : form.Blank) (steps : List Step)
    (hidle : ∀ s ∈ steps, s.isIdle) : (form.run steps).calls = form.calls := by
  have hboth : (form.run steps).Blank ∧ (form.run steps).calls = form.calls := by
    -- That no call is made is kept only together with there being nothing to hand over.
    refine List.foldlRecOn (motive := fun f : Form => f.Blank ∧ f.calls = form.calls)
      steps _ ⟨h, rfl⟩ fun f hf s hs => ?_
    have hstep := hf.1.step s (hidle s hs)
    exact ⟨hstep.1, hstep.2.trans hf.2⟩
  exact hboth.2

/-- A step by which a registration is accepted leaves nothing. -/
theorem blank_of_accepted_ne (form : Form) (s : Step)
    (h : (form.step s).1.accepted ≠ form.accepted) : (form.step s).1.Blank := by
  -- Such a step is a submission, and one that brought back a reply.
  by_cases hsubmits : form.submits s
  · rw [step_of_submits form s hsubmits] at h ⊢
    cases hresult : form.outcome.result with
    | ok reply =>
        rw [form.submit_of_ok hresult]
        exact text_succeed form.underWay reply
    | error x => exact absurd (form.refused_of_error hresult).accepted h
  · rw [accepted_eq_dealings, dealings_step_of_not_submits form s hsubmits,
      ← accepted_eq_dealings] at h
    exact absurd rfl h

/-- In every run of a form, the backend is called once for each submission that is
    sound, with the record for what was entered at that moment, and for each call
    that is answered a registration is accepted with that reply, in the same order.
    After a registration no further call is made until an input is edited. -/
theorem registrations_exact (form : Form) (h : form.Opened) (steps : List Step) :
    let after := form.run steps
    after.calls = ((form.submissions steps).filter fun f => f.entries.sound).map call ∧
      after.accepted = after.calls.filterMap (fun c => c.2.toOption) ∧
      ∀ s idle, (after.step s).1.accepted ≠ after.accepted → (∀ x ∈ idle, x.isIdle) →
        ((after.step s).1.run idle).calls = (after.step s).1.calls := by
  intro after
  have hcalls := form.calls_run steps
  have haccepted := form.accepted_run steps
  -- At the beginning there was neither a call nor a registration.
  rw [form.calls_eq_dealings, h.dealings_eq_nil, List.filterMap_nil, List.nil_append] at hcalls
  rw [form.accepted_eq_dealings, h.dealings_eq_nil, List.filterMap_nil, List.nil_append,
    ← hcalls] at haccepted
  refine ⟨hcalls, haccepted, fun s idle hnew hidle => ?_⟩
  exact (after.blank_of_accepted_ne s hnew).run idle hidle

/-- A backend that answers from the second record on. -/
def lateBackend : Backend :=
  .ofAnswers [fun _ => .fail (.fault (.named "TimeoutError" "")), Backend.dryAnswer]

/-- Trying everything but an edit. -/
def idleRun : List Step :=
  [.click, .submit, .act .password .finish, .advance 2000, .submit, .click]

/-- The first submission is refused by the checks, the second fails, the third
    succeeds, and whatever is tried after that hands nothing over. -/
theorem registrations_exact_lateBackend :
    let after := (forOrganization "Acme" lateBackend).run (mendedRun ++ [.click])
    after.accepted = [] ∧ (after.step .click).1.accepted = ["Manager a.b registered."] ∧
      ((after.step .click).1.run idleRun).calls = (after.step .click).1.calls ∧
      (after.step .click).1.calls.length = 2 := by
  intro after
  have hexact := registrations_exact _ (.forOrganization "Acme" lateBackend)
    (mendedRun ++ [.click])
  have hbefore : after.accepted = [] := by decide +kernel
  have hafter : (after.step .click).1.accepted = ["Manager a.b registered."] := by decide +kernel
  have hnew : (after.step .click).1.accepted ≠ after.accepted := by
    rw [hbefore, hafter]
    exact List.cons_ne_nil _ _
  have hidle : ∀ x ∈ idleRun, x.isIdle := by decide
  exact ⟨hbefore, hafter, hexact.2.2 .click idleRun hnew hidle, by decide +kernel⟩

end Form

end ManagerSignup
