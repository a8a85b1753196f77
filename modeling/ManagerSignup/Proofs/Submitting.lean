import ManagerSignup.Proofs.Dealings
import ManagerSignup.Proofs.SubmitButton

/-!
# What a Submission Leaves

A submission is refused by the checks, fails at the backend, or succeeds, and
what it leaves behind tells which.

The two ways to fail look alike from outside, except for the backend: one of them
calls it and the other does not. Either way the user keeps everything that was
entered, and is told about the failure that was announced. Judging the fields
again is all that happens to the inputs, and judging neither types nor touches
the pause.

After a success nothing is left of what was entered. The form empties its inputs
through the same door through which a user would, so every listener hears of it,
timers start and fields are judged on the way. What keeps this in order is that
none of it takes time and that no timer but the pause is the pause, so the pause
begins when the submission did.

An error that is announced while the inputs are judged comes after the one that
led to it. The history only grows, and that says as much.

## Main definitions

* `Tracker.errors`: The errors that were announced.
* `Form.Refused`: What a submission that failed leaves.
* `Form.Registered`: What a submission that succeeded leaves.

## Theorems

* `Tracker.kept_history`: Nothing that was written down is struck out.
* `Tracker.timeless_pause`: What happens at once does not touch the pause.
* `Form.refused_of_error`, `Form.registered_of_ok`: The two ways out of a
  submission.
* `Form.submit_trichotomy`: What one submission does.
-/

namespace ManagerSignup

variable {κ ω : Type}

/-- The error that was announced, if that is what happened. -/
def Event.error? : Event κ ω → Option AppError
  | .reported error => some error
  | _ => none

namespace Tracker

/-- The errors that were announced, in order. -/
def errors (t : Tracker κ ω) : List AppError :=
  t.history.filterMap fun s => s.event.error?

theorem pause_ne_timer (key : κ) (field : Tracked ω) : .pause ≠ timer key field := by
  intro htimer
  cases htimer

theorem errors_recordAll (t : Tracker κ ω) (es : List (Event κ ω)) :
    (t.recordAll es).errors = t.errors ++ es.filterMap Event.error? := by
  simp only [errors, recordAll, List.filterMap_append, List.filterMap_map, Function.comp_def]

variable {past : History κ ω}

theorem prefix_history_announce (t : Tracker κ ω) (h : past <+: t.history) :
    past <+: t.announce.history := by
  unfold announce
  split
  · exact h
  · exact h.trans (List.prefix_append _ _)

variable [DecidableEq κ] [DecidableEq ω]

theorem prefix_history_settle (t : Tracker κ ω) (key : κ) (field : Tracked ω) (value : Text)
    (v : Verdict) (h : past <+: t.history) : past <+: (t.settle key field value v).history := by
  unfold settle
  simp only
  split
  · exact prefix_history_announce _ h
  · exact prefix_history_announce _ (h.trans (List.prefix_append _ _))

variable [Named κ]

/-- Nothing that was written down is struck out. -/
theorem kept_history (past : History κ ω) : Kept fun t : Tracker κ ω => past <+: t.history where
  record _ _ h := h.trans (List.prefix_append _ _)
  timers _ _ _ h := h
  forget _ _ _ _ h := h.trans (List.prefix_append _ _)
  judge _ key field value _ h :=
    prefix_history_settle _ key field value _ (h.trans (List.prefix_append _ _))

theorem errors_recheckAll (t : Tracker κ ω) : t.errors <+: t.recheckAll.errors :=
  ((kept_history t.history).stable.recheckAll t List.prefix_rfl).filterMap _

/-- What happens at once takes no time and does not touch the pause. -/
theorem timeless_pause (clock : Nat) (due : Option Nat) :
    Timeless fun t : Tracker κ ω => t.clock = clock ∧ t.agenda.due? .pause = due where
  record _ _ _ h := h
  schedule t key h := by
    unfold Tracker.schedule
    split
    · exact h
    · -- The timer that starts is the timer of a field, and the pause is none.
      refine ⟨h.1, ?_⟩
      rw [Agenda.due?_start, if_neg (pause_ne_timer key _)]
      exact h.2
  validate t key h := by
    have hjudged := t.validate_undisturbed key
    rw [hjudged.clock, hjudged.agenda]
    exact h
  recheck t key h := by
    cases hkey : t.field? key with
    | none =>
        rw [Tracker.recheck, hkey]
        exact h
    | some field =>
        have hjudged := (t.forget key field).validate_undisturbed key
        rw [recheck_eq_validate_forget t key field hkey, hjudged.clock, hjudged.agenda]
        refine ⟨h.1, ?_⟩
        -- So is the one that stops.
        change (t.agenda.stop (timer key field)).due? .pause = due
        rw [Agenda.due?_stop, if_neg (pause_ne_timer key field)]
        exact h.2

end Tracker

namespace Form

/-! ### Failing -/

/-- What a submission that failed leaves: everything that was entered, and the
    failure for the user to see. -/
structure Refused (before after : Form) (x : Failure) : Prop where
  text : after.tracker.text = before.tracker.text
  accepted : after.accepted = before.accepted
  pause : after.tracker.agenda.due? .pause = before.tracker.agenda.due? .pause
  announced : before.tracker.errors ++ [(failureReport x).error] <+: after.tracker.errors
  message : after.message = (failureReport x).error.messageForUser
  tone : after.tone = some .error

theorem errors_recordReport (t : Tracker Input Input) (r : Report) :
    (recordReport t r).errors = t.errors ++ [r.error] := by
  have hlog : (r.log.map (Event.noted : Entry → Event Input Input)).filterMap Event.error? =
      [] := by
    rw [List.filterMap_map, List.filterMap_eq_nil_iff]
    intro _ _
    rfl
  rw [recordReport]
  refine (Tracker.errors_recordAll _ [.reported r.error]).trans ?_
  rw [Tracker.errors_recordAll, hlog, List.append_nil]
  rfl

-- No error is announced before it is known what came of a submission.
theorem errors_underWay (form : Form) : form.underWay.tracker.errors = form.tracker.errors := by
  refine (Tracker.errors_recordAll (form.tracker.setButton false) _).trans ?_
  have hnone : (form.outcome.log.map Event.noted ++ form.outcome.sent.toList.map
      fun record => (.handedOver record form.outcome.result : Event Input Input)).filterMap
        Event.error? = [] := by
    rw [List.filterMap_eq_nil_iff]
    intro e he
    rcases List.mem_append.mp he with hlog | hsent
    · rcases List.mem_map.mp hlog with ⟨entry, -, rfl⟩
      rfl
    · rcases List.mem_map.mp hsent with ⟨record, -, rfl⟩
      rfl
  rw [hnone, List.append_nil]
  rfl

theorem text_fail (form : Form) (x : Failure) :
    (form.fail x).tracker.text = form.tracker.text := by
  rw [tracker_fail, (Tracker.setButton_undisturbed _ _).text,
    (Tracker.recheckAll_sameInputs _).text]
  rfl

theorem due?_pause_fail (form : Form) (x : Failure) :
    (form.fail x).tracker.agenda.due? .pause = form.tracker.agenda.due? .pause := by
  rw [tracker_fail, (Tracker.setButton_undisturbed _ _).agenda]
  exact ((Tracker.timeless_pause form.tracker.clock _).recheckAll
    (recordReport form.tracker (failureReport x)) ⟨rfl, rfl⟩).2

theorem errors_fail (form : Form) (x : Failure) :
    form.tracker.errors ++ [(failureReport x).error] <+: (form.fail x).tracker.errors := by
  rw [← errors_recordReport form.tracker (failureReport x)]
  exact Tracker.errors_recheckAll _

-- The inputs are judged after the failure was announced, so what is announced
-- then comes after it.
theorem refused_of_error (form : Form) {x : Failure} (h : form.outcome.result = .error x) :
    Refused form form.submit x := by
  have haccepted := form.accepted_submit
  rw [h] at haccepted
  refine ⟨?_, haccepted.trans (List.append_nil _), ?_, ?_, ?_, ?_⟩
  all_goals rw [form.submit_of_error h]
  · exact text_fail form.underWay x
  · exact due?_pause_fail form.underWay x
  · rw [← form.errors_underWay]
    exact errors_fail form.underWay x
  · rfl
  · rfl

/-- What the checks refuse is handed to nobody, and the user is told why. -/
theorem refused_of_checkEntries (form : Form) {fault : AppError}
    (h : checkEntries form.entries = .error fault) :
    form.submit.calls = form.calls ∧ Refused form form.submit (.app fault) := by
  have houtcome := form.outcome_eq
  rw [ManagerSignup.submit_of_error _ _ _ _ h] at houtcome
  refine ⟨?_, form.refused_of_error (congrArg Outcome.result houtcome)⟩
  rw [calls_submit, houtcome]
  exact List.append_nil _

/-! ### Succeeding -/

/-- What a submission that succeeded leaves: an empty form, the reply, and a
    pause. -/
structure Registered (before after : Form) (reply : String) : Prop where
  text : ∀ i, after.tracker.text i = []
  enabled : after.enabled = false
  accepted : after.accepted = before.accepted ++ [reply]
  pause : after.tracker.agenda.due? .pause = some (before.tracker.clock + 1500)
  message : after.message = reply
  tone : after.tone = some .success

theorem clock_emptied (t : Tracker Input Input) : (emptied t).clock = t.clock := by
  -- Emptying an input starts the timer of its field, which takes no time.
  have hemptied : (emptied t).clock = t.clock ∧
      (emptied t).agenda.due? .pause = t.agenda.due? .pause := by
    refine List.foldlRecOn (motive := fun t' : Tracker Input Input =>
      t'.clock = t.clock ∧ t'.agenda.due? .pause = t.agenda.due? .pause)
      Input.all _ ⟨rfl, rfl⟩ fun t' ht i _ => ?_
    exact (Tracker.timeless_pause _ _).act t' i (.setText []) ht
  exact hemptied.1

theorem clock_afterSuccess (t : Tracker Input Input) (reply : String) :
    (afterSuccess t reply).clock = t.clock := by
  have hemptied := clock_emptied (t.record (.noted acceptedEntry))
  have hjudged := (Tracker.timeless_pause _ _).recheckAll
    (emptied (t.record (.noted acceptedEntry))) ⟨hemptied, rfl⟩
  rw [afterSuccess, (Tracker.record_undisturbed _ _).clock]
  exact hjudged.1

theorem text_succeed (form : Form) (reply : String) (i : Input) :
    (form.succeed reply).tracker.text i = [] := by
  have hcleared := congrFun (Tracker.recheckAll_sameInputs
    (emptied (form.tracker.record (.noted acceptedEntry)))).text i
  rw [text_emptied] at hcleared
  rw [tracker_succeed, afterSuccess]
  generalize (emptied (form.tracker.record (.noted acceptedEntry))).recheckAll = cleared
    at hcleared ⊢
  exact hcleared

theorem due?_pause_succeed (form : Form) (reply : String) :
    (form.succeed reply).tracker.agenda.due? .pause = some (form.tracker.clock + 1500) := by
  rw [tracker_succeed, Agenda.due?_start, if_pos rfl, clock_afterSuccess]
  rfl

-- Unlike the rest, that the button is off takes the whole run before: it must
-- have shown how the fields stand until now.
theorem registered_of_ok (form : Form) (h : form.Reachable anyEdit) {reply : String}
    (hok : form.outcome.result = .ok reply) : Registered form form.submit reply := by
  have haccepted := form.accepted_submit
  rw [hok] at haccepted
  have hafter : form.submit.Reachable anyEdit := .step form .submit h trivial
  refine ⟨?_, ?_, haccepted, ?_, ?_, ?_⟩
  · rw [form.submit_of_ok hok]
    exact text_succeed form.underWay reply
  · -- The button shows how the fields stand, and they are empty.
    rw [enabled_eq_allValid form.submit hafter, form.submit_of_ok hok]
    exact allValid_succeed form.underWay reply (wiring_of_reachable form h)
  · rw [form.submit_of_ok hok]
    exact due?_pause_succeed form.underWay reply
  · rw [form.submit_of_ok hok]
    rfl
  · rw [form.submit_of_ok hok]
    rfl

/-! ### The three outcomes -/

/-- One submission does one of three things. If the checks refuse what was
    entered, nobody is called. If they pass it, the backend is called once, and
    either fails or answers. Unless it answers, everything that was entered
    stays. -/
theorem submit_trichotomy (form : Form) (h : form.Reachable anyEdit) :
    match checkEntries form.entries with
    | .error fault => form.submit.calls = form.calls ∧ Refused form form.submit (.app fault)
    | .ok () =>
        let record := Record.ofEntries form.entries form.organization
        match form.backend.answer form.calls.length record with
        | .fail x =>
            form.submit.calls = form.calls ++ [(record, .error x)] ∧ Refused form form.submit x
        | .reply reply _ =>
            form.submit.calls = form.calls ++ [(record, .ok reply)] ∧
              Registered form form.submit reply := by
  cases hcheck : checkEntries form.entries with
  | error fault => exact form.refused_of_checkEntries hcheck
  | ok u =>
      have hcalls := form.calls_submit
      have hresult := congrArg Outcome.result form.outcome_eq
      rw [result_submit_of_ok _ _ _ _ hcheck] at hresult
      rw [hresult, outcome_eq, sent_submit, if_pos ((checkEntries_eq_ok_iff_sound _).mp hcheck)]
        at hcalls
      simp only
      -- What the backend answers is what comes back, and that decides about the rest.
      cases hanswer : form.backend.answer form.calls.length
          (Record.ofEntries form.entries form.organization) with
      | fail x =>
          rw [hanswer] at hresult hcalls
          exact ⟨hcalls, form.refused_of_error hresult⟩
      | reply reply log =>
          rw [hanswer] at hresult hcalls
          exact ⟨hcalls, form.registered_of_ok h hresult⟩

/-- A form that was mended after a submission in vain is registered. -/
theorem submit_trichotomy_mendedRun :
    ∃ form : Form, form.Reachable anyEdit ∧ form.entries.sound ∧
      form.tracker.text .password = ['p', 'w'] ∧
      Registered form form.submit "Manager a.b registered." := by
  have hopened : (forOrganization "Acme" .dryRun).Reachable anyEdit :=
    .opened _ (.forOrganization "Acme" .dryRun)
  have hform := hopened.run mendedRun fun s _ form => form.allows_anyEdit s
  have hbackend := backend_run (forOrganization "Acme" .dryRun) mendedRun
  have hsound : ((forOrganization "Acme" .dryRun).run mendedRun).entries.sound := by
    decide +kernel
  have hpassword : ((forOrganization "Acme" .dryRun).run mendedRun).tracker.text .password =
      ['p', 'w'] := by
    decide +kernel
  have hreply : "Manager " ++ Text.toString (Record.ofEntries
      ((forOrganization "Acme" .dryRun).run mendedRun).entries
      ((forOrganization "Acme" .dryRun).run mendedRun).organization).username ++ " registered." =
        "Manager a.b registered." := by
    decide +kernel
  have hsubmit := submit_trichotomy _ hform
  generalize (forOrganization "Acme" .dryRun).run mendedRun = form at *
  rw [(checkEntries_eq_ok_iff_sound _).mpr hsound, hbackend] at hsubmit
  change _ ∧ Registered form form.submit ("Manager " ++ _ ++ " registered.") at hsubmit
  rw [hreply] at hsubmit
  exact ⟨form, hform, hsound, hpassword, hsubmit.2⟩

end Form

end ManagerSignup
