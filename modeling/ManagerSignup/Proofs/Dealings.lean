import ManagerSignup.Proofs.FormRuns
import ManagerSignup.Proofs.HandedRecords

/-!
# Dealings with the Backend

What the history says about the backend, and that only submissions add to it.

Everything that happens is written into one list, which is a help to whoever
wants to know when things happened and none to whoever asks a narrow question.
Tracking alone writes down every judgement, every announcement and every timer.
None of that concerns the backend, and `dealings` leaves it out. What remains are
the records that were handed over and the registrations that were accepted.

That tracking adds nothing to these is said once, as a property that is stable.
An edit, a click on a button that is off and the passing of time then leave them
alone, since none of these does anything but track. A submission is the one thing
that adds to them, and what it adds can be read off its outcome.

## Main definitions

* `Tracker.dealings`: What the history says about the backend.
* `Outcome.dealings`: What a submission adds to it.
* `Form.calls`: What the backend was handed, and what came back.
* `Form.accepted`: The replies with which registrations were accepted.

## Theorems

* `Tracker.stable_dealings`: Tracking adds nothing.
* `Form.dealings_submit`: What a submission adds.
* `Form.calls_submit`, `Form.accepted_submit`, `Form.received_submit`: What a
  submission hands over and brings back.
-/

namespace ManagerSignup

section Dealings

variable {κ ω : Type}

/-- The record that was handed over with what came back, if one was. -/
def Event.call? : Event κ ω → Option (Record × Except Failure String)
  | .handedOver record result => some (record, result)
  | _ => none

/-- The reply with which a registration was accepted, if one was. -/
def Event.reply? : Event κ ω → Option String
  | .accepted reply => some reply
  | _ => none

namespace Tracker

/-- What the history says about the backend: what it was handed, and what it
    accepted. -/
def dealings (t : Tracker κ ω) : List (Event κ ω) :=
  (t.history.map Stamped.event).filter fun e => !e.ofTracking

/-- What concerns the backend alone may be asked of the dealings. -/
theorem filterMap_history_eq_dealings {β : Type} (t : Tracker κ ω) (g : Event κ ω → Option β)
    (hg : ∀ e : Event κ ω, e.ofTracking → g e = none) :
    (t.history.filterMap fun s => g s.event) = t.dealings.filterMap g := by
  rw [dealings, List.filterMap_filter, List.filterMap_map]
  congr 1
  funext s
  by_cases h : s.event.ofTracking
  · simp only [Function.comp_apply, hg _ h, h, Bool.not_true, Bool.false_eq_true, if_false]
  · simp only [Function.comp_apply, h, Bool.not_false, if_true]

theorem dealings_recordAll (t : Tracker κ ω) (es : List (Event κ ω)) :
    (t.recordAll es).dealings = t.dealings ++ es.filter fun e => !e.ofTracking := by
  simp only [dealings, recordAll, List.map_append, List.filter_append, List.map_map,
    Function.comp_def, List.map_id']

theorem dealings_recordAll_of_tracking (t : Tracker κ ω) (es : List (Event κ ω))
    (h : ∀ e ∈ es, e.ofTracking) : (t.recordAll es).dealings = t.dealings := by
  have hnone : (es.filter fun e => !e.ofTracking) = [] := by
    rw [List.filter_eq_nil_iff]
    intro e he hnot
    rw [h e he] at hnot
    cases hnot
  rw [dealings_recordAll, hnone, List.append_nil]

theorem dealings_record (t : Tracker κ ω) (e : Event κ ω) (h : e.ofTracking) :
    (t.record e).dealings = t.dealings := by
  refine t.dealings_recordAll_of_tracking [e] fun e' he' => ?_
  rw [List.mem_singleton.mp he']
  exact h

theorem dealings_announce (t : Tracker κ ω) : t.announce.dealings = t.dealings := by
  unfold announce
  split
  · rfl
  · exact dealings_record _ _ rfl

end Tracker

/-- What comes of judging a text is no dealing with the backend. -/
theorem Check.ofTracking_consequences [Named κ] (c : Check ω) (key : κ) (value : Text)
    (e : Event κ ω) (he : e ∈ c.consequences key value) : e.ofTracking := by
  rcases c.noted_or_reported_of_mem_consequences key value e he with ⟨_, rfl⟩ | ⟨_, rfl⟩
  · rfl
  · rfl

namespace Tracker

variable [DecidableEq κ] [DecidableEq ω]

theorem dealings_settle (t : Tracker κ ω) (key : κ) (field : Tracked ω) (value : Text)
    (v : Verdict) : (t.settle key field value v).dealings = t.dealings := by
  unfold settle
  simp only
  rw [dealings_announce]
  split
  · rfl
  · exact dealings_record _ _ rfl

variable [Named κ]

theorem dealings_judge (t : Tracker κ ω) (key : κ) (field : Tracked ω) (value : Text) :
    (t.judge key field value).dealings = t.dealings := by
  unfold judge
  simp only
  rw [dealings_settle]
  exact t.dealings_recordAll_of_tracking _ (field.check.ofTracking_consequences key value)

theorem dealings_validate (t : Tracker κ ω) (key : κ) :
    (t.validate key).dealings = t.dealings := by
  unfold validate
  split
  · rfl
  · split
    · rfl
    · exact t.dealings_judge key _ _

theorem dealings_recheck (t : Tracker κ ω) (key : κ) :
    (t.recheck key).dealings = t.dealings := by
  unfold recheck
  split
  · rfl
  · rw [dealings_validate]
    exact dealings_record _ _ rfl

/-- Tracking has no dealings with the backend. -/
theorem stable_dealings (before : List (Event κ ω)) :
    Stable fun t : Tracker κ ω => t.dealings = before where
  record t e he h := (t.dealings_record e he).trans h
  timers _ _ _ h := h
  validate t key h := (t.dealings_validate key).trans h
  recheck t key h := (t.dealings_recheck key).trans h

theorem dealings_recheckAll (t : Tracker κ ω) : t.recheckAll.dealings = t.dealings :=
  (stable_dealings t.dealings).recheckAll t rfl

theorem dealings_act (t : Tracker κ ω) (w : ω) (a : Action) :
    (t.act w a).1.dealings = t.dealings :=
  (stable_dealings t.dealings).act t w a rfl

end Tracker

end Dealings

/-- What a submission adds to the dealings with the backend. -/
def Outcome.dealings (o : Outcome) : List (Event Input Input) :=
  o.sent.toList.map (fun record => .handedOver record o.result) ++
    match o.result with
    | .ok reply => [.accepted reply]
    | .error _ => []

theorem Outcome.filterMap_call?_dealings (o : Outcome) :
    o.dealings.filterMap Event.call? = o.sent.toList.map fun record => (record, o.result) := by
  rcases o with ⟨sent, result, log⟩
  cases sent with
  | none => cases result <;> rfl
  | some record => cases result <;> rfl

theorem Outcome.filterMap_reply?_dealings (o : Outcome) :
    o.dealings.filterMap Event.reply? = o.result.toOption.toList := by
  rcases o with ⟨sent, result, log⟩
  cases sent with
  | none => cases result <;> rfl
  | some record => cases result <;> rfl

namespace Form

theorem dealings_emptied (t : Tracker Input Input) : (emptied t).dealings = t.dealings := by
  unfold emptied
  refine List.foldlRecOn (motive := fun t' : Tracker Input Input => t'.dealings = t.dealings)
    Input.all _ rfl fun t' ht i _ => ?_
  exact (t'.dealings_act i (.setText [])).trans ht

/-- Records are written down as they are handed over. -/
theorem dealings_underWay (form : Form) :
    form.underWay.tracker.dealings = form.tracker.dealings ++
      form.outcome.sent.toList.map fun record => .handedOver record form.outcome.result := by
  refine (Tracker.dealings_recordAll (form.tracker.setButton false) _).trans ?_
  congr 1
  -- The journal of a submission is no dealing with the backend, and the rest is.
  rw [List.filter_append]
  have hlog : ((form.outcome.log.map Event.noted).filter
      fun e : Event Input Input => !e.ofTracking) = [] := by
    rw [List.filter_eq_nil_iff]
    intro e he
    rcases List.mem_map.mp he with ⟨entry, -, rfl⟩
    exact Bool.false_ne_true
  rw [hlog, List.nil_append, List.filter_eq_self]
  intro e he
  rcases List.mem_map.mp he with ⟨record, -, rfl⟩
  rfl

theorem dealings_succeed (form : Form) (reply : String) :
    (form.succeed reply).tracker.dealings = form.tracker.dealings ++ [.accepted reply] := by
  rw [tracker_succeed, afterSuccess]
  have hemptied := dealings_emptied (form.tracker.record (.noted acceptedEntry))
  rw [Tracker.dealings_record _ _ rfl] at hemptied
  have hcleared := (Tracker.dealings_recheckAll _).trans hemptied
  generalize (emptied (form.tracker.record (.noted acceptedEntry))).recheckAll = cleared
    at hcleared ⊢
  rw [← hcleared]
  exact cleared.dealings_recordAll [.accepted reply]

theorem dealings_fail (form : Form) (x : Failure) :
    (form.fail x).tracker.dealings = form.tracker.dealings := by
  have hreported : (recordReport form.tracker (failureReport x)).dealings =
      form.tracker.dealings := by
    refine (Tracker.dealings_record _ _ rfl).trans ?_
    refine form.tracker.dealings_recordAll_of_tracking _ fun e he => ?_
    rcases List.mem_map.mp he with ⟨entry, -, rfl⟩
    rfl
  rw [tracker_fail]
  exact (Tracker.dealings_recheckAll _).trans hreported

/-- What a submission adds to the dealings with the backend is told by its
    outcome. -/
theorem dealings_submit (form : Form) :
    form.submit.tracker.dealings = form.tracker.dealings ++ form.outcome.dealings := by
  have hunderWay := form.dealings_underWay
  unfold submit Outcome.dealings
  simp only
  cases hresult : form.outcome.result with
  | ok reply =>
      rw [hresult] at hunderWay
      refine (dealings_succeed form.underWay reply).trans ?_
      rw [hunderWay, List.append_assoc]
  | error x =>
      rw [hresult] at hunderWay
      refine (dealings_fail form.underWay x).trans ?_
      rw [hunderWay, List.append_nil]

/-- The records that the backend was handed, each with what came back. -/
def calls (form : Form) : List (Record × Except Failure String) :=
  form.tracker.history.filterMap fun s => s.event.call?

/-- The replies with which registrations were accepted. -/
def accepted (form : Form) : List String :=
  form.tracker.history.filterMap fun s => s.event.reply?

theorem calls_eq_dealings (form : Form) :
    form.calls = form.tracker.dealings.filterMap Event.call? := by
  refine form.tracker.filterMap_history_eq_dealings _ fun e he => ?_
  cases e with
  | handedOver record result => cases he
  | _ => rfl

theorem accepted_eq_dealings (form : Form) :
    form.accepted = form.tracker.dealings.filterMap Event.reply? := by
  refine form.tracker.filterMap_history_eq_dealings _ fun e he => ?_
  cases e with
  | accepted reply => cases he
  | _ => rfl

/-- A record that was received is one that something came back for. -/
theorem received_eq_map_calls (form : Form) : form.received = form.calls.map Prod.fst := by
  rw [received, calls, List.map_filterMap]
  congr 1
  funext s
  rcases s with ⟨time, event⟩
  cases event <;> rfl

theorem calls_submit (form : Form) :
    form.submit.calls = form.calls ++
      form.outcome.sent.toList.map fun record => (record, form.outcome.result) := by
  rw [calls_eq_dealings, calls_eq_dealings, dealings_submit, List.filterMap_append,
    Outcome.filterMap_call?_dealings]

theorem accepted_submit (form : Form) :
    form.submit.accepted = form.accepted ++ form.outcome.result.toOption.toList := by
  rw [accepted_eq_dealings, accepted_eq_dealings, dealings_submit, List.filterMap_append,
    Outcome.filterMap_reply?_dealings]

/-- A submission knows of those before it only how often the backend was called. -/
theorem outcome_eq (form : Form) :
    form.outcome = ManagerSignup.submit form.entries form.organization form.backend
      form.calls.length := by
  rw [outcome, received_eq_map_calls, List.length_map]

/-- A submission hands over the record for what was entered, if that is sound. -/
theorem received_submit (form : Form) :
    form.submit.received =
      if form.entries.sound then
        form.received ++ [Record.ofEntries form.entries form.organization]
      else form.received := by
  rw [received_eq_map_calls, calls_submit, List.map_append, ← received_eq_map_calls, outcome_eq,
    sent_submit]
  by_cases hsound : form.entries.sound
  · rw [if_pos hsound, if_pos hsound]
    rfl
  · rw [if_neg hsound, if_neg hsound]
    exact List.append_nil _

end Form

end ManagerSignup
