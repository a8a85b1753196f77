import ManagerSignup.Proofs.Registrations
import ManagerSignup.Proofs.Reporting

/-!
# No Intrusion Is Ever Found

As long as its guards are honoured, the form never finds anything behind them.

A field whose grammar rejects what its input holds reports an intrusion, since no
typing leads there. That report accuses the program and not the user, and it is
never made. The guards keep out everything that cannot be typed, as `Guarding` has
it. What has to be added is that nobody looks while they do. A key whose effect
cannot be foreseen is let through and undone, so for an instant the input holds
what it must not hold, and it announces that. Whoever listens to a guarded input
starts a timer upon that and does no more, and a timer rings when the instant has
passed. So a field is judged on texts that can be typed alone, whatever it is that
has it judged.

What is announced as an error is then the outcome of a submission, or was wrong
with the settings before there was a form. Both kinds say so among their details,
under names that no intrusion has, which is how they are told apart from one even
if a backend makes an error of its own that looks like it.

## Main definitions

* `Tracker.Trusted`: Grammars have judged only what can be typed.
* `Form.Honoured`: The guards were honoured, and these errors were announced.
* `Form.faults`: What submitting a form announces.
* `Form.Probed`: What a form may become if its fields may be judged at any time.

## Theorems

* `Check.error?_consequences_of_typable`: Judging what can be typed reports nothing.
* `Tracker.timeless_trusted`: What happens at once makes no grammar look at what
  cannot be typed.
* `Form.Honoured.act`, `Form.Honoured.submit`, `Form.Honoured.step`: What each step
  announces.
* `Form.notice_changed_guarded`: Nobody looks at a guarded input when it changes.
* `Form.no_intrusion`: What holds of every form.
-/

namespace ManagerSignup

variable {κ ω : Type}

namespace Check

/-- Judging what can be typed reports nothing. -/
theorem error?_consequences_of_typable [Named κ] (c : Check ω) (key : κ) (value : Text)
    (h : ∀ f, c = .grammar f → f.typable value) :
    (c.consequences key value : List (Event κ ω)).filterMap Event.error? = [] := by
  rw [List.filterMap_eq_nil_iff]
  intro e he
  unfold consequences at he
  split at he
  · cases he
  · cases c with
    | rule answer => cases he
    | grammar f =>
        have hjudge : f.judge value ≠ .invalid := by
          intro hinvalid
          rw [f.judge_eq_invalid_iff, h f rfl] at hinvalid
          cases hinvalid
        rcases List.mem_append.mp he with hlog | hreport
        · rcases List.mem_map.mp hlog with ⟨entry, -, rfl⟩
          rfl
        · cases hverdict : f.judge value with
          | acceptable =>
              rw [hverdict] at hreport
              cases hreport
          | intermediate =>
              rw [hverdict] at hreport
              cases hreport
          | invalid => exact absurd hverdict hjudge

end Check

namespace Tracker

theorem errors_record (t : Tracker κ ω) (e : Event κ ω) (h : e.error? = none) :
    (t.record e).errors = t.errors := by
  refine (t.errors_recordAll [e]).trans ?_
  rw [List.filterMap_cons, h]
  exact List.append_nil _

theorem errors_announce (t : Tracker κ ω) : t.announce.errors = t.errors := by
  unfold announce
  split
  · rfl
  · exact errors_record _ _ rfl

variable [DecidableEq κ]

/-- Whatever a field with a grammar holds or has judged can be typed, and these
    are the errors that were announced. -/
structure Trusted (es : List AppError) (t : Tracker κ ω) : Prop where
  holds : ∀ key field f, t.field? key = some field → field.check = .grammar f →
    f.typable (t.text field.widget)
  judged : ∀ key field f value, t.field? key = some field → field.check = .grammar f →
    field.lastValue = some value → f.typable value
  errors : t.errors = es

variable {es es' : List AppError} {t t' : Tracker κ ω}

theorem Trusted.of_same (h : Trusted es t) (hfields : t'.fields = t.fields)
    (htext : t'.text = t.text) (herrors : t'.errors = es') : Trusted es' t' := by
  have hfield? : ∀ key, t'.field? key = t.field? key := fun key => by
    rw [field?, field?, hfields]
  refine ⟨fun key field f hfield => ?_, fun key field f value hfield => ?_, herrors⟩
  · rw [htext]
    exact h.holds key field f ((hfield? key).symm.trans hfield)
  · exact h.judged key field f value ((hfield? key).symm.trans hfield)

theorem Trusted.recordAll (h : Trusted es t) (events : List (Event κ ω)) :
    Trusted (es ++ events.filterMap Event.error?) (t.recordAll events) := by
  refine h.of_same rfl rfl ?_
  rw [errors_recordAll, h.errors]

theorem Trusted.forget (h : Trusted es t) (key : κ) (field : Tracked ω)
    (hkey : t.field? key = some field) : Trusted es (t.forget key field) := by
  have hfield := fun k => field_cases (t.field?_forget key k field)
  refine ⟨fun k f' f hf' hcheck => ?_, fun k f' f value hf' hcheck hvalue => ?_, ?_⟩
  · rw [(t.forget_sameInputs key field hkey).text]
    rcases hfield k f' hf' with ⟨-, rfl⟩ | ⟨-, hold⟩
    · exact h.holds key field f hkey hcheck
    · exact h.holds k f' f hold hcheck
  · rcases hfield k f' hf' with ⟨-, rfl⟩ | ⟨-, hold⟩
    · cases hvalue
    · exact h.judged k f' f value hold hcheck hvalue
  · exact (errors_record _ _ rfl).trans h.errors

variable [DecidableEq ω]

/-- An edit is trusted that leaves what can be typed. -/
theorem Trusted.edited (h : Trusted es t) (w : ω) (e : LineEdit)
    (htypable : ∀ key field f, t.field? key = some field → field.check = .grammar f →
      field.widget = w → f.typable e.text) : Trusted es (t.edited w e) := by
  refine ⟨fun key field f hfield hcheck => ?_, h.judged, h.errors⟩
  rw [text_edited]
  by_cases hw : field.widget = w
  · rw [if_pos hw]
    exact htypable key field f hfield hcheck hw
  · rw [if_neg hw]
    exact h.holds key field f hfield hcheck

theorem errors_settle (t : Tracker κ ω) (key : κ) (field : Tracked ω) (value : Text)
    (v : Verdict) : (t.settle key field value v).errors = t.errors := by
  unfold settle
  simp only
  rw [errors_announce]
  split
  · rfl
  · exact errors_record _ _ rfl

variable [Named κ]

/-- Judging a text announces what its check has to report, and nothing else. -/
theorem errors_judge (t : Tracker κ ω) (key : κ) (field : Tracked ω) (value : Text) :
    (t.judge key field value).errors =
      t.errors ++ (field.check.consequences key value).filterMap Event.error? := by
  unfold judge
  simp only
  rw [errors_settle, ← errors_recordAll]
  rfl

theorem Trusted.judge (h : Trusted es t) (key : κ) (field : Tracked ω)
    (hkey : t.field? key = some field) :
    Trusted es (t.judge key field (t.text field.widget)) := by
  have htypable : ∀ f, field.check = .grammar f → f.typable (t.text field.widget) :=
    fun f => h.holds key field f hkey
  -- The other fields are as they were, and this one has judged what it holds.
  have hfield := fun k =>
    field_cases (t.field?_judge key k field (t.text field.widget))
  refine ⟨fun k f' f hf' hcheck => ?_, fun k f' f value hf' hcheck hvalue => ?_, ?_⟩
  · rw [(t.judge_undisturbed key field _ hkey).text]
    rcases hfield k f' hf' with ⟨-, rfl⟩ | ⟨-, hold⟩
    · exact htypable f hcheck
    · exact h.holds k f' f hold hcheck
  · rcases hfield k f' hf' with ⟨-, rfl⟩ | ⟨-, hold⟩
    · rw [← Option.some.inj hvalue]
      exact htypable f hcheck
    · exact h.judged k f' f value hold hcheck hvalue
  · rw [errors_judge, h.errors, field.check.error?_consequences_of_typable key _ htypable,
      List.append_nil]

theorem Trusted.validate (h : Trusted es t) (key : κ) : Trusted es (t.validate key) :=
  t.validate_of_judge key h fun field hkey => h.judge key field hkey

/-- What happens at once makes no grammar judge what cannot be typed. -/
theorem timeless_trusted (es : List AppError) : Timeless (Trusted (κ := κ) (ω := ω) es) where
  record t e he h := by
    refine h.of_same rfl rfl ((t.errors_record e ?_).trans h.errors)
    cases e with
    | reported error => cases he
    | _ => rfl
  schedule t key h := t.schedule_of_agenda key h fun _ => h.of_same rfl rfl h.errors
  validate t key h := h.validate key
  recheck t key h := t.recheck_of_forget key h fun field hkey =>
    (h.forget key field hkey).validate key

/-- A field may begin with a widget that holds what can be typed. -/
theorem Trusted.register (h : Trusted es t) (key : κ) (w : ω) (check : Check ω)
    (required : Bool) (hcheck : ∀ f, check = .grammar f → f.typable (t.text w)) :
    Trusted es (t.register key w check required) := by
  rw [register_eq_validate_joined]
  refine Trusted.validate ?_ key
  have hfield := fun k => field_cases (t.field?_joined key k w check required)
  refine ⟨fun k f' f hf' hgrammar => ?_, fun k f' f value hf' hgrammar hvalue => ?_, ?_⟩
  · rw [text_joined]
    rcases hfield k f' hf' with ⟨-, rfl⟩ | ⟨-, hold⟩
    · exact hcheck f hgrammar
    · exact h.holds k f' f hold hgrammar
  · rcases hfield k f' hf' with ⟨-, rfl⟩ | ⟨-, hold⟩
    · cases hvalue
    · exact h.judged k f' f value hold hgrammar hvalue
  · exact (errors_record _ _ rfl).trans h.errors

end Tracker

namespace Form

/-! ### What the form announces -/

/-- What submitting a form announces, if it fails. -/
def faults (form : Form) : List AppError :=
  match form.outcome.result with
  | .ok _ => []
  | .error x => [(failureReport x).error]

/-- The guards were honoured: the guarded inputs hold what can be typed, their
    grammars have judged nothing else, and these errors were announced. -/
structure Honoured (es : List AppError) (t : Tracker Input Input) : Prop where
  wiring : t.wiring = wiring
  typable : ∀ f : Field, f.typable (t.text (.guarded f))
  trusted : t.Trusted es

variable {es : List AppError} {t : Tracker Input Input}

/-- A field of the form is that of its own input, and it has the input's check. -/
theorem field_of_wiring (hwiring : t.wiring = wiring) {i : Input} {field : Tracked Input}
    (hfield : t.field? i = some field) : field.widget = i ∧ field.check = check i := by
  rcases exists_field t hwiring i with ⟨field', hfield', hwidget, hcheck, -⟩
  rw [hfield, Option.some.injEq] at hfield'
  rw [hfield']
  exact ⟨hwidget, hcheck⟩

/-- Only the guarded inputs are checked by grammars. -/
theorem eq_guarded_of_check {i : Input} {f : Field} (h : check i = .grammar f) :
    i = .guarded f := by
  cases i with
  | guarded g => rw [Check.grammar.inj h]
  | _ => cases h

-- Where the inputs are as they were, only the fields are left to be looked at.
theorem Honoured.of_sameInputs (h : Honoured es t) {t' : Tracker Input Input}
    {es' : List AppError} (hsame : Tracker.SameInputs t t') (htrusted : t'.Trusted es') :
    Honoured es' t' := by
  refine ⟨hsame.wiring.trans h.wiring, fun f => ?_, htrusted⟩
  rw [hsame.text]
  exact h.typable f

theorem Honoured.act (h : Honoured es t) (i : Input) (a : Action) (hmay : guardedEdit t i a) :
    Honoured es (t.act i a).1 := by
  rcases kept_typable.act t i a hmay ⟨h.wiring, h.typable⟩ with ⟨hwiring, htypable⟩
  refine ⟨hwiring, htypable, (Tracker.timeless_trusted es).act t i a ?_⟩
  refine h.trusted.edited i _ fun key field f hfield hcheck hi => ?_
  -- The field is that of a guarded input, and this is the one that was edited.
  rcases field_of_wiring h.wiring hfield with ⟨hwidget, hown⟩
  have hkey : key = .guarded f := eq_guarded_of_check (hown.symm.trans hcheck)
  have hedited := htypable f
  rw [Tracker.text_act, if_pos (hkey.symm.trans (hwidget.symm.trans hi))] at hedited
  exact hedited

theorem Honoured.recheck (h : Honoured es t) (i : Input) : Honoured es (t.recheck i) :=
  h.of_sameInputs (t.recheck_sameInputs i) ((Tracker.timeless_trusted es).recheck t i h.trusted)

theorem Honoured.recheckAll (h : Honoured es t) : Honoured es t.recheckAll :=
  h.of_sameInputs t.recheckAll_sameInputs
    ((Tracker.timeless_trusted es).recheckAll t h.trusted)

theorem Honoured.advance (h : Honoured es t) (ms : Nat) : Honoured es (t.advance ms) :=
  h.of_sameInputs (t.advance_sameInputs ms)
    ((Tracker.timeless_trusted es).advance (fun _ _ _ ht => ht.of_same rfl rfl ht.errors) t ms
      h.trusted)

theorem Honoured.setButton (h : Honoured es t) (b : Bool) : Honoured es (t.setButton b) :=
  h.of_sameInputs (t.setButton_undisturbed b).toSameInputs
    (h.trusted.of_same rfl rfl h.trusted.errors)

theorem Honoured.emptied (h : Honoured es t) : Honoured es (emptied t) :=
  List.foldlRecOn _ _ h fun _ ht i _ => Honoured.act ht i (.setText []) fun _ _ => rfl

theorem Honoured.fail {form : Form} (h : Honoured es form.tracker) (x : Failure) :
    Honoured (es ++ [(failureReport x).error]) (form.fail x).tracker := by
  have hreported : Honoured (es ++ [(failureReport x).error])
      (recordReport form.tracker (failureReport x)) := by
    refine h.of_sameInputs ⟨rfl, rfl, rfl⟩ (h.trusted.of_same rfl rfl ?_)
    rw [errors_recordReport, h.trusted.errors]
  rw [tracker_fail]
  exact hreported.recheckAll.setButton _

theorem Honoured.succeed {form : Form} (h : Honoured es form.tracker) (reply : String) :
    Honoured es (form.succeed reply).tracker := by
  have hsilent : ∀ {t : Tracker Input Input} (e : Event Input Input), e.error? = none →
      Honoured es t → Honoured es (t.record e) := by
    intro t e he ht
    refine ht.of_sameInputs (t.record_undisturbed e).toSameInputs (ht.trusted.of_same rfl rfl ?_)
    exact (t.errors_record e he).trans ht.trusted.errors
  have hafter : Honoured es (afterSuccess form.tracker reply) :=
    hsilent _ rfl (hsilent _ rfl h).emptied.recheckAll
  rw [tracker_succeed]
  generalize afterSuccess form.tracker reply = after at hafter ⊢
  exact hafter.of_sameInputs ⟨rfl, rfl, rfl⟩
    (hafter.trusted.of_same rfl rfl hafter.trusted.errors)

/-- A submission announces the failure that came of it, and nothing else. -/
theorem Honoured.submit {form : Form} (h : Honoured es form.tracker) :
    Honoured (es ++ form.faults) form.submit.tracker := by
  have hstarted : Honoured es form.underWay.tracker := by
    refine h.of_sameInputs ⟨rfl, rfl, rfl⟩ (h.trusted.of_same rfl rfl ?_)
    rw [errors_underWay, h.trusted.errors]
  unfold faults
  cases hresult : form.outcome.result with
  | ok reply =>
      rw [form.submit_of_ok hresult, List.append_nil]
      exact hstarted.succeed reply
  | error x =>
      rw [form.submit_of_error hresult]
      exact hstarted.fail x

/-- What each step announces: the failure of a submission, if it is one. -/
theorem Honoured.step {form : Form} (h : Honoured es form.tracker) (s : Step)
    (hmay : form.Allows guardedEdit s) :
    Honoured (es ++ if form.submits s then form.faults else []) (form.step s).1.tracker := by
  by_cases hsubmits : form.submits s
  · rw [if_pos hsubmits, step_of_submits form s hsubmits]
    exact h.submit
  · rw [if_neg hsubmits, List.append_nil]
    cases s with
    | act i a => exact h.act i a hmay
    | fill texts =>
        exact List.foldlRecOn _ _ h fun t ht entry hentry =>
          Honoured.act ht entry.1 (.setText entry.2) (hmay entry hentry t)
    | click =>
        have hsame : form.click = form := if_neg hsubmits
        change Honoured es form.click.tracker
        rw [hsame]
        exact h
    | submit => exact absurd rfl hsubmits
    | clear =>
        change Honoured es form.clear.tracker
        rw [tracker_clear]
        exact h.emptied.recheckAll
    | advance ms => exact h.advance ms

theorem trusted_trackInputs (t : Tracker Input Input) (h : t.Trusted es)
    (hblank : t.text = fun _ => []) : (trackInputs t).Trusted es := by
  -- Blank inputs are trusted, whoever registers them.
  have hregistered := List.foldlRecOn (motive := fun t' : Tracker Input Input =>
    t'.Trusted es ∧ t'.text = fun _ => []) Input.all registerInput ⟨h, hblank⟩ fun t' ht i _ =>
      ⟨ht.1.register i i (check i) true fun f _ => by
        rw [ht.2]
        exact f.typable_nil, (t'.text_register i i (check i) true).trans ht.2⟩
  have hconnected : (connected t).Trusted es := by
    unfold connected
    generalize Input.all.foldl registerInput t = registered at hregistered ⊢
    refine hregistered.1.of_same rfl ?_ hregistered.1.errors
    funext i
    refine (registered.text_update .password i fun w =>
      { w with onChange := w.onChange ++ [.recheckNow .confirmation] }).trans ?_
    split
    · rfl
    · rfl
  have hjudged := (Tracker.timeless_trusted es).recheckAll _ hconnected
  rw [trackInputs_eq]
  generalize (connected t).recheckAll = judged at hjudged ⊢
  exact hjudged.of_same rfl rfl hjudged.errors

/-- A form begins with what was wrong with the settings, if anything was. -/
theorem Opened.honoured {form : Form} (h : form.Opened) :
    ∃ es, (∀ error ∈ es, ∃ x, error = (settingsReport x).error) ∧ Honoured es form.tracker := by
  rcases h.tracker_eq with ⟨events, hevents, htracker⟩
  have hnone : ∀ i, blankInputs.field? i = none := fun _ => rfl
  have hblank : blankInputs.Trusted [] := by
    refine ⟨fun i field f hfield => ?_, fun i field f value hfield => ?_, rfl⟩
    · rw [hnone] at hfield
      cases hfield
    · rw [hnone] at hfield
      cases hfield
  refine ⟨events.filterMap Event.error?, fun error herror => ?_, h.wiring_eq, fun f => ?_, ?_⟩
  · rcases List.mem_filterMap.mp herror with ⟨e, he, hsaid⟩
    rcases hevents e he with ⟨entry, rfl⟩ | ⟨x, rfl⟩
    · cases hsaid
    · exact ⟨x, (Option.some.inj hsaid).symm⟩
  · rw [htracker, text_trackInputs]
    exact f.typable_nil
  · rw [htracker]
    exact trusted_trackInputs _ (hblank.recordAll events) rfl

/-! ### Reports of different origin -/

/-- An error that is announced with a detail has a detail of that name. -/
theorem isSome_find?_context_handle (x : Failure) (raised : Bool) (name : String)
    (value : Value) :
    (Table.find? name (handle x raised [(name, value)]).error.context).isSome := by
  change (Table.find? name (capture x [(name, value)]).context).isSome
  rw [context_capture]
  exact Table.isSome_find?_putNew name _ _

/-- An intrusion has no details but the field and the value it is about. -/
theorem find?_context_intrusion (name : String) (f : Field) (value : Text) (detail : String)
    (hfield : detail ≠ "field") (hvalue : detail ≠ "value") :
    Table.find? detail (Check.intrusion name f value).error.context = none := by
  have hnone : Table.find? detail
      [("value", Value.text (Text.toString value))] = none := by
    simp only [Table.find?, if_neg hvalue.symm]
  change Table.find? detail (capture _ []).context = none
  rw [context_capture]
  change Table.find? detail (AppError.ofFieldValue name f.hint _).context = none
  unfold AppError.ofFieldValue AppError.withField
  split
  · exact hnone
  · change Table.find? detail (Table.put "field" _ _) = none
    rw [Table.find?_put, if_neg hfield]
    exact hnone

/-- Neither a failed submission nor bad settings are announced as an intrusion. -/
theorem ne_intrusion {error : AppError}
    (h : (∃ x, error = (failureReport x).error) ∨ ∃ x, error = (settingsReport x).error)
    (name : String) (f : Field) (value : Text) :
    error ≠ (Check.intrusion name f value).error := by
  rintro rfl
  have hdetail : ∃ detail, detail ≠ "field" ∧ detail ≠ "value" ∧
      (Table.find? detail (Check.intrusion name f value).error.context).isSome := by
    rcases h with ⟨x, hx⟩ | ⟨x, hx⟩
    · rw [hx]
      exact ⟨"form", by decide, by decide, isSome_find?_context_handle x true "form" _⟩
    · rw [hx]
      exact ⟨"source", by decide, by decide, isSome_find?_context_handle (.app x) true "source" _⟩
  rcases hdetail with ⟨detail, hfield, hvalue, hthere⟩
  rw [find?_context_intrusion name f value detail hfield hvalue] at hthere
  cases hthere

/-! ### The instant before a key is undone -/

/-- Whoever listens to a guarded input starts a timer when it changes, and does no
    more. -/
theorem notice_changed_guarded (hwiring : t.wiring = wiring) (f : Field) (value : Text) :
    t.notice (.guarded f) (.changed value) =
      (t.record (.changed (.guarded f) value)).schedule (.guarded f) := by
  have hlisteners : (t.widgets (.guarded f)).onChange = [.recheckSoon (.guarded f)] :=
    congrArg (fun x : Wiring Input Input => (x.links (.guarded f)).onChange) hwiring
  rw [Tracker.notice, hlisteners]
  rfl

theorem judged_schedule (t : Tracker Input Input) (i : Input) :
    (t.schedule i).judged = t.judged := by
  unfold Tracker.schedule
  split
  · rfl
  · rfl

/-- It does not matter what an input holds when a timer is started, nor whether it is
    edited before or after that. -/
theorem edited_schedule_edited (t : Tracker Input Input) (i : Input) (instant final : LineEdit) :
    ((t.edited i instant).schedule i).edited i final = (t.edited i final).schedule i := by
  have hwidgets : ((t.edited i instant).edited i final).widgets = (t.edited i final).widgets := by
    funext v
    unfold Tracker.edited Tracker.update
    by_cases hv : v = i
    · simp only [if_pos hv]
    · simp only [if_neg hv]
  have hfield : ∀ e, (t.edited i e).field? i = t.field? i := fun _ => rfl
  unfold Tracker.schedule
  rw [hfield, hfield]
  cases t.field? i with
  | none => exact congrArg (fun widgets => { t with widgets }) hwidgets
  | some field =>
      exact congrArg (fun widgets => { t with
        widgets
        agenda := t.agenda.start (Tracker.timer i field) (t.clock + t.delay) }) hwidgets

/-! ### Every form -/

/-- What a form may become if certain edits may be made, anything else may happen,
    and fields may be judged at any time. -/
inductive Probed (may : Tracker Input Input → Input → Action → Prop) : Form → Prop where
  | opened (form : Form) : form.Opened → Probed may form
  | step (form : Form) (s : Step) :
      Probed may form → form.Allows may s → Probed may (form.step s).1
  | recheck (form : Form) (i : Input) :
      Probed may form → Probed may (form.withTracker fun t => t.recheck i)
  | recheckAll (form : Form) :
      Probed may form → Probed may (form.withTracker Tracker.recheckAll)

/-- Several steps that are always allowed. -/
theorem Probed.run {may : Tracker Input Input → Input → Action → Prop} {form : Form}
    (h : form.Probed may) (steps : List Step)
    (hallows : ∀ s ∈ steps, ∀ form : Form, form.Allows may s) : (form.run steps).Probed may :=
  List.foldlRecOn _ _ h fun form hform s hs => .step form s hform (hallows s hs form)

/-- Whatever is announced, the guards were honoured, and the errors tell of the
    settings and of submissions. -/
theorem Probed.honoured {form : Form} (h : form.Probed guardedEdit) :
    ∃ es, (∀ error ∈ es, (∃ x, error = (failureReport x).error) ∨
      ∃ x, error = (settingsReport x).error) ∧ Honoured es form.tracker := by
  induction h with
  | opened form hform =>
      rcases hform.honoured with ⟨es, hes, hhonoured⟩
      exact ⟨es, fun error herror => Or.inr (hes error herror), hhonoured⟩
  | step form s _ hmay ih =>
      rcases ih with ⟨es, hes, hhonoured⟩
      refine ⟨_, fun error herror => ?_, hhonoured.step s hmay⟩
      rcases List.mem_append.mp herror with hold | hnew
      · exact hes error hold
      · -- What is new is the failure of a submission.
        split at hnew
        · unfold faults at hnew
          split at hnew
          · cases hnew
          · exact Or.inl ⟨_, List.mem_singleton.mp hnew⟩
        · cases hnew
  | recheck form i _ ih =>
      rcases ih with ⟨es, hes, hhonoured⟩
      exact ⟨es, hes, hhonoured.recheck i⟩
  | recheckAll form _ ih =>
      rcases ih with ⟨es, hes, hhonoured⟩
      exact ⟨es, hes, hhonoured.recheckAll⟩

/-- As long as the guards are honoured, no intrusion is ever reported: every error
    that is announced is the failure of a submission or what was wrong with the
    settings. The grammars have judged only what can be typed, and that is what their
    inputs hold. Whatever stands in a guarded input for an instant, nobody judges
    anything when it is announced, and all is as if the announcement had come after
    the instant. -/
theorem no_intrusion (form : Form) (h : form.Probed guardedEdit) :
    (∀ name f value, (Check.intrusion name f value).error ∉ form.tracker.errors) ∧
      (∀ error ∈ form.tracker.errors, (∃ x, error = (failureReport x).error) ∨
        ∃ x, error = (settingsReport x).error) ∧
      (∀ f field, form.tracker.field? (.guarded f) = some field →
        (∀ value, field.lastValue = some value → f.judge value ≠ .invalid) ∧
          f.judge (form.tracker.text (.guarded f)) ≠ .invalid) ∧
      ∀ f (instant final : LineEdit) value,
        let told := (form.tracker.edited (.guarded f) instant).notice (.guarded f) (.changed value)
        told.judged = form.tracker.judged ∧
          told.edited (.guarded f) final =
            (form.tracker.edited (.guarded f) final).notice (.guarded f) (.changed value) := by
  rcases h.honoured with ⟨es, hes, hhonoured⟩
  have horigin : ∀ error ∈ form.tracker.errors, (∃ x, error = (failureReport x).error) ∨
      ∃ x, error = (settingsReport x).error := by
    rw [hhonoured.trusted.errors]
    exact hes
  have hjudge : ∀ (f : Field) value, f.typable value → f.judge value ≠ .invalid := by
    intro f value htypable hinvalid
    rw [f.judge_eq_invalid_iff, htypable] at hinvalid
    cases hinvalid
  refine ⟨fun name f value hmem => ?_, horigin, fun f field hfield => ⟨fun value hvalue => ?_, ?_⟩,
    fun f instant final value => ?_⟩
  · exact ne_intrusion (horigin _ hmem) name f value rfl
  · have hcheck := (field_of_wiring hhonoured.wiring hfield).2
    exact hjudge f value (hhonoured.trusted.judged _ field f value hfield hcheck hvalue)
  · exact hjudge f _ (hhonoured.typable f)
  · have hwiring : ∀ e, (form.tracker.edited (.guarded f) e).wiring = wiring := fun e =>
      (form.tracker.wiring_edited _ e).trans hhonoured.wiring
    simp only [notice_changed_guarded (hwiring _), judged_schedule]
    exact ⟨rfl, edited_schedule_edited
      (form.tracker.record (.changed (.guarded f) value)) (.guarded f) instant final⟩

/-- A key leaves a zero in place of a document number and is undone, time passes, and
    the form is submitted with nothing but the number in it. -/
def undoneRun : List Step :=
  [.act (.guarded .documentNumber) (.paste ['1', '2']),
    .act (.guarded .documentNumber) (.press { platformEdit := some ⟨['0'], none⟩ }),
    .advance 200,
    .submit]

theorem allows_undoneRun : ∀ s ∈ undoneRun, ∀ form : Form, form.Allows guardedEdit s := by
  unfold undoneRun
  intro s hs form
  simp only [List.mem_cons, List.not_mem_nil, or_false] at hs
  rcases hs with rfl | rfl | rfl | rfl
  · exact fun _ _ => trivial
  · exact fun f _ => f.platformDeletes_of_deletionResult?_eq_none _ _ rfl
  · trivial
  · trivial

/-- The zero was announced, and the one error there is tells of the submission. -/
theorem no_intrusion_undoneRun :
    let form := (forOrganization "Acme" .dryRun).run undoneRun
    form.Probed guardedEdit ∧
      (form.tracker.history.any fun s => match s.event with
        | .changed i value => i = .guarded .documentNumber && value = ['0']
        | _ => false) = true ∧
      form.tracker.text (.guarded .documentNumber) = ['1', '2'] ∧
      form.tracker.errors.length = 1 ∧
      ∀ name f value, (Check.intrusion name f value).error ∉ form.tracker.errors := by
  intro form
  have hform : form.Probed guardedEdit :=
    (Probed.opened _ (.forOrganization "Acme" .dryRun)).run undoneRun allows_undoneRun
  exact ⟨hform, by decide +kernel, by decide +kernel, by decide +kernel,
    (no_intrusion form hform).1⟩

end Form

end ManagerSignup
