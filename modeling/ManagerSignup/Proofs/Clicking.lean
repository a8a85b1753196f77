import ManagerSignup.Proofs.Dealings
import ManagerSignup.Proofs.SubmitButton
import ManagerSignup.Proofs.TrackerRuns

/-!
# What a Click Hands Over

A click that hands a record over finds every input valid at that moment, with one
exception.

The button lags. It shows verdicts that may be on their way to being replaced,
and a click in between finds a button that can be pressed over inputs that are no
longer what they were judged to be. The submission checks come first, then, and
they look at the inputs as they are: a guarded text that is not complete, or a
confirmation that is not the password, hands nothing over.

Two things the tracker asks for are not among these checks. One of them is a
password that is not blank, and here the confirmation stands in. It is judged
anew as soon as the password changes, so a confirmation that counts as valid was
found to be the password there is now and not to be blank, whatever became of it
since. The other is the type of document. Nothing stands in for that, and until
its timer rings a record with a blank one can be handed over. The last theorem
does so.

## Theorems

* `Form.allJudged_of_reachable`: No field of a form is without a verdict.
* `Form.trim_password_ne_nil_of_enabled`: A button that can be pressed vouches for
  a password.
* `Form.valid_documentType_or_isPending_of_enabled`: What it has to say about the
  type of document.
* `Form.received_click`: What a click hands over.
* `Form.valid_of_received_click`: What holds when a click hands something over.
-/

namespace ManagerSignup

namespace Form

/-! ### What a button that can be pressed vouches for -/

theorem kept_allJudged (may : Tracker Input Input → Input → Action → Prop) :
    Kept may Tracker.AllJudged where
  act t i a _ h := Tracker.stable_allJudged.act t i a h
  empty t i h := Tracker.stable_allJudged.act t i (.setText []) h
  recheckAll t h := Tracker.stable_allJudged.recheckAll t h
  advance t ms h := Tracker.stable_allJudged.advance t ms h
  recordAll _ _ h := h
  startPause _ _ h := h

theorem allJudged_trackInputs (t : Tracker Input Input) (h : t.AllJudged) :
    (trackInputs t).AllJudged := by
  have hregistered : (Input.all.foldl registerInput t).AllJudged :=
    List.foldlRecOn _ _ h fun _ ht i _ => ht.register i i (check i) true
  have hconnected : (connected t).AllJudged := by
    unfold connected
    generalize Input.all.foldl registerInput t = registered at hregistered ⊢
    exact hregistered
  rw [trackInputs_eq]
  have hjudged := Tracker.stable_allJudged.recheckAll _ hconnected
  generalize (connected t).recheckAll = judged at hjudged ⊢
  exact hjudged

theorem Opened.allJudged {form : Form} (h : form.Opened) : form.tracker.AllJudged := by
  rcases h.tracker_eq with ⟨es, -, htracker⟩
  rw [htracker]
  refine allJudged_trackInputs _ fun i field hfield => ?_
  cases hfield

variable {may : Tracker Input Input → Input → Action → Prop}

/-- No field of a form is without a verdict. -/
theorem allJudged_of_reachable (form : Form) (h : form.Reachable may) :
    form.tracker.AllJudged :=
  (kept_allJudged may).of_reachable ((kept_allJudged may).submit fun _ _ _ ht => ht)
    (fun _ hform => hform.allJudged) form h

/-- A field of a form whose button can be pressed counts as valid. -/
theorem valid_of_enabled (form : Form) (h : form.Reachable may) (henabled : form.enabled)
    (i : Input) (field : Tracked Input) (hfield : form.tracker.field? i = some field) :
    field.valid := by
  rw [enabled_eq_allValid form h, allValid_iff form.tracker (wiring_of_reachable form h)]
    at henabled
  exact henabled i field hfield

/-- If the button can be pressed, there is a password, whatever waits to be
    judged. -/
theorem trim_password_ne_nil_of_enabled (form : Form) (h : form.Reachable may)
    (henabled : form.enabled) : Text.trim (form.tracker.text .password) ≠ [] := by
  rcases exists_field form.tracker (wiring_of_reachable form h) .confirmation with
    ⟨field, hfield, hwidget, hcheck, hrequired⟩
  have hvalid := valid_of_enabled form h henabled .confirmation field hfield
  -- The confirmation may have changed, but its verdict is on the password there is now.
  rcases Option.ne_none_iff_exists'.mp (allJudged_of_reachable form h .confirmation field hfield)
    with ⟨value, hvalue⟩
  have hverdict := (fresh_of_reachable form h).remembers .confirmation field hfield
    List.not_mem_nil value hvalue
  have hremembered := (congrArg Verdict.valid hverdict).symm.trans hvalid
  rw [Plan.verdictOn, Tracked.plan, hwidget, hcheck, hrequired] at hremembered
  rcases (valid_rule_iff _ _ _).mp hremembered with ⟨hthere, hagrees⟩
  have hmatch := (valid_confirmationVerdict_iff _ _).mp hagrees
  simp only [ne_eq, reduceCtorEq, not_false_eq_true, Function.update_of_ne,
    Function.update_self] at hmatch
  rw [hmatch]
  exact hthere

/-- If the button can be pressed, there is a type of document, or it waits to be
    judged. -/
theorem valid_documentType_or_isPending_of_enabled (form : Form) (h : form.Reachable may)
    (henabled : form.enabled) :
    ((check .documentType).verdict true form.tracker.surroundings
        (form.tracker.text .documentType)).valid ∨
      form.tracker.isPending .documentType := by
  rcases verdict_eq_of_reachable form h .documentType with ⟨field, hfield, hpending | hverdict⟩
  · exact Or.inr hpending
  · have hvalid := valid_of_enabled form h henabled .documentType field hfield
    exact Or.inl ((congrArg Verdict.valid hverdict).symm.trans hvalid)

/-! ### What a click hands over -/

/-- A click hands over what a submission does, if the button can be pressed. -/
theorem received_click (form : Form) :
    form.click.received =
      if form.enabled ∧ form.entries.sound then
        form.received ++ [Record.ofEntries form.entries form.organization]
      else form.received := by
  rw [click]
  by_cases henabled : form.enabled
  · rw [if_pos henabled, received_submit]
    simp only [henabled, true_and]
  · rw [if_neg henabled, if_neg fun h => henabled h.1]

/-- In a form whose guards were honoured, a click that hands something over finds
    the guarded texts complete and the password there and confirmed. Each input
    would be judged valid at that moment, but for the type of document while that
    waits to be judged. -/
theorem valid_of_received_click (form : Form) (h : form.Reachable guardedEdit)
    (hcall : form.click.received ≠ form.received) :
    (∀ f : Field, f.complete (form.tracker.text (.guarded f))) ∧
      form.tracker.text .password = form.tracker.text .confirmation ∧
      Text.trim (form.tracker.text .password) ≠ [] ∧
      (Text.trim (form.tracker.text .documentType) ≠ [] ∨
        form.tracker.isPending .documentType) ∧
      ∀ i, ((check i).verdict true form.tracker.surroundings (form.tracker.text i)).valid ∨
        i = .documentType ∧ form.tracker.isPending i := by
  have hclick : form.enabled ∧ form.entries.sound := by
    by_contra hnot
    rw [received_click, if_neg hnot] at hcall
    exact hcall rfl
  rcases hclick with ⟨henabled, hsound⟩
  -- The checks looked at the inputs as they are.
  rcases form.entries.sound_iff.mp hsound with ⟨hmatch, htrimmed⟩
  have hcomplete : ∀ f : Field, f.complete (form.tracker.text (.guarded f)) := by
    intro f
    rw [← f.complete_trim _ (typable_of_reachable_guarded form h f)]
    exact htrimmed f
  -- What they did not ask for is left to the button.
  have hpassword := trim_password_ne_nil_of_enabled form h henabled
  have hdocumentType := valid_documentType_or_isPending_of_enabled form h henabled
  refine ⟨hcomplete, hmatch, hpassword, ?_, fun i => ?_⟩
  · exact hdocumentType.imp_left (valid_check_documentType_iff _ _).mp
  · by_cases hi : i = .documentType
    · rw [hi]
      exact hdocumentType.imp_right fun hpending => ⟨rfl, hpending⟩
    · exact Or.inl (valid_check_of_ne_documentType form.tracker.surroundings hcomplete hmatch
        hpassword i hi)

/-- Filling in a form, waiting until the button can be pressed, and deleting the
    type of document. -/
def hastyRun : List Step :=
  [.act (.guarded .name) (.paste ['A', 'n', 'a']),
    .act (.guarded .username) (.paste ['a', '.', 'b']),
    .act (.guarded .documentNumber) (.paste ['1', '0', '5']),
    .act (.guarded .dialCode) (.typeEach ['+', '5', '7']),
    .act (.guarded .phoneNumber) (.paste ['3', '0', '0', '1', '2', '3', '4', '5', '6', '7']),
    .fill [(.password, ['p', 'w']), (.confirmation, ['p', 'w']), (.documentType, ['c', 'c'])],
    .advance 200,
    .act .documentType (.setText [])]

theorem allows_hastyRun : ∀ s ∈ hastyRun, ∀ form : Form, form.Allows guardedEdit s := by
  unfold hastyRun
  intro s hs form
  simp only [List.mem_cons, List.not_mem_nil, or_false] at hs
  rcases hs with rfl | rfl | rfl | rfl | rfl | rfl | rfl | rfl <;>
    simp [Allows, guardedEdit, Field.Honours]

theorem reachable_hastyRun :
    ((forOrganization "Acme" .dryRun).run hastyRun).Reachable guardedEdit :=
  Reachable.run (.opened _ (.forOrganization "Acme" .dryRun)) hastyRun allows_hastyRun

/-- A click at once hands a record over, and the type of document is what waits to
    be judged. -/
theorem valid_of_received_click_hastyRun :
    ∃ form : Form, form.Reachable guardedEdit ∧ form.click.received ≠ form.received ∧
      form.tracker.isPending .documentType ∧
      Text.trim (form.tracker.text .password) ≠ [] := by
  have hcall : ((forOrganization "Acme" .dryRun).run hastyRun).click.received ≠
      ((forOrganization "Acme" .dryRun).run hastyRun).received :=
    ne_of_apply_ne List.length (by decide +kernel)
  rcases valid_of_received_click _ reachable_hastyRun hcall with
    ⟨-, -, hpassword, hdocumentType, -⟩
  refine ⟨_, reachable_hastyRun, hcall, hdocumentType.resolve_left ?_, hpassword⟩
  decide +kernel

/-- The record has a blank type of document, which a judgement at that moment would
    have found at fault. -/
theorem documentType_blank_of_received_click :
    ∃ form : Form, form.Reachable guardedEdit ∧
      form.click.received.map Record.documentType = [[]] ∧ form.received = [] ∧
      (check .documentType).verdict true form.tracker.surroundings
        (form.tracker.text .documentType) = .fault requiredMessage := by
  refine ⟨_, reachable_hastyRun, by decide +kernel, ?_, by decide +kernel⟩
  exact List.length_eq_zero_iff.mp (by decide +kernel)

end Form

end ManagerSignup
