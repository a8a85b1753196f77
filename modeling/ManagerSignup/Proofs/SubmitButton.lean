import ManagerSignup.Proofs.Announcing
import ManagerSignup.Proofs.FormVerdicts
import ManagerSignup.Proofs.Guarding
import ManagerSignup.Proofs.SubmissionChecks

/-!
# The Submit Button

The button can be pressed if and only if what was entered would pass the
submission checks, as long as nothing waits to be judged.

Two judgements are made of a form, and they were not made for each other. The
tracker judges each field by its text as it stands and keeps what it found. The
submission looks at all texts at once, without the blanks around them. That they
agree takes four facts, each with a reason of its own. The verdicts are fresh.
The button shows their conjunction. Trimming changes nothing about a text that
was typed, and the guards see to it that the texts were. And a confirmation that
agrees with a password that is there is itself there.

The tracker asks for two things that a submission does not, a password and a type
of document. They are what the button has beyond the checks.

A submission switches the button off behind the tracker's back. After a failure
the conjunction is set by hand. After a success the inputs are empty, nothing is
valid, and off is what the button should be, whoever switched it off.

## Main definitions

* `Form.guardedEdit`: An edit of a guarded input that honours its guard.

## Theorems

* `Form.allValid_recheckAll_emptied`: Nothing about an empty form is valid.
* `Form.follows_submit`, `Form.follows_of_reachable`: The button shows the
  conjunction, after a submission and always.
* `Form.typable_of_reachable_guarded`: The guarded inputs hold what can be typed.
* `Form.valid_check_iff`: When the verdict on an input is that it is valid.
* `Form.enabled_iff_forall_valid`: The button and the fields agree at any time.
* `Form.enabled_iff_checkEntries`: The button and the submission checks agree.
-/

namespace ManagerSignup

theorem Input.mem_all (i : Input) : i ∈ Input.all := by
  cases i with
  | guarded f => cases f <;> decide
  | _ => decide

namespace Form

/-! ### The button and the conjunction -/

theorem kept_follows (may : Tracker Input Input → Input → Action → Prop) (lag : Prop) :
    Kept may (Tracker.Follows lag) where
  act t i a _ h := (Tracker.kept_follows lag).stable.act t i a ⟨h.overall, h.button⟩
  empty t i h := (Tracker.kept_follows lag).stable.act t i (.setText []) ⟨h.overall, h.button⟩
  recheckAll t h := (Tracker.kept_follows lag).stable.recheckAll t h
  advance t ms h := (Tracker.kept_follows lag).stable.advance t ms h
  recordAll _ _ h := ⟨h.overall, h.button⟩
  startPause _ _ h := ⟨h.overall, h.button⟩

/-- While a submission is under way the button may lag behind. -/
theorem keptByButton_follows : KeptByButton (Tracker.Follows True) := by
  rintro t b (rfl | rfl) h
  · exact h.setButton_false
  · exact h.setButton_allValid.mono False.elim

theorem text_foldl_setText_nil (inputs : List Input) (t : Tracker Input Input) (i : Input) :
    (inputs.foldl (fun t i => (t.act i (.setText [])).1) t).text i =
      if i ∈ inputs then [] else t.text i := by
  induction inputs generalizing t with
  | nil => rw [if_neg List.not_mem_nil, List.foldl_nil]
  | cons head rest ih =>
      rw [List.foldl_cons, ih, Tracker.text_act_setText]
      by_cases hrest : i ∈ rest
      · rw [if_pos hrest, if_pos (List.mem_cons_of_mem head hrest)]
      · rw [if_neg hrest]
        simp only [List.mem_cons, hrest, or_false]

theorem text_emptied (t : Tracker Input Input) (i : Input) : (emptied t).text i = [] := by
  rw [emptied, text_foldl_setText_nil, if_pos i.mem_all]

theorem wiring_emptied (t : Tracker Input Input) (h : t.wiring = wiring) :
    (emptied t).wiring = wiring :=
  (kept_wiring anyEdit).emptied t h

/-- Each input has one field. -/
theorem allValid_iff (t : Tracker Input Input) (h : t.wiring = wiring) :
    t.allValid ↔ ∀ i field, t.field? i = some field → field.valid := by
  refine t.allValid_iff ?_
  -- The keys are those of the plans, and these are written out in the wiring.
  have hkeys : t.fields.keys = Table.keys t.wiring.plans := (Table.keys_view _ _).symm
  rw [hkeys, h]
  decide

/-- Nothing about an empty form is valid once it was judged. -/
theorem allValid_recheckAll_emptied (t : Tracker Input Input) (h : t.wiring = wiring) :
    (emptied t).recheckAll.allValid = false := by
  have hemptied := wiring_emptied t h
  have hjudged := (Tracker.recheckAll_sameInputs (emptied t)).wiring.trans hemptied
  have hfresh := Tracker.freshBut_recheckAll (emptied t) (by rw [hemptied]; exact attentive_wiring)
  rcases exists_field _ hjudged .password with ⟨field, hfield, hwidget, -, hrequired⟩
  -- The password will do: it is empty, and its timer was stopped.
  have hverdict := (hfresh.isPending_or_verdict_of_check hfield).resolve_left
    (by rw [Tracker.isPending_recheckAll]; exact Bool.false_ne_true)
  have htext : (emptied t).recheckAll.text .password = [] := by
    rw [(Tracker.recheckAll_sameInputs (emptied t)).text, text_emptied]
  rw [hwidget, hrequired, htext] at hverdict
  have hinvalid : field.valid = false := congrArg Verdict.valid hverdict
  rw [← Bool.not_eq_true, allValid_iff _ hjudged]
  intro hall
  rw [hall .password field hfield] at hinvalid
  cases hinvalid

/-- What a success leaves is an empty form, whatever else it does. -/
theorem allValid_succeed (form : Form) (reply : String) (h : form.tracker.wiring = wiring) :
    (form.succeed reply).tracker.allValid = false := by
  have hcleared := allValid_recheckAll_emptied (form.tracker.record (.noted acceptedEntry)) h
  rw [tracker_succeed, afterSuccess]
  generalize (emptied (form.tracker.record (.noted acceptedEntry))).recheckAll = cleared
    at hcleared ⊢
  exact hcleared

/-- A submission leaves the button as the fields stand. -/
theorem follows_submit (form : Form) (hwiring : form.tracker.wiring = wiring)
    (h : form.tracker.Follows False) : form.submit.tracker.Follows False := by
  have hunderWay := (kept_follows anyEdit True).underWay keptByButton_follows form
    (h.mono False.elim)
  rcases form.submit_cases with ⟨reply, hsubmit⟩ | ⟨x, hsubmit⟩
  · -- The button may be off for another reason than the fields, but off is right.
    have hlagging := (kept_follows anyEdit True).succeed form.underWay reply hunderWay
    rw [hsubmit]
    exact hlagging.of_allValid_eq_false (allValid_succeed form.underWay reply hwiring)
  · -- Whatever the button showed, it is set in the end.
    rw [hsubmit, tracker_fail]
    have hreported := (kept_follows anyEdit True).recordReport form.underWay.tracker
      (failureReport x) hunderWay
    exact ((Tracker.kept_follows True).stable.recheckAll _ hreported).setButton_allValid

theorem overall_foldl_registerInput (inputs : List Input) (t : Tracker Input Input)
    (hne : inputs ≠ []) :
    (inputs.foldl registerInput t).overall =
      some (inputs.foldl registerInput t).allValid := by
  cases inputs using List.reverseRecOn with
  | nil => exact absurd rfl hne
  | append_singleton before last =>
      rw [List.foldl_append]
      exact Tracker.overall_register _ last last (check last) true

/-- A form begins with a button that shows how the fields stand. -/
theorem follows_trackInputs (t : Tracker Input Input) : (trackInputs t).Follows False := by
  have hconnected : (connected t).Follows True := by
    have hregistered := overall_foldl_registerInput Input.all t (by decide)
    unfold connected
    generalize Input.all.foldl registerInput t = registered at hregistered ⊢
    exact ⟨hregistered, Or.inr ⟨trivial, rfl⟩⟩
  rw [trackInputs_eq]
  exact ((Tracker.kept_follows True).stable.recheckAll _ hconnected).setButton_allValid

variable {may : Tracker Input Input → Input → Action → Prop}

/-- The button of a form shows how its fields stand. -/
theorem follows_of_reachable (form : Form) (h : form.Reachable may) :
    form.tracker.Follows False := by
  have hboth := ((kept_wiring may).and (kept_follows may False)).of_reachable
    (fun form hform => ⟨(kept_wiring may).submit (fun _ _ _ ht => ht) form hform.1,
      follows_submit form hform.1 hform.2⟩)
    (fun form hform => ⟨hform.wiring_eq, ?_⟩) form h
  · exact hboth.2
  · rcases hform.tracker_eq with ⟨es, -, htracker⟩
    rw [htracker]
    exact follows_trackInputs _

/-! ### The texts of guarded inputs -/

/-- An edit of a guarded input that honours its guard, or of another input. -/
def guardedEdit (t : Tracker Input Input) (i : Input) (a : Action) : Prop :=
  ∀ f, i = .guarded f → f.Honours (t.widgets i).edit a

/-- Edits that honour the guards leave what can be typed. -/
theorem typable_text_act (t : Tracker Input Input) (i : Input) (a : Action)
    (hwiring : t.wiring = wiring) (hmay : guardedEdit t i a)
    (h : ∀ f : Field, f.typable (t.text (.guarded f))) (f : Field) :
    f.typable ((t.act i a).1.text (.guarded f)) := by
  rw [Tracker.text_act]
  by_cases hi : .guarded f = i
  · -- Who guards an input is part of the wiring.
    have hguard : (t.widgets i).guard = some f := by
      have hlinks := congrArg (fun x => (x.links i).guard) hwiring
      rw [← hi] at hlinks ⊢
      exact hlinks
    rw [if_pos hi, Tracker.reaction, hguard]
    refine f.typable_act _ a ?_ (hmay f hi.symm)
    rw [← hi]
    exact h f
  · rw [if_neg hi]
    exact h f

theorem kept_typable :
    Kept guardedEdit fun t => t.wiring = wiring ∧ ∀ f : Field, f.typable (t.text (.guarded f)) where
  act t i a hmay h := ⟨(t.wiring_act i a).trans h.1, typable_text_act t i a h.1 hmay h.2⟩
  empty t i h := ⟨(t.wiring_act i _).trans h.1,
    typable_text_act t i (.setText []) h.1 (fun _ _ => rfl) h.2⟩
  recheckAll t h := by
    rw [t.recheckAll_sameInputs.wiring, t.recheckAll_sameInputs.text]
    exact h
  advance t ms h := by
    rw [(t.advance_sameInputs ms).wiring, (t.advance_sameInputs ms).text]
    exact h
  recordAll _ _ h := h
  startPause _ _ h := h

/-- The guarded inputs hold what can be typed. -/
theorem typable_of_reachable_guarded (form : Form) (h : form.Reachable guardedEdit) (f : Field) :
    f.typable (form.tracker.text (.guarded f)) := by
  have hboth := kept_typable.of_reachable (kept_typable.submit fun _ _ _ ht => ht)
    (fun form hform => ⟨hform.wiring_eq, fun f => ?_⟩) form h
  · exact hboth.2 f
  · rcases hform.tracker_eq with ⟨es, -, htracker⟩
    rw [htracker, text_trackInputs]
    exact f.typable_nil

/-! ### The verdicts and the submission checks -/

/-- A guarded input is valid if its grammar calls its text complete. -/
theorem valid_check_guarded_iff (f : Field) (s : Surroundings Input) (value : Text) :
    ((check (.guarded f)).verdict true s value).valid ↔ f.complete value := by
  unfold Check.verdict
  by_cases hblank : Text.allBlank value
  · rw [if_pos hblank]
    refine ⟨fun h => absurd h Bool.false_ne_true, fun h => ?_⟩
    rw [f.allBlank_of_complete value h] at hblank
    cases hblank
  · rw [if_neg hblank]
    change (f.verdict value).valid = true ↔ _
    rw [← f.judge_eq_acceptable_iff, Field.verdict]
    cases f.judge value with
    | acceptable => exact ⟨fun _ => rfl, fun _ => rfl⟩
    | intermediate => exact ⟨fun h => absurd h Bool.false_ne_true, nofun⟩
    | invalid => exact ⟨fun h => absurd h Bool.false_ne_true, nofun⟩

/-- A rule is asked only about what is not blank. -/
theorem valid_rule_iff (answer : Surroundings Input → Text → Verdict) (s : Surroundings Input)
    (value : Text) :
    ((Check.rule answer).verdict true s value).valid ↔
      Text.trim value ≠ [] ∧ (answer s value).valid := by
  rw [ne_eq, Text.trim_eq_nil_iff, Check.verdict]
  by_cases hblank : Text.allBlank value
  · rw [if_pos hblank]
    exact ⟨fun h => absurd h Bool.false_ne_true, fun h => absurd hblank h.1⟩
  · rw [if_neg hblank]
    exact ⟨fun h => ⟨hblank, h⟩, fun h => h.2⟩

theorem valid_confirmationVerdict_iff (s : Surroundings Input) (value : Text) :
    (confirmationVerdict s value).valid ↔ s.texts .password = s.texts .confirmation := by
  have hmatch : (entriesOf s.texts).passwordsMatch ↔
      s.texts .password = s.texts .confirmation := decide_eq_true_iff
  rw [← hmatch, confirmationVerdict]
  split
  · next h => exact ⟨fun _ => h, fun _ => rfl⟩
  · next h => exact ⟨fun hvalid => absurd hvalid Bool.false_ne_true, fun h' => absurd h' h⟩

/-- What the submission checks and a password say about the inputs: all are valid
    but for the type of document. -/
theorem valid_check_of_ne_documentType (s : Surroundings Input)
    (hcomplete : ∀ f : Field, f.complete (s.texts (.guarded f)))
    (hmatch : s.texts .password = s.texts .confirmation)
    (hpassword : Text.trim (s.texts .password) ≠ []) (i : Input) (hi : i ≠ .documentType) :
    ((check i).verdict true s (s.texts i)).valid := by
  cases i with
  | guarded f => exact (valid_check_guarded_iff f s _).mpr (hcomplete f)
  | password => exact (valid_rule_iff _ s _).mpr ⟨hpassword, rfl⟩
  | confirmation =>
      -- The confirmation is not blank because the password is not.
      refine (valid_rule_iff _ s _).mpr ⟨?_, (valid_confirmationVerdict_iff s _).mpr hmatch⟩
      rw [← hmatch]
      exact hpassword
  | documentType => exact absurd rfl hi

/-- The type of document is valid if it is there. -/
theorem valid_check_documentType_iff (s : Surroundings Input) (value : Text) :
    ((check .documentType).verdict true s value).valid ↔ Text.trim value ≠ [] :=
  (valid_rule_iff _ s value).trans (and_iff_left rfl)

/-- Every input is valid if the guarded ones are complete, the passwords agree,
    and neither the password nor the type of document is blank. -/
theorem valid_check_iff (s : Surroundings Input) :
    (∀ i, ((check i).verdict true s (s.texts i)).valid) ↔
      (∀ f : Field, f.complete (s.texts (.guarded f))) ∧
        s.texts .password = s.texts .confirmation ∧
        Text.trim (s.texts .password) ≠ [] ∧ Text.trim (s.texts .documentType) ≠ [] := by
  constructor
  · intro h
    have hconfirmation := (valid_rule_iff _ s _).mp (h .confirmation)
    refine ⟨fun f => (valid_check_guarded_iff f s _).mp (h (.guarded f)), ?_, ?_, ?_⟩
    · exact (valid_confirmationVerdict_iff s _).mp hconfirmation.2
    · exact ((valid_rule_iff _ s _).mp (h .password)).1
    · exact (valid_check_documentType_iff s _).mp (h .documentType)
  · rintro ⟨hcomplete, hmatch, hpassword, hdocumentType⟩ i
    by_cases hi : i = .documentType
    · rw [hi]
      exact (valid_check_documentType_iff s _).mpr hdocumentType
    · exact valid_check_of_ne_documentType s hcomplete hmatch hpassword i hi

/-- The button shows the conjunction of all fields. -/
theorem enabled_eq_allValid (form : Form) (h : form.Reachable may) :
    form.enabled = form.tracker.allValid := by
  have hbutton := (follows_of_reachable form h).button
  rw [enabled, hbutton.resolve_right (fun hlag => hlag.1)]
  rfl

/-- Where nothing waits to be judged, the fields are valid if judging them now
    would find them so. -/
theorem allValid_iff_verdicts (form : Form) (h : form.Reachable may)
    (hquiet : ∀ i, form.tracker.isPending i = false) :
    form.tracker.allValid ↔ ∀ i, ((check i).verdict true form.tracker.surroundings
      (form.tracker.text i)).valid := by
  have hverdict : ∀ i field, form.tracker.field? i = some field →
      field.valid = ((check i).verdict true form.tracker.surroundings
        (form.tracker.text i)).valid := by
    intro i field hfield
    rcases verdict_eq_of_reachable form h i with ⟨field', hfield', hpending | hfresh⟩
    · rw [hquiet i] at hpending
      cases hpending
    · rw [hfield] at hfield'
      cases hfield'
      exact congrArg Verdict.valid hfresh
  rw [allValid_iff form.tracker (wiring_of_reachable form h)]
  constructor
  · intro hall i
    rcases exists_field form.tracker (wiring_of_reachable form h) i with ⟨field, hfield, -⟩
    rw [← hverdict i field hfield]
    exact hall i field hfield
  · intro hall i field hfield
    rw [hverdict i field hfield]
    exact hall i

/-- In a form whose guards were honoured and in which nothing waits to be judged,
    the button can be pressed if and only if what was entered passes the
    submission checks and neither the password nor the type of document is
    blank. -/
theorem enabled_iff_checkEntries (form : Form) (h : form.Reachable guardedEdit)
    (hquiet : ∀ i, form.tracker.isPending i = false) :
    form.enabled ↔
      checkEntries form.entries = .ok () ∧ Text.trim (form.entries.text .password) ≠ [] ∧
        Text.trim (form.entries.text .documentType) ≠ [] := by
  -- Here the guards are needed: a text that was set might be complete only when trimmed.
  have htrim : ∀ f : Field, f.complete (Text.trim (form.entries.text (.guarded f))) =
      f.complete (form.tracker.text (.guarded f)) :=
    fun f => f.complete_trim _ (typable_of_reachable_guarded form h f)
  have hmatch : form.entries.passwordsMatch ↔
      form.tracker.text .password = form.tracker.text .confirmation := decide_eq_true_iff
  rw [enabled_eq_allValid form h, allValid_iff_verdicts form h hquiet, checkEntries_eq_ok_iff,
    hmatch]
  simp only [htrim]
  refine (valid_check_iff form.tracker.surroundings).trans ?_
  exact ⟨fun ⟨hcomplete, hagree, hrest⟩ => ⟨⟨hagree, hcomplete⟩, hrest⟩,
    fun ⟨⟨hagree, hcomplete⟩, hrest⟩ => ⟨hcomplete, hagree, hrest⟩⟩

/-- Filling in a form, forgetting the last letter of the confirmation, submitting
    all the same, and mending it. -/
def mendedRun : List Step :=
  [.act (.guarded .name) (.paste ['A', 'n', 'a', ' ']),
    .act (.guarded .username) (.paste ['a', '.', 'b']),
    .act (.guarded .documentNumber) (.paste ['1', '0', '5']),
    .act (.guarded .dialCode) (.typeEach ['+', '5', '7']),
    .act (.guarded .phoneNumber) (.paste ['3', '0', '0', '1', '2', '3', '4', '5', '6', '7']),
    .fill [(.password, ['p', 'w']), (.confirmation, ['p']), (.documentType, ['c', 'c'])],
    .submit,
    .act .confirmation (.setText ['p', 'w']),
    .advance 200]

theorem allows_mendedRun : ∀ s ∈ mendedRun, ∀ form : Form, form.Allows guardedEdit s := by
  unfold mendedRun
  intro s hs form
  simp only [List.mem_cons, List.not_mem_nil, or_false] at hs
  rcases hs with rfl | rfl | rfl | rfl | rfl | rfl | rfl | rfl | rfl <;>
    simp [Allows, guardedEdit, Field.Honours]

/-- It ends with a button that can be pressed, and rightly so. -/
theorem enabled_iff_checkEntries_mendedRun :
    ∃ form : Form, form.Reachable guardedEdit ∧ (∀ i, form.tracker.isPending i = false) ∧
      form.enabled ∧ checkEntries form.entries = .ok () := by
  have hopened : (forOrganization "Acme" .dryRun).Reachable guardedEdit :=
    .opened _ (.forOrganization "Acme" .dryRun)
  have hform := hopened.run mendedRun allows_mendedRun
  have hquiet : ∀ i ∈ Input.all,
      ((forOrganization "Acme" .dryRun).run mendedRun).tracker.isPending i = false := by
    decide +kernel
  have henabled : ((forOrganization "Acme" .dryRun).run mendedRun).enabled := by decide +kernel
  refine ⟨_, hform, fun i => hquiet i i.mem_all, henabled, ?_⟩
  exact ((enabled_iff_checkEntries _ hform fun i => hquiet i i.mem_all).mp henabled).1

/-- Whatever is done with a form, its button can be pressed if and only if each of
    its eight fields counts as valid at that moment. -/
theorem enabled_iff_forall_valid (form : Form) (h : form.Reachable anyEdit) :
    form.enabled ↔ ∀ i, ∃ field, form.tracker.field? i = some field ∧ field.valid := by
  have hwiring := wiring_of_reachable form h
  rw [enabled_eq_allValid form h, allValid_iff form.tracker hwiring]
  constructor
  · intro hall i
    rcases exists_field form.tracker hwiring i with ⟨field, hfield, -⟩
    exact ⟨field, hfield, hall i field hfield⟩
  · intro hall i field hfield
    -- The field that counts as valid is the one there is.
    rcases hall i with ⟨field', hfield', hvalid⟩
    rw [hfield, Option.some.injEq] at hfield'
    rw [hfield']
    exact hvalid

/-- A backend that does not answer in time. -/
def slowBackend : Backend :=
  { answer := fun _ _ => .fail (.fault (.named "TimeoutError" "")) }

/-- A click that was in vain switched the button off and on again, since all fields
    are still valid. -/
theorem enabled_iff_forall_valid_slowBackend :
    ∃ form : Form, form.Reachable anyEdit ∧ form.received.length = 1 ∧
      form.tone = some .error ∧ form.enabled ∧
      ∀ i, ∃ field, form.tracker.field? i = some field ∧ field.valid := by
  have hopened : (forOrganization "Acme" slowBackend).Reachable anyEdit :=
    .opened _ (.forOrganization "Acme" slowBackend)
  have hform := hopened.run (mendedRun ++ [.click]) fun s _ form => form.allows_anyEdit s
  have henabled : ((forOrganization "Acme" slowBackend).run (mendedRun ++ [.click])).enabled := by
    decide +kernel
  refine ⟨_, hform, by decide +kernel, by decide +kernel, henabled, ?_⟩
  exact (enabled_iff_forall_valid _ hform).mp henabled

end Form

end ManagerSignup
