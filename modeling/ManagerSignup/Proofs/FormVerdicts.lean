import ManagerSignup.Proofs.FormRuns

/-!
# The Form's Verdicts Are Fresh

Whatever is done with a form, each of its eight fields either is about to be
judged or has the verdict that judging it now would give.

The seven operations of a form keep its fields fresh, and nothing is asked of
the edits: what a guard would never let in makes for a verdict of its own, not
for an old one. A form begins fresh because its inputs are all judged once the
last listener is in place, however the registrations before went.

For the confirmation this says more than that its own text was judged. It may
have been judged long ago and hold the same text still, while the password was
changed a dozen times.

## Main definitions

* `Form.anyEdit`: Every edit may be made.

## Theorems

* `Form.kept_fresh`: Every operation keeps the fields fresh.
* `Form.fresh_of_reachable`: The fields of a form are fresh.
* `Form.isPending_or_verdict_eq`: A verdict is the one that judging now would
  give, or the timer runs.
-/

namespace ManagerSignup

namespace Form

/-- Every edit may be made. -/
def anyEdit (_ : Tracker Input Input) (_ : Input) (_ : Action) : Prop :=
  True

theorem allows_anyEdit (form : Form) (s : Step) : form.Allows anyEdit s := by
  cases s with
  | fill texts => exact fun _ _ _ => trivial
  | _ => trivial

/-- Every operation of the form keeps its fields fresh. -/
theorem kept_fresh (may : Tracker Input Input → Input → Action → Prop) :
    Kept may (Tracker.FreshBut []) where
  act _ i a _ h := h.act i a
  empty _ i h := h.act i (.setText [])
  recheckAll _ h := h.recheckAll
  advance _ ms h := h.advance ms
  recordAll t es h := h.of_undisturbed (t.recordAll_undisturbed es) rfl
  startPause _ due h := h.startPause due

theorem keptByButton_fresh : KeptByButton (Tracker.FreshBut []) :=
  fun t b _ h => h.of_undisturbed (t.setButton_undisturbed b) rfl

/-- Once everything is connected everything is judged. -/
theorem fresh_trackInputs (t : Tracker Input Input) (hwiring : t.wiring = blankInputs.wiring)
    (hfirst : t.registrations = 0) : (trackInputs t).FreshBut [] := by
  have hattentive : (connected t).wiring.Attentive := by
    rw [wiring_connected t hwiring hfirst]
    exact attentive_wiring
  rw [trackInputs_eq]
  exact keptByButton_fresh _ _ (Or.inr rfl) (Tracker.freshBut_recheckAll _ hattentive)

theorem Opened.fresh {form : Form} (h : form.Opened) : form.tracker.FreshBut [] := by
  rcases h.tracker_eq with ⟨es, -, htracker⟩
  rw [htracker]
  exact fresh_trackInputs _ (blankInputs.recordAll_undisturbed es).wiring rfl

theorem fresh_of_reachable {may : Tracker Input Input → Input → Action → Prop} (form : Form)
    (h : form.Reachable may) : form.tracker.FreshBut [] :=
  (kept_fresh may).of_reachable ((kept_fresh may).submit keptByButton_fresh)
    (fun _ hform => hform.fresh) form h

/-- A field of the form whose timer does not run has the verdict of its check on
    the texts as they are. -/
theorem verdict_eq_of_reachable {may : Tracker Input Input → Input → Action → Prop}
    (form : Form) (h : form.Reachable may) (i : Input) :
    ∃ field, form.tracker.field? i = some field ∧
      (form.tracker.isPending i ∨
        field.verdict =
          (check i).verdict true form.tracker.surroundings (form.tracker.text i)) := by
  rcases exists_field form.tracker (wiring_of_reachable form h) i with
    ⟨field, hfield, hwidget, hcheck, hrequired⟩
  refine ⟨field, hfield, ?_⟩
  rcases (fresh_of_reachable form h).isPending_or_verdict_of_check hfield with hpending | hverdict
  · exact Or.inl hpending
  · -- The check of the field is the one the input was registered with.
    rw [hwidget, hcheck, hrequired] at hverdict
    exact Or.inr hverdict

/-- Whatever is done with a form, each of its fields either is about to be judged
    or has the verdict that judging it now would give. -/
theorem isPending_or_verdict_eq (form : Form) (h : form.Reachable anyEdit) (i : Input) :
    ∃ field, form.tracker.field? i = some field ∧
      (form.tracker.isPending i ∨
        field.verdict =
          (check i).verdict true form.tracker.surroundings (form.tracker.text i)) :=
  verdict_eq_of_reachable form h i

/-- A confirmation that agreed with the password when both were judged. Then the
    password changes, and the confirmation is wrong although it holds the text it
    held and its timer does not run. -/
theorem isPending_or_verdict_eq_confirmation :
    ∃ form : Form, form.Reachable anyEdit ∧ form.tracker.isPending .confirmation = false ∧
      form.tracker.text .confirmation = ['a'] ∧
      ∃ field, form.tracker.field? .confirmation = some field ∧
        field.lastValue = some ['a'] ∧ field.verdict = .fault mismatchMessage := by
  have hopened : (forOrganization "Acme" .dryRun).Reachable anyEdit :=
    .opened _ (.forOrganization "Acme" .dryRun)
  have hform := hopened.run
    [.act .confirmation (.setText ['a']), .act .password (.setText ['a']), .advance 200,
      .act .password (.setText ['b'])]
    (fun s _ form => form.allows_anyEdit s)
  refine ⟨_, hform, by decide +kernel, by decide +kernel, ?_⟩
  rcases isPending_or_verdict_eq _ hform .confirmation with ⟨field, hfield, hpending | hverdict⟩
  · exact absurd hpending (by decide +kernel)
  · have hlast := congrArg (Option.map Tracked.lastValue) hfield
    refine ⟨field, hfield, ?_, hverdict.trans (by decide +kernel)⟩
    exact Option.some.inj (hlast.symm.trans (by decide +kernel))

end Form

end ManagerSignup
