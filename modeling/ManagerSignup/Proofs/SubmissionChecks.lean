import ManagerSignup.Proofs.Blanks
import ManagerSignup.Submission.Check

/-!
# What Passes the Submission Checks

The submission checks name the first fault they find. Here they are read for
what they let through.

A field has three faults that are told apart for the user's sake. None of the
first two can stand where the third does not, since what is complete is neither
empty nor a username with a separator at its end. So a field passes if it is
complete without the blanks around it, and the order in which faults are looked
for plays no part in that.

## Theorems

* `checkField_eq_ok_iff`: The checks of one field let through what is complete.
* `checkFields_eq_ok_iff`: Those of several fields, if each of them passes.
* `checkEntries_eq_ok_iff`: And the passwords agree.
-/

namespace ManagerSignup

/-- A complete username does not end in a separator. -/
theorem getLast?_of_complete_username (value : Text) (h : Field.username.complete value) :
    value.getLast?.any isSeparator = false := by
  simp only [Field.complete, Bool.and_eq_true, Bool.not_eq_true'] at h
  exact h.1.1.2

theorem checkField_eq_ok_iff (f : Field) (value : Text) :
    checkField f value = .ok () ↔ f.complete value := by
  unfold checkField
  split
  · next hempty =>
    -- Nothing that is empty is complete.
    refine ⟨nofun, fun h => absurd (List.isEmpty_iff.mp hempty) ?_⟩
    exact f.ne_nil_of_complete value h
  · split
    · -- Nor is a username that ends in a separator.
      next hends =>
      refine ⟨nofun, fun h => ?_⟩
      rw [hends.1] at h
      exact absurd hends.2 (by simp [getLast?_of_complete_username value h])
    · split
      · next hincomplete =>
        rw [Bool.not_eq_true'] at hincomplete
        rw [hincomplete]
        exact ⟨nofun, fun h => absurd h Bool.false_ne_true⟩
      · next hcomplete =>
        rw [Bool.not_eq_true', Bool.not_eq_false] at hcomplete
        exact ⟨fun _ => hcomplete, fun _ => rfl⟩

theorem checkFields_eq_ok_iff (e : Entries) (fields : List Field) :
    checkFields e fields = .ok () ↔
      ∀ f ∈ fields, f.complete (Text.trim (e.text (.guarded f))) := by
  induction fields with
  | nil => exact ⟨fun _ => nofun, fun _ => rfl⟩
  | cons f rest ih =>
      rw [List.forall_mem_cons, ← ih, ← checkField_eq_ok_iff, checkFields]
      -- The first fault ends the search, so the rest is looked at only without one.
      cases checkField f (Text.trim (e.text (.guarded f))) with
      | ok u => simp only [true_and]
      | error fault => simp only [reduceCtorEq, false_and]

theorem Field.mem_all (f : Field) : f ∈ Field.all := by
  cases f <;> decide

/-- What was entered passes if the passwords agree and every guarded field is
    complete without the blanks around it. -/
theorem checkEntries_eq_ok_iff (e : Entries) :
    checkEntries e = .ok () ↔
      e.passwordsMatch ∧ ∀ f : Field, f.complete (Text.trim (e.text (.guarded f))) := by
  unfold checkEntries
  by_cases hmatch : e.passwordsMatch
  · rw [if_pos hmatch, checkFields_eq_ok_iff]
    exact ⟨fun h => ⟨hmatch, fun f => h f f.mem_all⟩, fun h f _ => h.2 f⟩
  · rw [if_neg hmatch]
    exact ⟨nofun, fun h => absurd h.1 hmatch⟩

end ManagerSignup
