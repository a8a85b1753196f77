import ManagerSignup.Proofs.Guarding

/-!
# Building Up a Value

Whatever is typed into an empty field, pasted into it or taken off its end, in
any order, what is left could have been typed.

A value is built in three ways that know little of each other. A keystroke looks
at one character and the value before it. A paste is judged by a rule of its own
that never sees the value. Taking characters off the end is judged by nobody at
all. That the three stay within the same words has a reason for each: keys are
what typing means, a paste fits behind whatever was typed, and the way to a value
that can be typed can be typed itself. The last is why nobody has to judge it,
and why it would not do to take characters out of the middle.

The bounds on the length are a matter of keys alone. Typing stops at the limit,
so no value that can be typed is beyond it, and whatever a paste leaves can be
typed.

## Main definitions

* `Field.revised`: A value after a step.
* `Field.reviseAll`: A value after several steps.

## Theorems

* `Field.length_le_of_typable`: What can be typed keeps the limit.
* `Field.typable_take`: What is left of the beginning of a value.
* `Field.typable_revise`, `Field.typable_revised`: What one step leaves.
* `Field.typable_reviseAll`: What several steps leave of a typed value.
* `Field.typable_reviseAll_nil`: What any steps make of the empty value.
-/

namespace ManagerSignup

namespace Field

/-- The value after a step in its making; a step that is refused leaves it
    alone. -/
def revised (f : Field) (value : Text) (r : Revision) : Text :=
  match f.revise value r with
  | .ok w => w
  | .error _ => value

/-- The value after several steps. -/
def reviseAll (f : Field) (value : Text) (revisions : List Revision) : Text :=
  revisions.foldl f.revised value

/-- What can be typed keeps the limit of its field, since the last key was taken
    only because there was room for it. -/
theorem length_le_of_typable (f : Field) (value : Text) (bound : Nat)
    (hlimit : f.limit = some bound) (h : f.typable value) : value.length ≤ bound := by
  cases value using List.reverseRecOn with
  | nil => exact Nat.zero_le bound
  | append_singleton before c =>
      have haccepts := ((f.typable_append_singleton before c).mp h).2
      simp only [accepts, hlimit, Option.all_some, Bool.and_eq_true, decide_eq_true_eq] at haccepts
      rw [List.length_append, List.length_singleton]
      exact haccepts.2

/-- What is left of the beginning of a value is on the way to it. -/
theorem typable_take (f : Field) (value : Text) (count : Nat) (h : f.typable value) :
    f.typable (value.take count) := by
  refine f.typable_of_append (value.take count) (value.drop count) ?_
  rw [List.take_append_drop]
  exact h

/-- A step that is taken leaves what can be typed. -/
theorem typable_revise (f : Field) (value w : Text) (r : Revision) (hv : f.typable value)
    (h : f.revise value r = .ok w) : f.typable w := by
  cases r with
  | insert i =>
      cases i with
      | keystroke text => exact f.typable_of_typeText value text w hv h
      | paste text => exact f.typable_of_paste value text w hv h
  | shorten count =>
      -- Nothing is checked here, so it is the value before that has to answer for it.
      have hw : value.take (value.length - count) = w := Except.ok.inj h
      rw [← hw]
      exact f.typable_take value _ hv

/-- A step leaves what can be typed, whether it is taken or refused. -/
theorem typable_revised (f : Field) (value : Text) (r : Revision) (hv : f.typable value) :
    f.typable (f.revised value r) := by
  unfold revised
  cases hr : f.revise value r with
  | ok w => exact f.typable_revise value w r hv hr
  | error rejection => exact hv

/-- Several steps leave what can be typed, if they began with it. -/
theorem typable_reviseAll (f : Field) (revisions : List Revision) (value : Text)
    (hv : f.typable value) : f.typable (f.reviseAll value revisions) := by
  induction revisions generalizing value with
  | nil => exact hv
  | cons r rest ih =>
      have hfirst := f.typable_revised value r hv
      exact ih (f.revised value r) hfirst

/-- Whatever is typed into an empty field, pasted into it or taken off its end,
    what is left could have been typed. A dial code never has more than three
    characters, and a phone number never more than ten. -/
theorem typable_reviseAll_nil (revisions : List Revision) :
    (∀ f : Field, f.typable (f.reviseAll [] revisions)) ∧
      (dialCode.reviseAll [] revisions).length ≤ 3 ∧
      (phoneNumber.reviseAll [] revisions).length ≤ 10 := by
  have htypable : ∀ f : Field, f.typable (f.reviseAll [] revisions) := fun f =>
    f.typable_reviseAll revisions [] f.typable_nil
  refine ⟨htypable, ?_, ?_⟩
  · exact dialCode.length_le_of_typable _ 3 rfl (htypable dialCode)
  · exact phoneNumber.length_le_of_typable _ 10 rfl (htypable phoneNumber)

/-- A paste behind a separator, one that is refused, and a dot that is refused and
    then taken, because the dot before it was taken off. -/
example :
    username.reviseAll []
      [.insert (.paste ['a', 'b']), .insert (.keystroke ['_']), .insert (.paste ['c', '.', 'd']),
        .insert (.paste ['_', 'e']), .shorten 1, .insert (.keystroke ['.']), .shorten 1,
        .insert (.keystroke ['.'])] = ['a', 'b', '_', 'c', '.'] := by
  decide

end Field

end ManagerSignup
