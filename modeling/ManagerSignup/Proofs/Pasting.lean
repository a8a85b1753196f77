import ManagerSignup.Proofs.Completion

/-!
# Pasting behind What Was Typed

A paste is judged by itself and still fits what is there.

The rule for a paste never sees the value. Where the paste becomes the value that
is no matter, and the rule is then completeness under another name. Where it is
put behind the value, everything hangs on the place where the two meet. For a
name there is nothing to see there. For a username the value may end in a
separator, and what saves the whole is that a paste has to begin with a letter
or a digit: two characters of which the second is no separator are never one
separator twice.

## Main definitions

* `Field.keptByPaste`: What a paste keeps of the value.

## Theorems

* `isSeparator_eq_false_of_isWordChar`: No character is both.
* `Field.admitsPaste_eq_complete`: A paste that becomes the value is judged by
  completeness.
* `Field.typable_append_of_admitsPaste`: A paste that is put behind a typed value.
* `Field.paste_eq_ok_iff`: When a paste is accepted, and what it leaves.
* `Field.typable_of_paste`: What a paste makes of a typed value.
-/

namespace ManagerSignup

theorem isSeparator_eq_false_of_isWordChar (c : Char) (h : isWordChar c) :
    isSeparator c = false := by
  by_contra hsep
  simp only [Bool.not_eq_false, isSeparator, Bool.or_eq_true, decide_eq_true_eq] at hsep
  rcases hsep with rfl | rfl
  · exact absurd h (by decide)
  · exact absurd h (by decide)

namespace Field

/-- A paste that becomes the value is admitted if it will be complete. -/
theorem admitsPaste_eq_complete (f : Field) (text : Text) (h : f.pasteMode = .replace) :
    f.admitsPaste text = f.complete (f.pasteForm text) := by
  cases f with
  | name => cases h
  | username => cases h
  | documentNumber => rfl
  | dialCode => rfl
  | phoneNumber => rfl

/-- A username stays one behind a paste: the paste begins with no separator, so
    none is doubled where the two meet. -/
theorem typable_username_append_of_admitsPaste (value text : Text) (hv : username.typable value)
    (h : username.admitsPaste text) : username.typable (value ++ text) := by
  simp only [admitsPaste, Bool.and_eq_true, Bool.not_eq_true'] at h
  rcases h with ⟨⟨⟨⟨-, hfirst⟩, -⟩, hchars⟩, hadjacent⟩
  rw [Option.any_eq_true] at hfirst
  rcases hfirst with ⟨a, ha, hword⟩
  have hsep := isSeparator_eq_false_of_isWordChar a hword
  have hdoubled := hasDoubled_of_hasAdjacentSeparators_eq_false text hadjacent
  rw [typable_username_iff] at hv ⊢
  rcases hv with ⟨hvchars, hvhead, hvdoubled⟩
  refine ⟨?_, ?_, ?_⟩
  · rw [List.all_append, hvchars, hchars]
    rfl
  · cases value with
    | nil =>
        rw [List.nil_append, ha]
        exact hsep
    | cons b rest => exact hvhead
  · -- The one new pair of neighbours ends in the first character of the paste.
    rw [hasDoubled_eq_false_iff] at hvdoubled hdoubled ⊢
    refine hvdoubled.append hdoubled (fun x _ y hy hxy => ?_)
    rw [ha, Option.mem_def, Option.some.injEq] at hy
    rw [← hxy.2.trans hy.symm, hxy.1] at hsep
    cases hsep

/-- A paste that is put behind a typed value leaves one that can be typed. -/
theorem typable_append_of_admitsPaste (f : Field) (value text : Text) (hv : f.typable value)
    (hmode : f.pasteMode = .append) (h : f.admitsPaste text) :
    f.typable (value ++ text) := by
  cases f with
  | name =>
      simp only [admitsPaste, Bool.and_eq_true] at h
      rw [typable_name_iff] at hv ⊢
      rw [List.all_append, hv, h.2]
      rfl
  | username => exact typable_username_append_of_admitsPaste value text hv h
  | documentNumber => cases hmode
  | dialCode => cases hmode
  | phoneNumber => cases hmode

theorem pasteForm_of_append (f : Field) (text : Text) (hmode : f.pasteMode = .append) :
    f.pasteForm text = text := by
  cases f with
  | phoneNumber => cases hmode
  | _ => rfl

/-- What a paste keeps of the value. -/
def keptByPaste (f : Field) (value : Text) : Text :=
  match f.pasteMode with
  | .replace => []
  | .append => value

theorem paste_eq_ok_iff (f : Field) (value text w : Text) :
    f.paste value text = .ok w ↔
      f.admitsPaste text ∧ w = f.keptByPaste value ++ f.pasteForm text := by
  unfold paste keptByPaste
  split
  · next hadmits =>
    cases f.pasteMode <;>
      exact ⟨fun h => ⟨hadmits, (Except.ok.inj h).symm⟩, fun h => congrArg _ h.2.symm⟩
  · next hrefused => exact ⟨nofun, fun h => absurd h.1 hrefused⟩

/-- What a paste makes of a typed value can be typed. -/
theorem typable_of_paste (f : Field) (value text w : Text) (hv : f.typable value)
    (h : f.paste value text = .ok w) : f.typable w := by
  rcases (f.paste_eq_ok_iff value text w).mp h with ⟨hadmits, rfl⟩
  cases hmode : f.pasteMode with
  | replace =>
      rw [keptByPaste, hmode]
      rw [f.admitsPaste_eq_complete text hmode] at hadmits
      exact f.typable_of_complete (f.pasteForm text) hadmits
  | append =>
      rw [keptByPaste, hmode, f.pasteForm_of_append text hmode]
      exact f.typable_append_of_admitsPaste value text hv hmode hadmits

end Field

end ManagerSignup
