import ManagerSignup.Proofs.PasteRules
import ManagerSignup.Proofs.Refusals

/-!
# Text from an Input Method

Committing a text is typing its characters, all of them or none.

An input method hands over a text at once, and the guard types it character by
character on a value of its own before it touches the input. Somebody who types the
same characters one after the other changes the input with each that is taken and
keeps what was taken when the next is refused. The two ways differ in what is left
after a refusal and in nothing else: the same characters are asked about behind the
same values, so one succeeds if the other does, and then both leave the whole text
with the cursor at its end.

What the platform leaves at an empty commit plays no part here, since nothing is said
of empty texts.

A paste behind a value is a third way for the same text, and its rule is another.
It never lets in more than the keys would. For a name it lets in as much, and for a
username less.

## Main definitions

* `Field.TakesEach`: Every character of a text is taken, one after the other.

## Theorems

* `Reaction.wasApplied_iff_refusals_eq_nil`: Applied is what refused nothing.
* `Field.takesEach_iff`: Typing each character succeeds if typing all does.
* `Field.edit_typeEach`: What typing each character leaves.
* `Field.commit_of_ok`, `Field.commit_of_error`: What a commit does.
* `Field.typeAll_of_paste`, `Field.paste_of_typeAll_name`: Pasting and typing behind
  a typed value.
* `Field.commit_iff_typeEach`: A commit compared with keys and with a paste.
-/

namespace ManagerSignup

theorem Reaction.wasApplied_iff_refusals_eq_nil (r : Reaction) :
    r.wasApplied ↔ r.refusals = [] := by
  rw [wasApplied, List.all_eq_true, refusals, List.filterMap_eq_nil_iff]
  refine forall₂_congr fun effect _ => ?_
  cases effect <;> simp only [Effect.refused?, reduceCtorEq]

namespace Field

/-- Every character of a text is taken when they are typed one after the other. -/
def TakesEach (f : Field) (e : LineEdit) (t : Text) : Prop :=
  ∀ b ∈ (f.typeEach e t).2, b = true

instance (f : Field) (e : LineEdit) (t : Text) : Decidable (f.TakesEach e t) :=
  inferInstanceAs (Decidable (∀ b ∈ (f.typeEach e t).2, b = true))

theorem wasApplied_apply_iff (f : Field) (e : LineEdit) (proposed : Text)
    (result : Except Rejection Text) :
    (f.apply e proposed result).wasApplied ↔ ∃ w, result = .ok w := by
  rw [Reaction.wasApplied_iff_refusals_eq_nil]
  cases result with
  | ok w => exact ⟨fun _ => ⟨w, rfl⟩, fun _ => Edited.refusals_reaction _⟩
  | error r => exact ⟨nofun, nofun⟩

/-- Typing a character that is taken leaves the value with it, the cursor at its
    end. -/
theorem edit_insertText (f : Field) (e : LineEdit) (c : Char) (v : Text)
    (h : f.typeChar e.text c = .ok v) : (f.insertText e [c]).edit = .ofText v := by
  change (f.apply e [c] (f.typeChar e.text c)).edit = _
  rw [h]
  exact e.edit_replaceAll v

/-- Typing each character succeeds if typing all of them does. A character is typed
    behind what the ones before it left, and that is their value in both cases. -/
theorem takesEach_iff (f : Field) (e : LineEdit) (t : Text) :
    f.TakesEach e t ↔ ∃ w, f.typeAll e.text t = .ok w := by
  induction t generalizing e with
  | nil => exact ⟨fun _ => ⟨e.text, rfl⟩, fun _ => nofun⟩
  | cons c rest ih =>
      have hfirst : (f.insertText e [c]).wasApplied ↔ ∃ v, f.typeChar e.text c = .ok v :=
        f.wasApplied_apply_iff e [c] _
      have heach : f.TakesEach e (c :: rest) ↔
          (f.insertText e [c]).wasApplied ∧ f.TakesEach (f.insertText e [c]).edit rest :=
        List.forall_mem_cons
      rw [heach, hfirst, ih]
      simp only [typeAll_cons_eq_ok_iff]
      -- Behind a character that is taken both ways go on from the same value.
      constructor
      · rintro ⟨⟨v, hv⟩, w, hw⟩
        rw [f.edit_insertText e c v hv] at hw
        exact ⟨w, v, hv, hw⟩
      · rintro ⟨w, v, hv, hw⟩
        rw [f.edit_insertText e c v hv]
        exact ⟨⟨v, hv⟩, w, hw⟩

/-- What typing each character leaves if all are taken, where the cursor is at the
    end and nothing is selected. -/
theorem edit_typeEach_ofText (f : Field) (v t w : Text) (h : f.typeAll v t = .ok w) :
    (f.typeEach (.ofText v) t).1.edit = .ofText w := by
  induction t generalizing v with
  | nil => exact congrArg LineEdit.ofText (Except.ok.inj h)
  | cons c rest ih =>
      rcases (f.typeAll_cons_eq_ok_iff v c rest w).mp h with ⟨u, hu, hrest⟩
      change (f.typeEach (f.insertText (.ofText v) [c]).edit rest).1.edit = _
      rw [f.edit_insertText (.ofText v) c u hu]
      exact ih u hrest

/-- What typing each character leaves if all are taken. The first of them moves the
    cursor to the end, wherever it was. -/
theorem edit_typeEach (f : Field) (e : LineEdit) (t w : Text) (ht : t ≠ [])
    (h : f.typeAll e.text t = .ok w) : (f.typeEach e t).1.edit = .ofText w := by
  cases t with
  | nil => exact absurd rfl ht
  | cons c rest =>
      -- The cursor is at the end from here on, so the rest needs no more care.
      rcases (f.typeAll_cons_eq_ok_iff e.text c rest w).mp h with ⟨u, hu, hrest⟩
      change (f.typeEach (f.insertText e [c]).edit rest).1.edit = _
      rw [f.edit_insertText e c u hu]
      exact f.edit_typeEach_ofText u rest w hrest

theorem commit_of_ok (f : Field) (e : LineEdit) (t w : Text) (left : Option PlatformEdit)
    (ht : t ≠ []) (h : f.typeAll e.text t = .ok w) :
    (f.commit e t left).edit = .ofText w ∧ (f.commit e t left).refusals = [] := by
  unfold commit
  rw [if_neg (mt List.isEmpty_iff.mp ht), h]
  exact ⟨e.edit_replaceAll w, Edited.refusals_reaction _⟩

theorem commit_of_error (f : Field) (e : LineEdit) (t : Text) (left : Option PlatformEdit)
    (r : Rejection) (ht : t ≠ []) (h : f.typeAll e.text t = .error r) :
    (f.commit e t left).edit = e ∧ (f.commit e t left).refusals = [t] := by
  unfold commit
  rw [if_neg (mt List.isEmpty_iff.mp ht), h]
  exact ⟨rfl, rfl⟩

/-- A commit is applied if all its characters can be typed. -/
theorem wasApplied_commit_iff (f : Field) (e : LineEdit) (t : Text) (left : Option PlatformEdit)
    (ht : t ≠ []) : (f.commit e t left).wasApplied ↔ ∃ w, f.typeAll e.text t = .ok w := by
  rw [Reaction.wasApplied_iff_refusals_eq_nil]
  cases htyped : f.typeAll e.text t with
  | ok w => exact ⟨fun _ => ⟨w, rfl⟩, fun _ => (f.commit_of_ok e t w left ht htyped).2⟩
  | error r =>
      rw [(f.commit_of_error e t left r ht htyped).2]
      exact ⟨nofun, nofun⟩

/-- A commit that is applied leaves a longer text, one that is not leaves the text. -/
theorem text_commit_ne_iff (f : Field) (e : LineEdit) (t : Text) (left : Option PlatformEdit)
    (ht : t ≠ []) :
    (f.commit e t left).edit.text ≠ e.text ↔ ∃ w, f.typeAll e.text t = .ok w := by
  cases htyped : f.typeAll e.text t with
  | ok w =>
      refine ⟨fun _ => ⟨w, rfl⟩, fun _ => ?_⟩
      rw [(f.commit_of_ok e t w left ht htyped).1, f.typeAll_eq_ok e.text t w htyped]
      exact mt List.append_right_eq_self.mp ht
  | error r =>
      rw [(f.commit_of_error e t left r ht htyped).1]
      exact ⟨fun h => absurd rfl h, nofun⟩

/-- A paste that is put behind a typed value leaves what typing it there leaves. -/
theorem typeAll_of_paste (f : Field) (v t w : Text) (hv : f.typable v)
    (hmode : f.pasteMode = .append) (h : f.paste v t = .ok w) : f.typeAll v t = .ok w := by
  -- What is put behind a value is put there as it is, so it is the same text to type.
  rcases (f.paste_eq_ok_iff v t w).mp h with ⟨hadmits, rfl⟩
  rw [keptByPaste, hmode, f.pasteForm_of_append t hmode]
  refine (f.typeAll_eq_ok_iff v t _ hv).mpr ⟨?_, rfl⟩
  exact f.typable_append_of_admitsPaste v t hv hmode hadmits

/-- What can be typed behind a name can be pasted there. -/
theorem paste_of_typeAll_name (v t w : Text) (ht : t ≠ []) (hv : name.typable v)
    (h : name.typeAll v t = .ok w) : name.paste v t = .ok w := by
  rcases (name.typeAll_eq_ok_iff v t w hv).mp h with ⟨htyped, rfl⟩
  -- A name asks the same of each character, so its part behind can be typed by itself.
  rw [typable_name_iff, List.all_append, Bool.and_eq_true] at htyped
  refine (name.paste_eq_ok_iff v t _).mpr ⟨?_, rfl⟩
  rw [admitsPaste, htyped.2, List.isEmpty_eq_false_iff.mpr ht]
  rfl

/-- A commit changes a field exactly if typing its characters one after the other
    would take every one of them, and then both leave the same; otherwise it leaves
    everything as it was and refuses the whole text, once. Behind a typed name or
    username it is applied whenever a paste of the text is, and leaves the same, and
    for a name the paste is applied whenever it is. -/
theorem commit_iff_typeEach (f : Field) (e : LineEdit) (t : Text) (left : Option PlatformEdit)
    (ht : t ≠ []) :
    ((f.commit e t left).edit.text ≠ e.text ↔ f.TakesEach e t) ∧
      (f.TakesEach e t → (f.commit e t left).edit = (f.typeEach e t).1.edit) ∧
      (¬f.TakesEach e t →
        (f.commit e t left).edit = e ∧ (f.commit e t left).refusals = [t]) ∧
      (f = .name ∨ f = .username → f.typable e.text → (f.pasteText e t).wasApplied →
        (f.commit e t left).wasApplied ∧
          (f.commit e t left).edit = (f.pasteText e t).edit) ∧
      (f = .name → f.typable e.text → (f.commit e t left).wasApplied →
        (f.pasteText e t).wasApplied) := by
  have hpasted : (f.pasteText e t).wasApplied ↔ ∃ w, f.paste e.text t = .ok w :=
    f.wasApplied_apply_iff e t _
  -- Each of the three ways succeeds if there is a value that it would leave.
  rw [takesEach_iff, f.wasApplied_commit_iff e t left ht, hpasted]
  refine ⟨f.text_commit_ne_iff e t left ht, ?_, ?_, ?_, ?_⟩
  · rintro ⟨w, hw⟩
    rw [(f.commit_of_ok e t w left ht hw).1, f.edit_typeEach e t w ht hw]
  · intro hnone
    cases htyped : f.typeAll e.text t with
    | ok w => exact absurd ⟨w, htyped⟩ hnone
    | error r => exact f.commit_of_error e t left r ht htyped
  · rintro hf he ⟨w, hw⟩
    have hmode : f.pasteMode = .append := by
      rcases hf with rfl | rfl <;> rfl
    have htyped := f.typeAll_of_paste e.text t w he hmode hw
    refine ⟨⟨w, htyped⟩, ?_⟩
    rw [(f.commit_of_ok e t w left ht htyped).1, pasteText, hw]
    exact (e.edit_replaceAll w).symm
  · rintro rfl he ⟨w, hw⟩
    exact ⟨w, paste_of_typeAll_name e.text t w ht he hw⟩

/-- A username with the cursor in front. A commit that a paste would refuse is
    applied, one with a separator too many is refused as a whole, though its first
    character alone would be taken, and one that can be pasted leaves what the paste
    leaves. -/
theorem commit_iff_typeEach_username :
    ∃ e : LineEdit, e.text = ['a', '_'] ∧ e.cursor = 0 ∧
      (['.', 'b'] ≠ [] ∧ (username.pasteText e ['.', 'b']).wasApplied = false ∧
        (username.commit e ['.', 'b']).edit.text ≠ e.text) ∧
      (['.', '.'] ≠ [] ∧ (username.commit e ['.', '.']).edit = e ∧
        (username.commit e ['.', '.']).refusals = [['.', '.']]) ∧
      ['b', '.', 'c'] ≠ [] ∧ username.typable e.text ∧
        (username.pasteText e ['b', '.', 'c']).wasApplied ∧
        (username.commit e ['b', '.', 'c']).edit = (username.pasteText e ['b', '.', 'c']).edit := by
  let e := (LineEdit.ofText ['a', '_']).moveCursor 0
  have htaken := username.commit_iff_typeEach e ['.', 'b'] none (List.cons_ne_nil _ _)
  have hrefused := username.commit_iff_typeEach e ['.', '.'] none (List.cons_ne_nil _ _)
  have hpasted := username.commit_iff_typeEach e ['b', '.', 'c'] none (List.cons_ne_nil _ _)
  have htypable : username.typable e.text := by decide
  have happlied : (username.pasteText e ['b', '.', 'c']).wasApplied := by decide
  refine ⟨e, rfl, rfl, ⟨List.cons_ne_nil _ _, by decide, ?_⟩, ⟨List.cons_ne_nil _ _, ?_⟩,
    List.cons_ne_nil _ _, htypable, happlied, ?_⟩
  · exact htaken.1.mpr (by decide)
  · exact hrefused.2.2.1 (by decide)
  · exact (hpasted.2.2.2.1 (Or.inr rfl) htypable happlied).2

end Field

end ManagerSignup
