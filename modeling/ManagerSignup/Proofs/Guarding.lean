import ManagerSignup.Proofs.Pasting
import ManagerSignup.Proofs.Pieces

/-!
# Nothing Gets Past the Guard

A guarded input that starts out empty never holds a text that could not have
been typed.

Text comes in by five routes, and each has its own reason to be safe. A typed
key and the commit of an input method are what typing means. A paste is the
junction of `Pasting`. A deletion is checked by the text it will leave, which is
why it matters that this is the text it does leave. A key that nobody can
foresee is let through, and whatever it did is undone if it did harm.

The platform is trusted with two things. When a deletion was let through, it has to
delete, and not do something else with the same key; everything it does with other
keys is checked afterwards. `PlatformDeletes` is that trust, and it asks for nothing
where a key is no deletion or where the deletion was refused. And while something is
composed and nothing committed, it must not leave what could not have been typed,
since nobody looks at that. `ComposesTypable` asks for it, and it is asked too much: a
platform that makes room for what is composed takes the selection out, and where the
selection was not at the end the rest need not be anything that could have been typed
(`not_typable_of_composed`). The program in turn is trusted to set the text of a
guarded input only to empty it, since no guard sees a text that is set.

## Main definitions

* `Field.PlatformDeletes`: The platform deletes when it is let.
* `Field.ComposesTypable`: The platform leaves what can be typed while it composes.
* `Field.Honours`: An action does not go behind the guard's back.
* `Field.Reachable`: What an empty input may become.

## Theorems

* `Field.text_platformKey_of_platformDeletes`: What such a platform leaves.
* `Field.typable_pressKey`: A key leaves what can be typed.
* `Field.typable_act`: So does any action that honours the guard.
* `Field.typable_of_reachable`: So does every run.
-/

namespace ManagerSignup

namespace Field

/-- The platform deletes when it is let: a deletion that leaves what can be typed
    takes away the selection, or with nothing selected the character beside the
    cursor, and nothing else. Where the cursor ends up is its own affair. -/
def PlatformDeletes (f : Field) (e : LineEdit) (p : KeyPress) : Prop :=
  ∀ remaining, deletionResult? e p = some remaining → f.typable remaining →
    (e.platformKey p).edit.text = (e.deleteByKey p.key).edit.text

/-- What the platform leaves, if it leaves something, while a text is composed and
    nothing is committed can be typed. -/
def ComposesTypable (f : Field) (left : Option PlatformEdit) : Prop :=
  ∀ l, left = some l → f.typable l.text

/-- An action does not go behind the guard's back: no text is set but the empty
    one, the platform deletes when it is let, and with an empty commit it leaves
    nothing that cannot be typed. -/
def Honours (f : Field) (e : LineEdit) : Action → Prop
  | .press p => f.PlatformDeletes e p
  | .commit t left => t = [] → f.ComposesTypable left
  | .setText t => t = []
  | _ => True

/-- What an empty input may become by actions that honour its guard. -/
inductive Reachable (f : Field) : LineEdit → Prop where
  | empty : Reachable f .empty
  | act (e : LineEdit) (a : Action) :
      Reachable f e → f.Honours e a → Reachable f (f.act e a).1.edit

/-- A key that the platform handles by itself, leaving no text of its own, is one
    that deletes when it is let. -/
theorem platformDeletes_of_platformEdit_eq_none (f : Field) (e : LineEdit) (p : KeyPress)
    (h : p.platformEdit = none) : f.PlatformDeletes e p := by
  intro remaining hremaining _
  rw [LineEdit.platformKey_eq_deleteByKey h (LineEdit.foresees_of_deletionResult? hremaining).1]

/-- Nothing is asked of the platform where a key deletes nothing. -/
theorem platformDeletes_of_deletionResult?_eq_none (f : Field) (e : LineEdit) (p : KeyPress)
    (h : deletionResult? e p = none) : f.PlatformDeletes e p := by
  intro remaining hremaining _
  rw [h] at hremaining
  cases hremaining

/-- A platform that deletes when it is let leaves the text that it was let for. -/
theorem text_platformKey_of_platformDeletes (f : Field) {e : LineEdit} {p : KeyPress}
    {remaining : Text} (hp : f.PlatformDeletes e p) (h : deletionResult? e p = some remaining)
    (htypable : f.typable remaining) : (e.platformKey p).edit.text = remaining := by
  rw [hp remaining h htypable]
  exact e.text_deleteByKey_of_deletionResult? p remaining h
    (.inr (f.plain_of_typable p.counting remaining htypable))

theorem obstacle?_eq_none_iff (f : Field) (value : Text) :
    f.obstacle? value = none ↔ f.typable value := by
  rw [typable, Option.isNone_iff_eq_none]

/-- A keystroke adds a character to what can be typed, or is refused. -/
theorem typable_of_typeText (f : Field) (value typed w : Text) (hv : f.typable value)
    (h : f.typeText value typed = .ok w) : f.typable w := by
  unfold typeText at h
  split at h
  · next c =>
    rcases (f.typeChar_eq_ok_iff value c w).mp h with ⟨haccepts, rfl⟩
    exact (f.typable_append_singleton value c).mpr ⟨hv, haccepts⟩
  · cases h

/-- Doing what was decided is safe if what was decided is. -/
theorem typable_apply (f : Field) (e : LineEdit) (proposed : Text)
    (result : Except Rejection Text) (he : f.typable e.text)
    (h : ∀ w, result = .ok w → f.typable w) :
    f.typable (f.apply e proposed result).edit.text := by
  cases result with
  | ok value =>
      change f.typable (e.replaceAll value).edit.text
      rw [LineEdit.text_replaceAll]
      exact h value rfl
  | error r => exact he

theorem typable_insertText (f : Field) (e : LineEdit) (t : Text) (he : f.typable e.text) :
    f.typable (f.insertText e t).edit.text :=
  f.typable_apply e t _ he (fun w hw => f.typable_of_typeText e.text t w he hw)

theorem typable_pasteText (f : Field) (e : LineEdit) (t : Text) (he : f.typable e.text) :
    f.typable (f.pasteText e t).edit.text :=
  f.typable_apply e t _ he (fun w hw => f.typable_of_paste e.text t w he hw)

/-- The commit of an input method is typed, and an empty one is left to the platform. -/
theorem typable_commit (f : Field) (e : LineEdit) (t : Text) (left : Option PlatformEdit)
    (he : f.typable e.text) (hleft : t = [] → f.ComposesTypable left) :
    f.typable (f.commit e t left).edit.text := by
  unfold commit
  split
  · next hempty =>
    cases left with
    | none => exact he
    | some l => exact hleft (List.isEmpty_iff.mp hempty) l rfl
  · cases htyped : f.typeAll e.text t with
    | error r => exact he
    | ok w =>
        rcases (f.typeAll_eq_ok_iff e.text t w he).mp htyped with ⟨hw, rfl⟩
        change f.typable (e.replaceAll _).edit.text
        rwa [LineEdit.text_replaceAll]

/-- A deletion that is let through leaves the text it was let through for. -/
theorem typable_deleteChecked (f : Field) (e : LineEdit) (p : KeyPress) (remaining : Text)
    (he : f.typable e.text) (hremaining : deletionResult? e p = some remaining)
    (hp : f.PlatformDeletes e p) : f.typable (f.deleteChecked e p remaining).edit.text := by
  unfold deleteChecked
  cases hobstacle : f.obstacle? remaining with
  | some r => exact he
  | none =>
      -- What the platform leaves is what deleting leaves, and that is what was checked.
      have htypable := (f.obstacle?_eq_none_iff remaining).mp hobstacle
      change f.typable (e.platformKey p).edit.text
      rw [f.text_platformKey_of_platformDeletes hp hremaining htypable]
      exact htypable

/-- Whatever the platform does with a key is taken back if it did harm. -/
theorem typable_forward (f : Field) (e : LineEdit) (p : KeyPress) (he : f.typable e.text) :
    f.typable (f.forward e p).edit.text := by
  unfold forward
  simp only
  split
  · next hsame =>
    rw [hsame]
    exact he
  · cases hobstacle : f.obstacle? (e.platformKey p).edit.text with
    | none => exact (f.obstacle?_eq_none_iff _).mp hobstacle
    | some r =>
        -- Nothing is known of what was left, and nothing has to be: it is replaced.
        simp only [LineEdit.text_moveCursor, LineEdit.text_replaceAll]
        exact he

/-- A key leaves what can be typed, by whichever route it goes. -/
theorem typable_pressKey (f : Field) (e : LineEdit) (p : KeyPress) (he : f.typable e.text)
    (hp : f.PlatformDeletes e p) : f.typable (f.pressKey e p).edit.text := by
  unfold pressKey
  split
  · exact f.typable_pasteText e _ he
  · cases hremaining : deletionResult? e p with
    | some remaining => exact f.typable_deleteChecked e p remaining he hremaining hp
    | none =>
        cases typedChar? p with
        | some c => exact f.typable_insertText e [c] he
        | none => exact f.typable_forward e p he

theorem typable_typeEach (f : Field) (e : LineEdit) (t : Text) (he : f.typable e.text) :
    f.typable (f.typeEach e t).1.edit.text := by
  induction t generalizing e with
  | nil => exact he
  | cons c rest ih => exact ih (f.insertText e [c]).edit (f.typable_insertText e [c] he)

/-- An action that honours the guard leaves what can be typed. -/
theorem typable_act (f : Field) (e : LineEdit) (a : Action) (he : f.typable e.text)
    (ha : f.Honours e a) : f.typable (f.act e a).1.edit.text := by
  cases a with
  | press p => exact f.typable_pressKey e p he ha
  | commit t left => exact f.typable_commit e t left he ha
  | insertText t => exact f.typable_insertText e t he
  | typeEach t => exact f.typable_typeEach e t he
  | paste t => exact f.typable_pasteText e t he
  | setText t =>
      have hnil : t = [] := ha
      rw [hnil]
      exact f.typable_nil
  | moveCursor position => exact he
  | select start length =>
      change f.typable (e.select start length).text
      rw [LineEdit.text_select]
      exact he
  | finish => exact he

/-- A guarded input that starts out empty never holds a text that could not have
    been typed, as long as none is left behind by the platform while it composes. -/
theorem typable_of_reachable (f : Field) (e : LineEdit) (h : f.Reachable e) :
    f.typable e.text := by
  induction h with
  | empty => exact f.typable_nil
  | act e a _ ha ih => exact f.typable_act e a ih ha

/-- A document number with a zero in second place. Deleting the digit before it
    is refused, a key that would leave `"0"` is undone, deleting the zero with all
    that follows is let through, and so is what the platform does to the rest while
    it composes. -/
theorem typable_of_reachable_documentNumber :
    ∃ e, documentNumber.Reachable e ∧ e.text = ['1'] ∧ documentNumber.typable e.text := by
  have hpasted := Reachable.act .empty (.paste ['1', '0', '5'])
    (Reachable.empty (f := documentNumber)) trivial
  have hmoved := Reachable.act _ (.moveCursor 1) hpasted trivial
  have hrefused := Reachable.act _ (.press { key := .backspace, counting := .units }) hmoved
    (platformDeletes_of_platformEdit_eq_none _ _ _ rfl)
  have hundone := Reachable.act _ (.press { platformEdit := some ⟨['0'], none⟩ }) hrefused
    (platformDeletes_of_deletionResult?_eq_none _ _ _ rfl)
  have hselected := Reachable.act _ (.select 1 1) hundone trivial
  have hcomposed := Reachable.act _ (.commit [] (some ⟨['1', '5'], some 1⟩)) hselected
    (by rintro - l ⟨⟩; decide)
  have hdeleted := Reachable.act _ (.press { key := .delete, counting := .units }) hcomposed
    (platformDeletes_of_platformEdit_eq_none _ _ _ rfl)
  exact ⟨_, hdeleted, by decide, typable_of_reachable _ _ hdeleted⟩

/-- A platform that takes the selection out to make room for what is composed leaves a
    document number that begins with a zero. The guard neither hinders nor undoes it. -/
theorem not_typable_of_composed :
    ∃ e, documentNumber.Reachable e ∧ e.text = ['7', '0', '5'] ∧ e.selection = some ⟨0, 1⟩ ∧
      ∃ left, left.text = (e.insert []).edit.text ∧
        (documentNumber.act e (.commit [] (some left))).1.effects =
          [.platform, .changed ['0', '5']] ∧
        (documentNumber.act e (.commit [] (some left))).1.edit.text = ['0', '5'] ∧
        documentNumber.typable ['0', '5'] = false := by
  have hpasted := Reachable.act .empty (.paste ['7', '0', '5'])
    (Reachable.empty (f := documentNumber)) trivial
  have hselected := Reachable.act _ (.select 0 1) hpasted trivial
  exact ⟨_, hselected, by decide, by decide, ⟨['0', '5'], some 0⟩, by decide, by decide, by decide,
    by decide⟩

end Field

end ManagerSignup
