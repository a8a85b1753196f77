import ManagerSignup.Proofs.Refusals

/-!
# Where the Cursor Stands

What is inserted goes to the end of a text, wherever the cursor stands and whatever
is selected.

A line edit inserts at its cursor, or in the place of its selection. A guard has no
use for that. What may be inserted depends on the characters before it, so a
grammar is only ever asked about the end of a value, and the answer has to reach the
same text from any cursor. The guard gets there by replacing everything: all is
selected first, which leaves nothing of the selection and the cursor before.

That nothing depends on the two is seen from a pair of edits that hold the same
text. Whatever is inserted, the same is noticed in both, and either both end with one
text and the cursor behind it, or both are left alone. Since both hold the same text
again, the pair can go on, so no sequence of insertions tells them apart.

The keys are where this could fail. A key that deletes is decided by where the cursor
stands, and so is what the platform does with a command. A key that carries a
printable character is neither, under any modifiers, and a paste is decided before
either is looked at.

## Main definitions

* `Action.IsInsertion`: An action that puts something at the end of a text.
* `Agree`: Two reactions that nobody can tell apart.
* `Field.actEach`: Several actions, one after the other.

## Theorems

* `LineEdit.reaction_replaceAll`: Replacing everything, and what is noticed of it.
* `Field.agree_apply`, `Field.agree_commit`, `Field.agree_pressKey`: The routes of an
  insertion.
* `Field.agree_act`: Any insertion, into two edits with the same text.
* `Field.actEach_of_text_eq`: Several insertions.
* `Field.insertions_ignore_cursor`: One insertion and several.
-/

namespace ManagerSignup

/-- An action that puts something at the end of a text: text that is typed or
    pasted, a commit of some text, and a key that means a paste or carries one
    printable character, deletes nothing, and means no command. -/
def Action.IsInsertion : Action → Prop
  | .insertText _ => True
  | .paste _ => True
  | .commit t _ => t ≠ []
  | .press p =>
      p.means .paste ∨
        (∃ c, p.text = [c] ∧ Text.isPrintable c) ∧ p.key = .other ∧ p.shortcut = none
  | _ => False

/-- Two reactions, of two edits, that nobody can tell apart: the same is noticed, and
    either one text is left in both with the cursor at its end, or both are left
    alone. -/
structure Agree (e₁ e₂ : LineEdit) (r₁ r₂ : Reaction) : Prop where
  effects : r₁.effects = r₂.effects
  accepted : r₁.refusals = [] → ∃ w, r₁.edit = .ofText w ∧ r₂.edit = .ofText w
  refused : r₁.refusals ≠ [] → r₁.edit = e₁ ∧ r₂.edit = e₂

/-- What is applied in one is applied in the other. -/
theorem Agree.wasApplied {e₁ e₂ : LineEdit} {r₁ r₂ : Reaction} (h : Agree e₁ e₂ r₁ r₂) :
    r₁.wasApplied = r₂.wasApplied := by
  rw [Reaction.wasApplied, Reaction.wasApplied, h.effects]

/-- Edits with the same text are left with the same text. -/
theorem Agree.text {e₁ e₂ : LineEdit} {r₁ r₂ : Reaction} (h : Agree e₁ e₂ r₁ r₂)
    (htext : e₁.text = e₂.text) : r₁.edit.text = r₂.edit.text := by
  by_cases hnone : r₁.refusals = []
  · rcases h.accepted hnone with ⟨w, h₁, h₂⟩
    rw [h₁, h₂]
  · rcases h.refused hnone with ⟨h₁, h₂⟩
    rw [h₁, h₂, htext]

namespace LineEdit

theorem isNone_selection_selectAll (e : LineEdit) :
    e.selectAll.selection.isNone = e.text.isEmpty := by
  have hselected := e.selection_select 0 e.text.length (Nat.zero_le _)
  rw [Nat.zero_add, Nat.min_self, Int.ofNat_zero] at hselected
  rw [selectAll, hselected]
  cases e.text <;> rfl

/-- Replacing everything leaves the replacement with the cursor at its end, and says
    so unless nothing was replaced by nothing. -/
theorem reaction_replaceAll (e : LineEdit) (t : Text) :
    (e.replaceAll t).reaction =
      { edit := .ofText t
        effects := if t.isEmpty && e.text.isEmpty then [] else [.changed t] } := by
  have hannounced : (e.replaceAll t).announced =
      if t.isEmpty && e.text.isEmpty then [] else [t] := by
    have htext : (e.selectAll.insert t).edit.text = t := e.text_replaceAll t
    rw [text_insert] at htext
    change (e.selectAll.insert t).announced = _
    rw [insert]
    simp only [htext, isNone_selection_selectAll]
  rw [Edited.reaction, edit_replaceAll, hannounced, apply_ite (List.map _)]
  rfl

end LineEdit

namespace Field

variable {f : Field} {e₁ e₂ : LineEdit}

/-- What the grammar took replaces the text of either edit. -/
theorem agree_replaceAll (w : Text) (htext : e₁.text = e₂.text) :
    Agree e₁ e₂ (e₁.replaceAll w).reaction (e₂.replaceAll w).reaction where
  effects := by rw [LineEdit.reaction_replaceAll, LineEdit.reaction_replaceAll, htext]
  accepted := fun _ => ⟨w, e₁.edit_replaceAll w, e₂.edit_replaceAll w⟩
  refused := fun hsome => absurd (Edited.refusals_reaction _) hsome

/-- What is refused leaves either edit alone. -/
theorem agree_refused {effects : List Effect} {t : Text}
    (hrefused : effects.filterMap Effect.refused? = [t]) :
    Agree e₁ e₂ { edit := e₁, effects } { edit := e₂, effects } where
  effects := rfl
  accepted := fun hnone => absurd (hrefused.symm.trans hnone) (List.cons_ne_nil t [])
  refused := fun _ => ⟨rfl, rfl⟩

/-- Doing what was decided, where the same was decided. -/
theorem agree_apply (proposed : Text) (result : Except Rejection Text)
    (htext : e₁.text = e₂.text) :
    Agree e₁ e₂ (f.apply e₁ proposed result) (f.apply e₂ proposed result) := by
  cases result with
  | ok w => exact agree_replaceAll w htext
  | error r => exact agree_refused (t := proposed) rfl

theorem agree_insertText (t : Text) (htext : e₁.text = e₂.text) :
    Agree e₁ e₂ (f.insertText e₁ t) (f.insertText e₂ t) := by
  rw [insertText, insertText, htext]
  exact agree_apply t _ htext

theorem agree_pasteText (t : Text) (htext : e₁.text = e₂.text) :
    Agree e₁ e₂ (f.pasteText e₁ t) (f.pasteText e₂ t) := by
  rw [pasteText, pasteText, htext]
  exact agree_apply t _ htext

theorem agree_commit {t : Text} (ht : t ≠ []) (left : Option PlatformEdit)
    (htext : e₁.text = e₂.text) :
    Agree e₁ e₂ (f.commit e₁ t left) (f.commit e₂ t left) := by
  unfold commit
  rw [if_neg (mt List.isEmpty_iff.mp ht), if_neg (mt List.isEmpty_iff.mp ht), htext]
  cases f.typeAll e₂.text t with
  | ok w => exact agree_replaceAll w htext
  | error r => exact agree_refused (t := t) rfl

/-- A key that is no deleting one and means no command deletes nothing, wherever the
    cursor stands. -/
theorem deletionResult?_eq_none_of_other (e : LineEdit) {p : KeyPress} (hkey : p.key = .other)
    (hshortcut : p.shortcut = none) : deletionResult? e p = none := by
  have hno : ¬(p.means .cut || p.isPlainDeletion) := by
    simp [KeyPress.means, KeyPress.isPlainDeletion, hkey, hshortcut]
  rw [deletionResult?, if_neg hno]

theorem agree_pressKey {p : KeyPress} (hp : (Action.press p).IsInsertion)
    (htext : e₁.text = e₂.text) : Agree e₁ e₂ (f.pressKey e₁ p) (f.pressKey e₂ p) := by
  rcases hp with hpaste | ⟨⟨c, hcarries, hprintable⟩, hkey, hshortcut⟩
  · rw [pressKey, pressKey, if_pos hpaste, if_pos hpaste]
    exact agree_pasteText p.clipboard htext
  · -- No command, so no paste, and the key goes on to what it types.
    have hno : ¬p.means .paste := by
      simp [KeyPress.means, hshortcut]
    have htyped : typedChar? p = some c := by
      simp [typedChar?, hcarries, hprintable, hshortcut]
    rw [pressKey, pressKey, if_neg hno, if_neg hno,
      deletionResult?_eq_none_of_other e₁ hkey hshortcut,
      deletionResult?_eq_none_of_other e₂ hkey hshortcut]
    simp only [htyped]
    exact agree_insertText [c] htext

/-- Whatever is inserted into two edits with the same text, nobody can tell which was
    which. -/
theorem agree_act {a : Action} (ha : a.IsInsertion) (htext : e₁.text = e₂.text) :
    Agree e₁ e₂ (f.act e₁ a).1 (f.act e₂ a).1 := by
  cases a with
  | press p => exact agree_pressKey ha htext
  | commit t left => exact agree_commit ha left htext
  | insertText t => exact agree_insertText t htext
  | paste t => exact agree_pasteText t htext
  | typeEach t => cases ha
  | setText t => cases ha
  | moveCursor position => cases ha
  | select start length => cases ha
  | finish => cases ha

theorem answer_act_of_text_eq {a : Action} (ha : a.IsInsertion) (htext : e₁.text = e₂.text) :
    (f.act e₁ a).2 = (f.act e₂ a).2 := by
  cases a with
  | press p => rfl
  | commit t left => rfl
  | insertText t => exact congrArg ActionAnswer.applied (agree_insertText t htext).wasApplied
  | paste t => exact congrArg ActionAnswer.applied (agree_pasteText t htext).wasApplied
  | typeEach t => cases ha
  | setText t => cases ha
  | moveCursor position => cases ha
  | select start length => cases ha
  | finish => cases ha

/-! ### Several actions -/

/-- Several actions, one after the other. -/
def actEach (f : Field) (e : LineEdit) : List Action → Reaction
  | [] => { edit := e, effects := [] }
  | a :: rest =>
      let first := (f.act e a).1
      let more := f.actEach first.edit rest
      { edit := more.edit, effects := first.effects ++ more.effects }

/-- What several insertions do to two edits with the same text cannot be told apart
    either, since each leaves the next with the same text again. -/
theorem actEach_of_text_eq {actions : List Action} (hactions : ∀ a ∈ actions, a.IsInsertion)
    (htext : e₁.text = e₂.text) :
    (f.actEach e₁ actions).effects = (f.actEach e₂ actions).effects ∧
      (f.actEach e₁ actions).edit.text = (f.actEach e₂ actions).edit.text := by
  induction actions generalizing e₁ e₂ with
  | nil => exact ⟨rfl, htext⟩
  | cons a rest ih =>
      rw [List.forall_mem_cons] at hactions
      have hfirst := agree_act (f := f) hactions.1 htext
      have hrest := ih hactions.2 (hfirst.text htext)
      exact ⟨congrArg₂ (· ++ ·) hfirst.effects hrest.1, hrest.2⟩

/-- Cursors and selections play no part in what is inserted. An insertion is taken by
    both of two edits with the same text or by neither, with the same answer and the
    same signals; if it is taken, both are left with one text, the cursor at its end and
    nothing selected, and if not, both are left as they were. Nor do they play a part in
    any sequence of insertions. -/
theorem insertions_ignore_cursor (f : Field) (e₁ e₂ : LineEdit) (htext : e₁.text = e₂.text) :
    (∀ a : Action, a.IsInsertion →
        (f.act e₁ a).2 = (f.act e₂ a).2 ∧ Agree e₁ e₂ (f.act e₁ a).1 (f.act e₂ a).1) ∧
      ∀ actions : List Action, (∀ a ∈ actions, a.IsInsertion) →
        (f.actEach e₁ actions).effects = (f.actEach e₂ actions).effects ∧
          (f.actEach e₁ actions).edit.text = (f.actEach e₂ actions).edit.text :=
  ⟨fun _ ha => ⟨answer_act_of_text_eq ha htext, agree_act ha htext⟩,
    fun _ hactions => actEach_of_text_eq hactions htext⟩

/-- A document number with the cursor in front and one of which the middle is
    selected. A digit typed under modifiers goes behind both, and a paste that begins
    with a zero is refused in both. -/
theorem insertions_ignore_cursor_documentNumber :
    ∃ e₁ e₂ : LineEdit, e₁.text = e₂.text ∧ e₁.cursor = 0 ∧ e₂.selection = some ⟨1, 2⟩ ∧
      (∃ p : KeyPress, p.modifiers.control ∧ p.modifiers.alt ∧ (Action.press p).IsInsertion ∧
        (documentNumber.act e₁ (.press p)).1.edit = .ofText ['7', '0', '5', '4'] ∧
        (documentNumber.act e₂ (.press p)).1.edit = .ofText ['7', '0', '5', '4']) ∧
      (Action.paste ['0', '1']).IsInsertion ∧
        (documentNumber.act e₁ (.paste ['0', '1'])).1.edit = e₁ ∧
        (documentNumber.act e₂ (.paste ['0', '1'])).1.edit = e₂ ∧
        (documentNumber.actEach e₁ [.paste ['0', '1'], .commit ['4', '4']]).effects =
          (documentNumber.actEach e₂ [.paste ['0', '1'], .commit ['4', '4']]).effects := by
  let e₁ := (LineEdit.ofText ['7', '0', '5']).moveCursor 0
  let e₂ := (LineEdit.ofText ['7', '0', '5']).select 1 1
  let p : KeyPress := { text := ['4'], modifiers := { control := true, alt := true } }
  have htext : e₁.text = e₂.text := by decide
  have hblind := documentNumber.insertions_ignore_cursor e₁ e₂ htext
  have hp : (Action.press p).IsInsertion := Or.inr ⟨⟨'4', rfl, by decide⟩, rfl, rfl⟩
  have hpaste : (Action.paste ['0', '1']).IsInsertion := trivial
  have htaken := (hblind.1 _ hp).2.accepted (by decide)
  have hrefused := (hblind.1 _ hpaste).2.refused (by decide)
  have hseveral := hblind.2 [.paste ['0', '1'], .commit ['4', '4']]
    (List.forall_mem_cons.mpr ⟨hpaste, List.forall_mem_singleton.mpr (List.cons_ne_nil _ _)⟩)
  rcases htaken with ⟨w, h₁, h₂⟩
  have hw : w = ['7', '0', '5', '4'] := (congrArg LineEdit.text h₁).symm.trans (by decide)
  rw [hw] at h₁ h₂
  exact ⟨e₁, e₂, htext, rfl, by decide, ⟨p, rfl, rfl, hp, h₁, h₂⟩, hpaste, hrefused.1,
    hrefused.2, hseveral.1⟩

end Field

end ManagerSignup
