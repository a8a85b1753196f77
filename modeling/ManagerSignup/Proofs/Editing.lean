import ManagerSignup.LineEdit.Guard

/-!
# What an Edit Leaves

The text after each operation on a line edit, and that a change is never
silent.

Cursor and selection decide where a text goes, so they are part of what an
operation means; but once it is done only the text is left to talk about. The
first half of this file says what that text is. The operation that matters is
replacing, which is how a guard puts a text in: everything is selected first, so
nothing is left of the edit before, neither its text nor its cursor nor its
selection. What a deletion leaves is in `Pieces`.

The second half is about announcements. Whoever keeps a verdict about a text has
to hear of every change, so what matters is that an operation which says nothing
leaves the text alone. The converse fails, and nothing rests on it: replacing a
text by itself is announced.

## Main definitions

* `Edited.Tells`: A changed text is announced.
* `Reaction.Tells`: The same, of what can be noticed.

## Theorems

* `LineEdit.text_replaceAll`: Replacing leaves the replacement.
* `LineEdit.edit_replaceAll`: Replacing leaves nothing of the edit before.
* `LineEdit.act_tells`: No action changes a text in silence.
-/

namespace ManagerSignup

namespace LineEdit

@[simp]
theorem text_moveCursor (e : LineEdit) (position : Int) :
    (e.moveCursor position).text = e.text := rfl

theorem cursor_moveCursor_self (e : LineEdit) (position : Nat)
    (h : position ≤ e.text.length) : (e.moveCursor position).cursor = position := by
  change min ((position : Int).toNat) e.text.length = position
  rw [Int.toNat_natCast, Nat.min_eq_left h]

@[simp]
theorem text_select (e : LineEdit) (start length : Int) :
    (e.select start length).text = e.text := by
  unfold select
  split <;> rfl

theorem text_insert (e : LineEdit) (t : Text) :
    (e.insert t).edit.text = e.text.take e.insertStart ++ t ++ e.text.drop e.insertStop := rfl

/-- A stretch of a text, selected from a position within it. -/
theorem selection_select (e : LineEdit) (first length : Nat) (hfirst : first ≤ e.text.length) :
    (e.select first length).selection =
      if first < min (first + length) e.text.length then
        some ⟨first, min (first + length) e.text.length⟩
      else none := by
  have hrange : (0 : Int) ≤ first ∧ (first : Int) ≤ e.text.length := by omega
  have hstop : ((first : Int) + (length : Int)).toNat = first + length := by omega
  unfold select
  rw [if_pos hrange]
  simp only [hstop, Int.toNat_natCast]

/-- Replacing leaves the replacement, whether or not there was anything to
    select. -/
@[simp]
theorem text_replaceAll (e : LineEdit) (t : Text) : (e.replaceAll t).edit.text = t := by
  have hselected := e.selection_select 0 e.text.length (Nat.zero_le _)
  have htext : (e.replaceAll t).edit.text = (e.selectAll.insert t).edit.text := rfl
  rw [htext, text_insert, selectAll, text_select, insertStart, insertStop]
  rw [Nat.zero_add, Nat.min_self] at hselected
  simp only [Int.ofNat_zero] at hselected
  rw [hselected]
  -- An empty text has no selection, and then the cursor says where to insert.
  by_cases hne : 0 < e.text.length
  · rw [if_pos hne]
    simp
  · have hnil : e.text = [] := List.length_eq_zero_iff.mp (by omega)
    rw [if_neg hne]
    simp [hnil]

theorem toEnd_eq_ofText (e : LineEdit) (t : Text) (h : e.text = t) : e.toEnd = ofText t := by
  subst h
  simp only [toEnd, moveCursor, ofText, Int.toNat_natCast, Nat.min_self]

/-- Replacing leaves nothing of the edit before, neither its cursor nor its
    selection. -/
theorem edit_replaceAll (e : LineEdit) (t : Text) : (e.replaceAll t).edit = ofText t :=
  (e.selectAll.insert t).edit.toEnd_eq_ofText t (e.text_replaceAll t)

end LineEdit

/-! ### Announcements -/

/-- A text other than the one before is announced. -/
def Edited.Tells (before : Text) (e : Edited) : Prop :=
  e.edit.text = before ∨ e.announced ≠ []

/-- A text other than the one before is among what can be noticed. -/
def Reaction.Tells (before : Text) (r : Reaction) : Prop :=
  r.edit.text = before ∨ ∃ t, .changed t ∈ r.effects

theorem Edited.Tells.reaction {before : Text} {e : Edited} (h : e.Tells before) :
    e.reaction.Tells before := by
  rcases h with h | h
  · exact Or.inl h
  · rcases List.exists_mem_of_ne_nil _ h with ⟨t, ht⟩
    exact Or.inr ⟨t, List.mem_map_of_mem ht⟩

/-- More may be noticed beside what an edit announced. -/
theorem Edited.Tells.platform {before : Text} {e : Edited} (h : e.Tells before)
    (edit : LineEdit) (hedit : edit = e.edit) :
    Reaction.Tells before { edit, effects := .platform :: e.announced.map .changed } := by
  rcases h.reaction with h | ⟨t, ht⟩
  · exact Or.inl (by rw [hedit]; exact h)
  · exact Or.inr ⟨t, List.mem_cons_of_mem _ ht⟩

namespace LineEdit

theorem setText_tells (e : LineEdit) (t : Text) : (e.setText t).Tells e.text := by
  by_cases h : e.text = t
  · exact Or.inl h.symm
  · refine Or.inr ?_
    simp only [setText, if_neg h]
    exact List.cons_ne_nil _ _

theorem insert_tells (e : LineEdit) (t : Text) : (e.insert t).Tells e.text := by
  by_cases h : t.isEmpty && e.selection.isNone
  · -- Nothing goes in and nothing goes out, so the text is put together again.
    rw [Bool.and_eq_true, List.isEmpty_iff, Option.isNone_iff_eq_none] at h
    refine Or.inl ?_
    rw [text_insert, insertStart, insertStop, h.1, h.2]
    simp only [List.append_nil, List.take_append_drop]
  · refine Or.inr ?_
    simp only [insert, if_neg h]
    exact List.cons_ne_nil _ _

theorem replaceAll_tells (e : LineEdit) (t : Text) : (e.replaceAll t).Tells e.text := by
  have h := e.selectAll.insert_tells t
  rwa [selectAll, text_select] at h

theorem removeAt_tells (e : LineEdit) (position : Nat) : (e.removeAt position).Tells e.text := by
  have h := (e.select position 1).insert_tells []
  rwa [text_select] at h

theorem deleteByKey_tells (e : LineEdit) (key : Key) : (e.deleteByKey key).Tells e.text := by
  unfold deleteByKey
  split
  · exact e.insert_tells []
  · split
    · exact e.removeAt_tells _
    · exact Or.inl rfl
  · split
    · exact e.removeAt_tells _
    · exact Or.inl rfl
  · exact Or.inl rfl

theorem platformLeaves_tells (e : LineEdit) (left : PlatformEdit) :
    (e.platformLeaves left).Tells e.text :=
  e.setText_tells left.text

theorem platformKey_tells (e : LineEdit) (p : KeyPress) : (e.platformKey p).Tells e.text := by
  unfold platformKey
  split
  · exact e.platformLeaves_tells _
  · split
    · exact e.deleteByKey_tells _
    · exact Or.inl rfl

theorem platformComposes_tells (e : LineEdit) (left : Option PlatformEdit) :
    (e.platformComposes left).Tells e.text := by
  cases left with
  | some left => exact e.platformLeaves_tells left
  | none => exact Or.inl rfl

end LineEdit

namespace Field

theorem apply_tells (f : Field) (e : LineEdit) (proposed : Text)
    (result : Except Rejection Text) : (f.apply e proposed result).Tells e.text := by
  cases result with
  | ok value => exact (e.replaceAll_tells value).reaction
  | error r => exact Or.inl rfl

theorem commit_tells (f : Field) (e : LineEdit) (t : Text) (left : Option PlatformEdit) :
    (f.commit e t left).Tells e.text := by
  unfold commit
  split
  · exact (e.platformComposes_tells left).platform _ rfl
  · split
    · exact (e.replaceAll_tells _).reaction
    · exact Or.inl rfl

theorem deleteChecked_tells (f : Field) (e : LineEdit) (p : KeyPress) (remaining : Text) :
    (f.deleteChecked e p remaining).Tells e.text := by
  unfold deleteChecked
  split
  · exact (e.platformKey_tells p).platform _ rfl
  · exact Or.inl rfl

theorem forward_tells (f : Field) (e : LineEdit) (p : KeyPress) :
    (f.forward e p).Tells e.text := by
  unfold forward
  simp only
  split
  · exact (e.platformKey_tells p).platform _ rfl
  · split
    · exact (e.platformKey_tells p).platform _ rfl
    · -- What was done is undone, so there is nothing to tell in the end.
      refine Or.inl ?_
      simp only [LineEdit.text_moveCursor, LineEdit.text_replaceAll]

theorem pressKey_tells (f : Field) (e : LineEdit) (p : KeyPress) :
    (f.pressKey e p).Tells e.text := by
  unfold pressKey
  split
  · exact f.apply_tells e _ _
  · split
    · exact f.deleteChecked_tells e p _
    · split
      · exact f.apply_tells e _ _
      · exact f.forward_tells e p

theorem typeEach_tells (f : Field) (e : LineEdit) (t : Text) :
    (f.typeEach e t).1.Tells e.text := by
  induction t generalizing e with
  | nil => exact Or.inl rfl
  | cons c rest ih =>
      -- A change that is undone by the end was told of on the way.
      have hfirst := f.apply_tells e [c] (f.typeText e.text [c])
      have hmore := ih (f.insertText e [c]).edit
      rcases hmore with hmore | ⟨t, ht⟩
      · rcases hfirst with hfirst | ⟨t, ht⟩
        · exact Or.inl (hmore.trans hfirst)
        · exact Or.inr ⟨t, List.mem_append_left _ ht⟩
      · exact Or.inr ⟨t, List.mem_append_right _ ht⟩

theorem act_tells (f : Field) (e : LineEdit) (a : Action) : (f.act e a).1.Tells e.text := by
  cases a with
  | press p => exact f.pressKey_tells e p
  | commit t left => exact f.commit_tells e t left
  | insertText t => exact f.apply_tells e _ _
  | typeEach t => exact f.typeEach_tells e t
  | paste t => exact f.apply_tells e _ _
  | setText t => exact (e.setText_tells t).reaction
  | moveCursor position => exact Or.inl rfl
  | select start length => exact Or.inl (e.text_select start length)
  | finish => exact Or.inl rfl

end Field

namespace LineEdit

theorem actPlain_tells (e : LineEdit) (a : Action) : (e.actPlain a).1.Tells e.text := by
  cases a with
  | press p => exact (e.platformKey_tells p).reaction
  | setText t => exact (e.setText_tells t).reaction
  | select start length => exact Or.inl (e.text_select start length)
  | _ => exact Or.inl rfl

/-- No action changes a text in silence, with a guard or without. -/
theorem act_tells (e : LineEdit) (guard : Option Field) (a : Action) :
    (act guard e a).1.Tells e.text := by
  cases guard with
  | none => exact e.actPlain_tells a
  | some f => exact f.act_tells e a

end LineEdit

end ManagerSignup
