import ManagerSignup.Proofs.Editing
import ManagerSignup.Proofs.Places
import Mathlib.Tactic.SplitIfs

/-!
# What a Deletion Leaves

A deletion takes a stretch out of a text and joins what stood before it to what
stood behind it.

That is said here once, without positions to add and subtract: a text falls into
three pieces, the middle one goes, and where it begins and ends is a matter of what
is selected or of where the cursor stands. `Removes` is that sentence, with a case
for the selection and one for each of the two keys.

Two parties compute the same thing their own way. The guard cuts the text up at the
place that it is told, before anything has happened, to have a text it can ask about.
The platform selects a character, if nothing is selected yet, and inserts nothing in
its place. Each is compared with the pieces and not with the other, and both come out
at the first and the third if the told place is the true one.

It is not where a wide character stands before it. Then the guard cuts too far behind,
and the wide character is still in the text that it works out. So a text without any
is only worked out at the true place, and since no field lets a wide character be
typed, a guard that lets a deletion happen has always asked about the right text.

## Main definitions

* `LineEdit.Removes`: The pieces of a text around what a deleting key takes out.
* `LineEdit.Deletes`: The text that is left.
* `LineEdit.Foresees`: A key whose deletion the guard works out beforehand.

## Theorems

* `LineEdit.edit_deleteByKey_of_removes`: What the platform leaves.
* `LineEdit.removes_selection`, `LineEdit.removes_backspace`, `LineEdit.removes_delete`:
  Where there is something to take out.
* `LineEdit.deletionResult?_eq_some_iff`: What the guard works out at the true place.
* `LineEdit.plain_of_deletionResult?`: A text without wide characters is worked out there.
* `LineEdit.text_deleteByKey_of_deletionResult?`: The two agree.
-/

namespace ManagerSignup

/-- A plain deletion is by one of two keys. -/
theorem KeyPress.key_eq_delete {p : KeyPress} (h : p.isPlainDeletion)
    (hback : p.key ≠ .backspace) : p.key = .delete := by
  simp only [isPlainDeletion, Bool.and_eq_true, Bool.or_eq_true, decide_eq_true_eq] at h
  exact h.1.resolve_left hback

namespace LineEdit

/-- The pieces of a text around what a deleting key takes out: the selection, or
    with nothing selected the one character before or behind the cursor. -/
inductive Removes (e : LineEdit) : Key → Text → Text → Text → Prop where
  | selected {key : Key} {before gone after : Text} (s : Selection) :
      e.selection = some s → e.text = before ++ gone ++ after →
        s.start = before.length → s.stop = before.length + gone.length →
          Removes e key before gone after
  | backward {before after : Text} (c : Char) :
      e.selection = none → e.text = before ++ [c] ++ after → e.cursor = before.length + 1 →
        Removes e .backspace before [c] after
  | forward {before after : Text} (c : Char) :
      e.selection = none → e.text = before ++ [c] ++ after → e.cursor = before.length →
        Removes e .delete before [c] after

/-- The text that a deleting key leaves: what stood before and what stood behind. -/
def Deletes (e : LineEdit) (key : Key) (t : Text) : Prop :=
  ∃ before gone after, e.Removes key before gone after ∧ t = before ++ after

/-- A key whose deletion is worked out beforehand: a cut of what is selected, or a
    deleting key without the modifiers that make it delete words. -/
def Foresees (e : LineEdit) (p : KeyPress) : Prop :=
  (p.means .cut ∨ p.isPlainDeletion) ∧ (p.means .cut → e.selection ≠ none)

theorem text_eq_of_removes {e : LineEdit} {key : Key} {before gone after : Text}
    (h : e.Removes key before gone after) : e.text = before ++ gone ++ after := by
  cases h with
  | selected s _ htext _ _ => exact htext
  | backward _ _ htext _ => exact htext
  | forward _ _ htext _ => exact htext

/-- A text in three pieces, taken up to the second and dropped up to the third. -/
theorem take_append_drop_of_pieces {t before gone after : Text} {start stop : Nat}
    (ht : t = before ++ gone ++ after) (hstart : start = before.length)
    (hstop : stop = before.length + gone.length) :
    t.take start ++ t.drop stop = before ++ after := by
  rw [ht, hstart, hstop, ← List.length_append, List.drop_left, List.append_assoc, List.take_left]

theorem length_lt_of_pieces {t before after : Text} {c : Char} (ht : t = before ++ [c] ++ after) :
    before.length < t.length := by
  rw [ht, List.length_append, List.length_append, List.length_singleton]
  omega

/-- Two edits are one if their texts, cursors and selections are. -/
theorem eq_of_fields {e₁ e₂ : LineEdit} (htext : e₁.text = e₂.text)
    (hcursor : e₁.cursor = e₂.cursor) (hselection : e₁.selection = e₂.selection) : e₁ = e₂ := by
  cases e₁
  cases e₂
  cases htext
  cases hcursor
  cases hselection
  rfl

/-- With the cursor at its end and nothing selected, an edit is its text. -/
theorem eq_ofText {e : LineEdit} (hcursor : e.cursor = e.text.length)
    (hselection : e.selection = none) : e = ofText e.text :=
  eq_of_fields rfl hcursor hselection

/-- Inserting nothing takes out what is between the two ends of the insertion, and
    the cursor goes where it was. -/
theorem edit_insert_nil (e : LineEdit) (before gone after : Text)
    (htext : e.text = before ++ gone ++ after) (hstart : e.insertStart = before.length)
    (hstop : e.insertStop = before.length + gone.length) :
    (e.insert []).edit = (ofText (before ++ after)).moveCursor before.length := by
  have hleft : (e.insert []).edit.text = before ++ after := by
    rw [text_insert, List.append_nil]
    exact take_append_drop_of_pieces htext hstart hstop
  refine eq_of_fields hleft ?_ rfl
  have hbefore : e.text.take e.insertStart = before := by
    rw [htext, hstart, List.append_assoc, List.take_left]
  have hroom : before.length ≤ (before ++ after).length := by
    rw [List.length_append]
    exact Nat.le_add_right _ _
  rw [cursor_moveCursor_self _ _ hroom]
  change (e.text.take e.insertStart).length + 0 = before.length
  rw [hbefore, Nat.add_zero]

/-- Removing the character that a text has at a position. -/
theorem edit_removeAt (e : LineEdit) (before : Text) (c : Char) (after : Text)
    (htext : e.text = before ++ [c] ++ after) :
    (e.removeAt before.length).edit = (ofText (before ++ after)).moveCursor before.length := by
  -- The character is all that is selected, since the text does not end before it does.
  have hlt := length_lt_of_pieces htext
  have hselected := e.selection_select before.length 1 (Nat.le_of_lt hlt)
  rw [Nat.min_eq_left hlt, if_pos (Nat.lt_succ_self _), Int.ofNat_one] at hselected
  refine edit_insert_nil (e.select before.length 1) before [c] after ?_ ?_ ?_
  · rw [text_select, htext]
  · rw [insertStart, hselected]
  · rw [insertStop, hselected, List.length_singleton]

/-- A deletion leaves the first and the third piece, with the cursor between them. -/
theorem edit_deleteByKey_of_removes {e : LineEdit} {key : Key} {before gone after : Text}
    (h : e.Removes key before gone after) :
    (e.deleteByKey key).edit = (ofText (before ++ after)).moveCursor before.length := by
  cases h with
  | selected s hselection htext hstart hstop =>
      rw [deleteByKey.eq_def]
      simp only [hselection]
      refine e.edit_insert_nil before gone after htext ?_ ?_
      · rw [insertStart, hselection]
        exact hstart
      · rw [insertStop, hselection]
        exact hstop
  | backward c hselection htext hcursor =>
      have hpos : 0 < e.cursor := by omega
      have hplace : e.cursor - 1 = before.length := by omega
      rw [deleteByKey.eq_def]
      simp only [hselection]
      rw [if_pos hpos, hplace]
      exact e.edit_removeAt before c after htext
  | forward c hselection htext hcursor =>
      have hlt : e.cursor < e.text.length := hcursor ▸ length_lt_of_pieces htext
      rw [deleteByKey.eq_def]
      simp only [hselection]
      rw [if_pos hlt, hcursor]
      exact e.edit_removeAt before c after htext

/-- There is one text that a deletion leaves. -/
theorem eq_text_deleteByKey_of_deletes {e : LineEdit} {key : Key} {t : Text}
    (h : e.Deletes key t) : t = (e.deleteByKey key).edit.text := by
  rcases h with ⟨before, gone, after, hremoves, rfl⟩
  rw [edit_deleteByKey_of_removes hremoves]
  rfl

/-- The selection is taken out by any deleting key. -/
theorem removes_selection {e : LineEdit} {s : Selection} (key : Key)
    (h : e.selection = some s) :
    e.Removes key (e.text.take s.start) ((e.text.take s.stop).drop s.start)
      (e.text.drop s.stop) := by
  have hok := e.selection_ok s h
  have hstart : (e.text.take s.start).length = s.start := by
    rw [List.length_take]
    omega
  refine .selected s h ?_ hstart.symm ?_
  · have htake : (e.text.take s.stop).take s.start = e.text.take s.start := by
      rw [List.take_take, Nat.min_eq_left (Nat.le_of_lt hok.1)]
    rw [← htake, List.take_append_drop, List.take_append_drop]
  · rw [hstart, List.length_drop, List.length_take]
    omega

/-- A text in three pieces around one of its characters. -/
theorem pieces_at (t : Text) (position : Nat) (h : position < t.length) :
    t = t.take position ++ [t[position]] ++ t.drop (position + 1) := by
  rw [List.take_append_getElem h, List.take_append_drop]

/-- With nothing selected the backspace key takes out the character before the
    cursor. -/
theorem removes_backspace {e : LineEdit} (h : e.selection = none) (hpos : 0 < e.cursor) :
    ∃ c, e.Removes .backspace (e.text.take (e.cursor - 1)) [c] (e.text.drop e.cursor) := by
  have hplace : e.cursor - 1 + 1 = e.cursor := Nat.sub_add_cancel hpos
  have hlt : e.cursor - 1 < e.text.length := by
    have := e.cursor_le
    omega
  have hpieces := pieces_at e.text (e.cursor - 1) hlt
  rw [hplace] at hpieces
  refine ⟨_, .backward _ h hpieces ?_⟩
  rw [List.length_take, Nat.min_eq_left (Nat.le_of_lt hlt), hplace]

/-- With nothing selected the deleting key takes out the character behind the
    cursor. -/
theorem removes_delete {e : LineEdit} (h : e.selection = none)
    (hlt : e.cursor < e.text.length) :
    ∃ c, e.Removes .delete (e.text.take e.cursor) [c] (e.text.drop (e.cursor + 1)) := by
  refine ⟨_, .forward _ h (pieces_at e.text e.cursor hlt) ?_⟩
  rw [List.length_take, Nat.min_eq_left (Nat.le_of_lt hlt)]

/-! ### What the guard works out -/

/-- The guard works a text out for the keys whose deletion it foresees only. -/
theorem foresees_of_deletionResult? {e : LineEdit} {p : KeyPress} {t : Text}
    (h : Field.deletionResult? e p = some t) : e.Foresees p := by
  unfold Field.deletionResult? at h
  split at h
  · next hkey =>
    refine ⟨Bool.or_eq_true _ _ ▸ hkey, fun hcut hselection => ?_⟩
    rw [hselection] at h
    simp only at h
    rw [if_pos hcut] at h
    cases h
  · cases h

/-- What is worked out is the text without a stretch of it, which begins at the told place
    or one in front of it. -/
theorem eq_without_of_deletionResult? {e : LineEdit} {p : KeyPress} {t : Text}
    (h : Field.deletionResult? e p = some t) :
    ∃ start count, e.toldPlace p.counting ≤ start + 1 ∧ t = Text.without e.text start count := by
  unfold Field.deletionResult? at h
  split at h
  · cases hselection : e.selection with
    | some s =>
        rw [hselection, Option.some.injEq] at h
        exact ⟨_, _, Nat.le_succ _, h.symm⟩
    | none =>
        rw [hselection] at h
        simp only at h
        split_ifs at h
        · rw [Option.some.injEq] at h
          exact ⟨_, _, Nat.le_add_of_sub_le (Nat.le_refl _), h.symm⟩
        · rw [Option.some.injEq] at h
          exact ⟨_, _, Nat.le_succ _, h.symm⟩
  · cases h

/-- A text that has no wide character was worked out with none before the place. -/
theorem plain_of_deletionResult? {e : LineEdit} {p : KeyPress} {t : Text}
    (h : Field.deletionResult? e p = some t) (ht : p.counting.Plain t) :
    p.counting.Plain (e.text.take e.insertStart) := by
  rcases Nat.eq_or_lt_of_le (e.insertStart_le_toldPlace p.counting) with hsame | hbehind
  · exact (e.toldPlace_eq_iff p.counting).mp hsame.symm
  · -- The guard cuts behind the true place, so all that stands before it is kept.
    rcases eq_without_of_deletionResult? h with ⟨start, count, hplace, rfl⟩
    have hkept : e.insertStart ≤ start := Nat.le_of_lt_succ (Nat.lt_of_lt_of_le hbehind hplace)
    exact Counting.plain_take_of_plain_without ht hkept

/-- What the guard works out at the true place is what a deletion leaves. -/
theorem deletes_of_deletionResult? {e : LineEdit} {p : KeyPress} {t : Text}
    (hplain : p.counting.Plain (e.text.take e.insertStart))
    (h : Field.deletionResult? e p = some t) : e.Deletes p.key t := by
  have hforesees := foresees_of_deletionResult? h
  have hplace := (e.toldPlace_eq_iff p.counting).mpr hplain
  unfold Field.deletionResult? at h
  rw [if_pos (Bool.or_eq_true _ _ ▸ hforesees.1), hplace] at h
  cases hselection : e.selection with
  | some s =>
      have hstart : e.insertStart = s.start := by rw [insertStart, hselection]
      have hstop : s.start + (s.stop - s.start) = s.stop :=
        Nat.add_sub_cancel' (Nat.le_of_lt (e.selection_ok s hselection).1)
      rw [hselection, hstart] at h
      simp only [Text.without, hstop, Option.some.injEq] at h
      exact ⟨_, _, _, removes_selection p.key hselection, h.symm⟩
  | none =>
      have hstart : e.insertStart = e.cursor := by rw [insertStart, hselection]
      rw [hselection, hstart] at h
      simp only [Text.without] at h
      split_ifs at h with hcut hback hpos hlt
      · rw [Option.some.injEq, Nat.sub_add_cancel hpos] at h
        rcases removes_backspace hselection hpos with ⟨c, hremoves⟩
        rw [hback]
        exact ⟨_, _, _, hremoves, h.symm⟩
      · -- What is no cut and no backspace is the other deleting key.
        rw [Option.some.injEq] at h
        rcases removes_delete hselection hlt with ⟨c, hremoves⟩
        rw [KeyPress.key_eq_delete (hforesees.1.resolve_left hcut) hback]
        exact ⟨_, _, _, hremoves, h.symm⟩

/-- A deletion leaves the text that was worked out for it, if nothing wide stands before
    the place or if nothing wide is in that text. -/
theorem text_deleteByKey_of_deletionResult? (e : LineEdit) (p : KeyPress) (remaining : Text)
    (h : Field.deletionResult? e p = some remaining)
    (hplain : p.counting.Plain (e.text.take e.insertStart) ∨ p.counting.Plain remaining) :
    (e.deleteByKey p.key).edit.text = remaining := by
  have hbefore := hplain.elim id (plain_of_deletionResult? h)
  exact (eq_text_deleteByKey_of_deletes (deletes_of_deletionResult? hbefore h)).symm

/-- At the true place the guard works out a text exactly for the keys whose deletion it
    foresees, and it is the text that the deletion leaves. -/
theorem deletionResult?_eq_some_iff (e : LineEdit) (p : KeyPress) (t : Text)
    (hplain : p.counting.Plain (e.text.take e.insertStart)) :
    Field.deletionResult? e p = some t ↔ e.Foresees p ∧ e.Deletes p.key t := by
  refine ⟨fun h => ⟨foresees_of_deletionResult? h, deletes_of_deletionResult? hplain h⟩, ?_⟩
  rintro ⟨⟨hkey, hcut⟩, before, gone, after, hremoves, rfl⟩
  have hplace := (e.toldPlace_eq_iff p.counting).mpr hplain
  unfold Field.deletionResult?
  rw [if_pos (Bool.or_eq_true _ _ ▸ hkey), hplace, insertStart]
  -- Which pieces there are goes by the key, so the key has to be a variable here.
  generalize p.key = key at *
  cases hremoves with
  | selected s hselection htext hstart hstop =>
      have hcount : s.start + (s.stop - s.start) = before.length + gone.length := by omega
      simp only [hselection, Text.without]
      rw [take_append_drop_of_pieces htext hstart hcount]
  | backward c hselection htext hcursor =>
      have hno : ¬p.means .cut := fun hmeans => hcut hmeans hselection
      have hpos : 0 < e.cursor := by omega
      have hstart : e.cursor - 1 = before.length := by omega
      simp only [hselection, Text.without]
      rw [if_neg hno, if_pos trivial, if_pos hpos,
        take_append_drop_of_pieces htext hstart (congrArg Nat.succ hstart)]
  | forward c hselection htext hcursor =>
      have hno : ¬p.means .cut := fun hmeans => hcut hmeans hselection
      have hother : Key.delete ≠ .backspace := by decide
      have hlt : e.cursor < e.text.length := hcursor ▸ length_lt_of_pieces htext
      simp only [hselection, Text.without]
      rw [if_neg hno, if_neg hother, if_pos hlt,
        take_append_drop_of_pieces htext hcursor (congrArg Nat.succ hcursor)]

/-- A platform that leaves no text of its own deletes. -/
theorem platformKey_eq_deleteByKey {e : LineEdit} {p : KeyPress} (hdefault : p.platformEdit = none)
    (hkey : p.means .cut ∨ p.isPlainDeletion) : e.platformKey p = e.deleteByKey p.key := by
  rw [platformKey, hdefault]
  simp only
  rw [if_pos (Bool.or_eq_true _ _ ▸ hkey)]

end LineEdit

end ManagerSignup
