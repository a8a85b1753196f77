import ManagerSignup.Proofs.Carets

/-!
# Deletions

The text that a guard checks before a deletion is the text that the deletion leaves,
and a deletion at the end is always allowed.

The first holds of every deletion that is let through, and of every other one unless a
wide character stands before it and the platform counts units. Then the guard asks about
a text that nobody would get, which still has the wide character, and refuses. So such a
character, which only the program can have put there, cannot be deleted from behind.

A deletion goes one of two ways. Where the guard foresees what will be left, it asks
about that text and lets the platform act or not. A cut with nothing selected is not
foreseen, and is looked at afterwards like any other key. Whichever way it goes, it is
refused only if what it leaves cannot be typed.

What can be typed stays so when its end is taken away, and that cannot be said of the
rest of it: a digit taken from the front of a document number may leave a zero there.
So a deletion that reaches the end is never refused, and there is always a way out of
a value that somebody regrets. The backspace key empties a field from the end, a
character at a time.

## Main definitions

* `KeyPress.IsBackspace`: A plain backspace.

## Theorems

* `Field.pressKey_of_foresees`, `Field.pressKey_of_removes`: A deletion that leaves what
  can be typed is let through.
* `Field.deletion_leaves_checked`: The text that was checked is the text that is left.
* `Field.deletion_leaves_other`: It is not behind a wide character.
* `Field.act_backspace`, `Field.actEach_backspaces`: What backspaces leave, one and
  several.
* `Field.end_deletable`: No deletion at the end is refused, and backspaces empty a field.
-/

namespace ManagerSignup

/-- A plain backspace: without the modifiers that make it delete words, no command
    to paste, and left to the platform as it is. -/
structure KeyPress.IsBackspace (p : KeyPress) : Prop where
  key : p.key = .backspace
  plain : p.isPlainDeletion
  no_paste : ¬p.means .paste
  no_platformEdit : p.platformEdit = none

namespace Field

theorem pressKey_of_deletionResult? (f : Field) {e : LineEdit} {p : KeyPress} {remaining : Text}
    (hpaste : ¬p.means .paste) (h : deletionResult? e p = some remaining) :
    f.pressKey e p = f.deleteChecked e p remaining := by
  rw [pressKey, if_neg hpaste, h]

/-- A key that means a command types nothing. -/
theorem typedChar?_eq_none_of_means {p : KeyPress} {command : Shortcut} (h : p.means command) :
    typedChar? p = none := by
  have hshortcut : p.shortcut = some command := of_decide_eq_true h
  unfold typedChar?
  split
  · rw [hshortcut, Option.isNone_some, Bool.and_false]
    rfl
  · rfl

/-- A deletion that was foreseen to leave what can be typed is let through, whatever
    the platform makes of it. -/
theorem pressKey_of_foresees (f : Field) {e : LineEdit} {p : KeyPress} {t : Text}
    (hplain : p.counting.Plain (e.text.take e.insertStart)) (hpaste : ¬p.means .paste)
    (hforesees : e.Foresees p) (hdeletes : e.Deletes p.key t) (htypable : f.typable t) :
    (f.pressKey e p).edit = (e.platformKey p).edit ∧ (f.pressKey e p).refusals = [] := by
  have hremaining := (e.deletionResult?_eq_some_iff p t hplain).mpr ⟨hforesees, hdeletes⟩
  rw [f.pressKey_of_deletionResult? hpaste hremaining]
  exact f.deleteChecked_of_typable e p t htypable

/-- A deletion that leaves what can be typed is let through, whichever way the key
    goes, and leaves the cursor where the pieces meet. -/
theorem pressKey_of_removes (f : Field) {e : LineEdit} {p : KeyPress} {before gone after : Text}
    (hplain : p.counting.Plain (e.text.take e.insertStart))
    (hdefault : p.platformEdit = none) (hpaste : ¬p.means .paste)
    (hkey : p.means .cut ∨ p.isPlainDeletion) (hremoves : e.Removes p.key before gone after)
    (htypable : f.typable (before ++ after)) :
    (f.pressKey e p).edit = (LineEdit.ofText (before ++ after)).moveCursor before.length ∧
      (f.pressKey e p).refusals = [] := by
  have hplatform : (e.platformKey p).edit =
      (LineEdit.ofText (before ++ after)).moveCursor before.length := by
    rw [LineEdit.platformKey_eq_deleteByKey hdefault hkey]
    exact LineEdit.edit_deleteByKey_of_removes hremoves
  rw [← hplatform]
  by_cases hforesees : e.Foresees p
  · exact f.pressKey_of_foresees hplain hpaste hforesees ⟨before, gone, after, hremoves, rfl⟩
      htypable
  · -- A cut with nothing selected is not foreseen, so it is looked at afterwards.
    have hcut : p.means .cut := by
      by_contra hno
      exact hforesees ⟨hkey, fun hmeans => absurd hmeans hno⟩
    have hnone : deletionResult? e p = none :=
      Option.eq_none_iff_forall_ne_some.mpr fun t ht =>
        hforesees (LineEdit.foresees_of_deletionResult? ht)
    rw [pressKey, if_neg hpaste, hnone]
    simp only [typedChar?_eq_none_of_means hcut]
    refine f.forward_of_typable e p ?_
    rw [hplatform]
    exact htypable

/-- The text that a guard worked out for a deletion, and asked about, is the text
    that the deletion leaves: the one without the selection, or with nothing selected
    without the character beside the cursor. That is so if all that stands before counts
    as one, and it is so whenever the text can be typed. It is what the input holds
    afterwards if it can be typed, and what the refusal tells of otherwise. -/
theorem deletion_leaves_checked (f : Field) (e : LineEdit) (p : KeyPress) (t : Text)
    (hdefault : p.platformEdit = none) :
    (p.counting.Plain (e.text.take e.insertStart) →
        (deletionResult? e p = some t ↔ e.Foresees p ∧ e.Deletes p.key t)) ∧
      (deletionResult? e p = some t →
        (p.counting.Plain (e.text.take e.insertStart) ∨ f.typable t →
          (e.platformKey p).edit.text = t) ∧
          (¬p.means .paste →
            (f.typable t → (f.pressKey e p).edit.text = t ∧ (f.pressKey e p).refusals = []) ∧
            (¬f.typable t → (f.pressKey e p).edit = e ∧ (f.pressKey e p).refusals = [t]))) := by
  refine ⟨e.deletionResult?_eq_some_iff p t, fun h => ?_⟩
  have hleft : p.counting.Plain (e.text.take e.insertStart) ∨ f.typable t →
      (e.platformKey p).edit.text = t := by
    intro hplain
    have hforesees := LineEdit.foresees_of_deletionResult? h
    rw [LineEdit.platformKey_eq_deleteByKey hdefault hforesees.1]
    exact e.text_deleteByKey_of_deletionResult? p t h
      (hplain.imp_right (f.plain_of_typable p.counting t))
  refine ⟨hleft, fun hpaste => ?_⟩
  rw [f.pressKey_of_deletionResult? hpaste h]
  refine ⟨fun htypable => ?_, f.deleteChecked_of_not_typable e p t⟩
  have hdone := f.deleteChecked_of_typable e p t htypable
  rw [hdone.1]
  exact ⟨hleft (.inr htypable), hdone.2⟩

/-- The digit in front of a zero is not let go, though the platform would take it,
    and it goes together with the zero. -/
theorem deletion_leaves_checked_documentNumber :
    ∃ e : LineEdit, e.text = ['7', '0', '5'] ∧ e.cursor = 1 ∧
      (∃ p : KeyPress, p.key = .backspace ∧ p.counting = .units ∧ p.platformEdit = none ∧
        p.counting.Plain (e.text.take e.insertStart) ∧
        deletionResult? e p = some ['0', '5'] ∧
        (e.platformKey p).edit.text = ['0', '5'] ∧
        (documentNumber.pressKey e p).edit = e ∧
        (documentNumber.pressKey e p).refusals = [['0', '5']]) ∧
      ({ shortcut := some .cut } : KeyPress).platformEdit = none ∧
        deletionResult? (e.select 0 2) { shortcut := some .cut } = some ['5'] ∧
        (documentNumber.pressKey (e.select 0 2) { shortcut := some .cut }).edit.text = ['5'] := by
  let e := (LineEdit.ofText ['7', '0', '5']).moveCursor 1
  let p : KeyPress := { key := .backspace, counting := .units }
  have hplain : p.counting.Plain (e.text.take e.insertStart) :=
    List.forall_mem_singleton.mpr rfl
  have hrefused := (documentNumber.deletion_leaves_checked e p ['0', '5'] rfl).2 rfl
  have hdone := (documentNumber.deletion_leaves_checked (e.select 0 2)
    { shortcut := some .cut } ['5'] rfl).2 rfl
  have hkept := (hrefused.2 (by decide)).2 (by decide)
  exact ⟨e, rfl, rfl, ⟨p, rfl, rfl, rfl, hplain, rfl, hrefused.1 (.inl hplain), hkept.1, hkept.2⟩,
    rfl, rfl, ((hdone.2 (by decide)).1 (by decide)).1⟩

/-- A wide character that the program put behind a letter, and a platform that counts
    units. What the guard works out for the backspace key is the text with nothing
    deleted, so it refuses; the platform would have left the letter, which can be typed. -/
theorem deletion_leaves_other :
    ∃ (e : LineEdit) (p : KeyPress), e.text = ['a', '😀'] ∧ e.cursor = 2 ∧
      p.IsBackspace ∧ p.counting = .units ∧ e.toldPlace p.counting = 3 ∧
      deletionResult? e p = some ['a', '😀'] ∧
      (e.platformKey p).edit.text = ['a'] ∧ name.typable ['a'] ∧
      (name.pressKey e p).edit = e ∧ (name.pressKey e p).refusals = [['a', '😀']] := by
  let e := LineEdit.ofText ['a', '😀']
  let p : KeyPress := { key := .backspace, counting := .units }
  exact ⟨e, p, rfl, rfl, ⟨rfl, by decide, by decide, rfl⟩, rfl, by decide, by decide, by decide,
    by decide, rfl, by decide⟩

/-! ### Backspaces -/

theorem refusals_actEach_cons (f : Field) (e : LineEdit) (a : Action) (rest : List Action) :
    (f.actEach e (a :: rest)).refusals =
      (f.act e a).1.refusals ++ (f.actEach (f.act e a).1.edit rest).refusals :=
  List.filterMap_append

/-- A backspace at the end of what can be typed takes its last character. -/
theorem act_backspace (f : Field) (v : Text) (c : Char) (p : KeyPress) (hp : p.IsBackspace)
    (hv : f.typable (v ++ [c])) :
    (f.act (.ofText (v ++ [c])) (.press p)).1.edit = .ofText v ∧
      (f.act (.ofText (v ++ [c])) (.press p)).1.refusals = [] := by
  have hremoves : (LineEdit.ofText (v ++ [c])).Removes p.key v [c] [] := by
    rw [hp.key]
    refine .backward c rfl (List.append_nil _).symm ?_
    exact List.length_append
  have htypable : f.typable (v ++ []) := by
    rw [List.append_nil]
    exact f.typable_of_append v [c] hv
  have hplain := f.plain_before_of_typable p.counting (.ofText (v ++ [c])) hv
  have hpressed := f.pressKey_of_removes hplain hp.no_platformEdit hp.no_paste
    (Or.inr hp.plain) hremoves htypable
  rw [List.append_nil] at hpressed
  refine ⟨hpressed.1.trans ?_, hpressed.2⟩
  exact (LineEdit.ofText v).toEnd_eq_ofText v rfl

/-- Backspaces at the end of what can be typed take as many characters off it as
    there are keys. -/
theorem actEach_backspaces (f : Field) (ps : List KeyPress) (v : Text)
    (hps : ∀ p ∈ ps, p.IsBackspace) (hlength : ps.length ≤ v.length) (hv : f.typable v) :
    (f.actEach (.ofText v) (ps.map .press)).edit = .ofText (v.take (v.length - ps.length)) ∧
      (f.actEach (.ofText v) (ps.map .press)).refusals = [] := by
  induction ps generalizing v with
  | nil =>
      refine ⟨?_, rfl⟩
      rw [List.length_nil, Nat.sub_zero, List.take_length]
      rfl
  | cons p rest ih =>
      rw [List.forall_mem_cons] at hps
      rcases List.eq_nil_or_concat' v with rfl | ⟨u, c, rfl⟩
      · cases hlength
      · -- The first key takes the last character, and the others find what is left.
        have hu := f.typable_of_append u [c] hv
        have hfirst := f.act_backspace u c p hps.1 hv
        rw [List.length_cons, List.length_append, List.length_singleton] at hlength ⊢
        have hrest := ih u hps.2 (Nat.le_of_succ_le_succ hlength) hu
        rw [List.map_cons, Nat.add_sub_add_right, List.take_append_of_le_length (Nat.sub_le _ _),
          refusals_actEach_cons, hfirst.1, hfirst.2, hrest.2]
        refine ⟨?_, rfl⟩
        change (f.actEach (f.act _ (.press p)).1.edit (rest.map .press)).edit = _
        rw [hfirst.1]
        exact hrest.1

/-- A deletion that reaches the end of what can be typed is never refused, whatever
    the platform makes of it, and where the platform deletes it leaves the first of the
    pieces. So backspaces at the end empty a field: after any number of them what is
    left is a beginning of the text that can be typed, and none of them is refused. -/
theorem end_deletable (f : Field) (e : LineEdit) (he : f.typable e.text) :
    (∀ p before gone, ¬p.means .paste → e.Removes p.key before gone [] →
        (e.Foresees p → (f.pressKey e p).refusals = []) ∧
          (p.platformEdit = none → p.means .cut ∨ p.isPlainDeletion →
            (f.pressKey e p).refusals = [] ∧ (f.pressKey e p).edit.text = before)) ∧
      (e.cursor = e.text.length → e.selection = none →
        ∀ ps : List KeyPress, (∀ p ∈ ps, p.IsBackspace) → ps.length ≤ e.text.length →
          (f.actEach e (ps.map .press)).edit = .ofText (e.text.take (e.text.length - ps.length)) ∧
            f.typable (e.text.take (e.text.length - ps.length)) ∧
            (f.actEach e (ps.map .press)).refusals = [] ∧
            (ps.length = e.text.length → (f.actEach e (ps.map .press)).edit = .empty)) := by
  constructor
  · intro p before gone hpaste hremoves
    have htext := LineEdit.text_eq_of_removes hremoves
    rw [List.append_nil] at htext
    -- Nothing stands behind what goes, so what stays is on the way to the text.
    have hbefore : f.typable (before ++ []) := by
      rw [List.append_nil]
      exact f.typable_of_append before gone (htext ▸ he)
    have hplain := f.plain_before_of_typable p.counting e he
    refine ⟨fun hforesees => ?_, fun hdefault hkey => ?_⟩
    · exact (f.pressKey_of_foresees hplain hpaste hforesees ⟨_, _, _, hremoves, rfl⟩ hbefore).2
    · have hpressed := f.pressKey_of_removes hplain hdefault hpaste hkey hremoves hbefore
      rw [List.append_nil] at hpressed
      exact ⟨hpressed.2, congrArg LineEdit.text hpressed.1⟩
  · intro hcursor hselection ps hps hlength
    have hpressed := f.actEach_backspaces ps e.text hps hlength he
    rw [← LineEdit.eq_ofText hcursor hselection] at hpressed
    refine ⟨hpressed.1, ?_, hpressed.2, fun hall => ?_⟩
    · refine f.typable_of_append _ (e.text.drop (e.text.length - ps.length)) ?_
      rwa [List.take_append_drop]
    · rw [hpressed.1, hall, Nat.sub_self, List.take_zero]
      rfl

/-- A username with two separators in a row. What is behind its first letter can be
    cut out, and backspaces empty it, by way of values that end in a separator. -/
theorem end_deletable_username :
    ∃ (e : LineEdit) (backspace : KeyPress), e.text = ['a', '.', '_', 'b'] ∧
      backspace.IsBackspace ∧ username.typable e.text ∧
      (username.pressKey (e.select 1 3) { shortcut := some .cut }).edit.text = ['a'] ∧
      (username.pressKey (e.select 1 3) { shortcut := some .cut }).refusals = [] ∧
      (username.actEach e ([backspace, backspace].map .press)).edit = .ofText ['a', '.'] ∧
      (username.actEach e ((List.replicate 4 backspace).map .press)).edit = .empty ∧
      (username.actEach e ((List.replicate 4 backspace).map .press)).refusals = [] := by
  let e := LineEdit.ofText ['a', '.', '_', 'b']
  have htypable : username.typable e.text := by decide
  have hselected : username.typable (e.select 1 3).text := by decide
  have hcut := ((username.end_deletable (e.select 1 3) hselected).1 { shortcut := some .cut } ['a']
    ['.', '_', 'b'] (by decide) (.selected ⟨1, 4⟩ rfl rfl rfl rfl)).2 rfl (Or.inl rfl)
  let backspace : KeyPress := { key := .backspace }
  have hkey : backspace.IsBackspace := ⟨rfl, by decide, by decide, rfl⟩
  have hall : ∀ ps : List KeyPress, (∀ p ∈ ps, p = backspace) → ∀ p ∈ ps, p.IsBackspace :=
    fun ps hps p hp => hps p hp ▸ hkey
  have hbackspaces := (username.end_deletable e htypable).2 rfl rfl
  have htwo := hbackspaces [backspace, backspace] (hall _ (by decide)) (by decide)
  have hfour := hbackspaces (List.replicate 4 backspace) (hall _ (by decide)) (by decide)
  exact ⟨e, backspace, rfl, hkey, htypable, hcut.2, hcut.1, htwo.1, hfour.2.2.2 rfl,
    hfour.2.2.1⟩

end Field

end ManagerSignup
