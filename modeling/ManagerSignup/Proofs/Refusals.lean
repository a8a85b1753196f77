import ManagerSignup.Proofs.Guarding

/-!
# What a Refusal Leaves

A guard that says no says so once and leaves the input as it was.

Here nothing is known of the text. It may have been set by the program and may be
one that nobody could type, so there is no invariant to rely on, and what is said
of one action is all there is to say. Three routes decide before they act. What they
refuse was never done, and the input is the one from before, down to its selection.
The fourth lets the platform act first. Its refusal undoes what was done by putting
the old text back and moving the cursor to where it stood, and this is where a
selection is lost.

The other half is about what is not refused. A text that changed without a refusal
was decided by someone, and there are three who could have: the grammar, which took
what was inserted; the guard, which worked out what a deletion would leave; and the
platform, whose result was looked at afterwards. The last two answer for a text as
a whole, so it can be typed even if the text before it could not. The first answers
for what is inserted and for nothing that stood there before.

## Main definitions

* `Reaction.refusals`: What was refused.
* `Action.IsAttempt`: An action that a guard decides about.
* `Field.Inserts`: What a grammar makes of an action that inserts.
* `Field.Decided`: A text that somebody decided about.
* `Field.Fair`: What a guard owes to whoever attempts something.

## Theorems

* `Field.fair_of_inserts`, `Field.fair_of_refused`: Decided before anything was done.
* `Field.deleteChecked_of_typable`, `Field.deleteChecked_of_not_typable`,
  `Field.forward_of_typable`: When a deletion is let through, and when a key is not undone.
* `Field.fair_deleteChecked`, `Field.fair_forward`: The two routes that involve the
  platform.
* `Field.fair_pressKey`: A key, by whichever route it goes.
* `Field.fair_act`: Every attempt.
-/

namespace ManagerSignup

/-- What an effect tells was refused. -/
def Effect.refused? : Effect → Option Text
  | .refused t => some t
  | _ => none

/-- What was refused, in order. -/
def Reaction.refusals (r : Reaction) : List Text :=
  r.effects.filterMap Effect.refused?

/-- An action that a guard decides about: a key, a commit of some text, and text
    that is typed or pasted. -/
def Action.IsAttempt : Action → Prop
  | .press _ => True
  | .commit t _ => t ≠ []
  | .insertText _ => True
  | .paste _ => True
  | _ => False

/-- Changes are no refusals. -/
theorem filterMap_refused?_changed (ts : List Text) :
    (ts.map Effect.changed).filterMap Effect.refused? = [] := by
  rw [List.filterMap_map, List.filterMap_eq_nil_iff]
  exact fun _ _ => rfl

theorem Edited.refusals_reaction (e : Edited) : e.reaction.refusals = [] :=
  filterMap_refused?_changed e.announced

namespace Field

variable {f : Field} {e : LineEdit} {a : Action}

/-- The grammar takes what an action inserts, and this is the value it makes of
    it. -/
inductive Inserts (f : Field) (e : LineEdit) : Action → Text → Prop where
  | typed (t w : Text) : f.typeText e.text t = .ok w → Inserts f e (.insertText t) w
  | pasted (t w : Text) : f.paste e.text t = .ok w → Inserts f e (.paste t) w
  | committed (t w : Text) (left : Option PlatformEdit) :
      f.typeAll e.text t = .ok w → Inserts f e (.commit t left) w
  | pressedPaste (p : KeyPress) (w : Text) :
      p.means .paste → f.paste e.text p.clipboard = .ok w → Inserts f e (.press p) w
  | pressedChar (p : KeyPress) (c : Char) (w : Text) :
      deletionResult? e p = none → typedChar? p = some c → f.typeText e.text [c] = .ok w →
        Inserts f e (.press p) w

/-- A text that somebody decided about before an action left it. -/
inductive Decided (f : Field) (e : LineEdit) (a : Action) (w : Text) : Prop where
  /-- The grammar took what was inserted. -/
  | inserted (h : f.Inserts e a w)
  /-- The guard worked out what a deletion would leave. -/
  | deleted (p : KeyPress) (ha : a = .press p) (h : deletionResult? e p = some w)
      (htypable : f.typable w)
  /-- The platform left it, and it was looked at afterwards. -/
  | foreign (p : KeyPress) (ha : a = .press p) (hdeletes : deletionResult? e p = none)
      (h : (e.platformKey p).edit.text = w) (htypable : f.typable w)

/-- What a guard owes to whoever attempts something. -/
structure Fair (f : Field) (e : LineEdit) (a : Action) (r : Reaction) : Prop where
  /-- It refuses once at most. -/
  once : r.refusals.length ≤ 1
  /-- A refusal leaves the text. -/
  text : r.refusals ≠ [] → r.edit.text = e.text
  /-- A refusal leaves the cursor. -/
  cursor : r.refusals ≠ [] → r.edit.cursor = e.cursor
  /-- A refusal leaves the selection, unless it undoes what the platform did. -/
  selection : r.refusals ≠ [] → .platform ∉ r.effects → r.edit.selection = e.selection
  /-- A text that changed without a refusal was decided about. -/
  decided : r.refusals = [] → r.edit.text ≠ e.text → f.Decided e a r.edit.text

/-- Where nothing is refused there is only the new text to answer for. -/
theorem fair_of_refusals_eq_nil {r : Reaction} (hnone : r.refusals = [])
    (h : r.edit.text ≠ e.text → f.Decided e a r.edit.text) : f.Fair e a r where
  once := by rw [hnone]; exact Nat.zero_le 1
  text := fun hsome => absurd hnone hsome
  cursor := fun hsome => absurd hnone hsome
  selection := fun hsome => absurd hnone hsome
  decided := fun _ => h

/-- What the grammar took replaces the text. -/
theorem fair_of_inserts {w : Text} (h : f.Inserts e a w) :
    f.Fair e a (e.replaceAll w).reaction := by
  refine fair_of_refusals_eq_nil (Edited.refusals_reaction _) fun _ => ?_
  change f.Decided e a (e.replaceAll w).edit.text
  rw [LineEdit.text_replaceAll]
  exact .inserted h

/-- What is refused before anything was done leaves the input alone. -/
theorem fair_of_refused {r : Reaction} {t : Text} (hedit : r.edit = e)
    (hrefused : r.refusals = [t]) : f.Fair e a r where
  once := by rw [hrefused]; exact Nat.le_refl 1
  text := fun _ => congrArg LineEdit.text hedit
  cursor := fun _ => congrArg LineEdit.cursor hedit
  selection := fun _ _ => congrArg LineEdit.selection hedit
  decided := fun hnone => absurd (hrefused.symm.trans hnone) (List.cons_ne_nil t [])

/-- What is refused after the platform did it is undone. -/
theorem fair_of_undone {r : Reaction} {t : Text} (htext : r.edit.text = e.text)
    (hcursor : r.edit.cursor = e.cursor) (hplatform : .platform ∈ r.effects)
    (hrefused : r.refusals = [t]) : f.Fair e a r where
  once := by rw [hrefused]; exact Nat.le_refl 1
  text := fun _ => htext
  cursor := fun _ => hcursor
  selection := fun _ hbefore => absurd hplatform hbefore
  decided := fun hnone => absurd (hrefused.symm.trans hnone) (List.cons_ne_nil t [])

/-- Doing what the grammar decided about an insertion. -/
theorem fair_apply {proposed : Text} {result : Except Rejection Text}
    (h : ∀ w, result = .ok w → f.Inserts e a w) : f.Fair e a (f.apply e proposed result) := by
  cases result with
  | ok w => exact fair_of_inserts (h w rfl)
  | error r => exact fair_of_refused rfl rfl

/-- A commit is decided as a whole. -/
theorem fair_commit {t : Text} (ht : t ≠ []) (left : Option PlatformEdit) :
    f.Fair e (.commit t left) (f.commit e t left) := by
  unfold commit
  rw [if_neg (mt List.isEmpty_iff.mp ht)]
  cases htyped : f.typeAll e.text t with
  | ok w => exact fair_of_inserts (.committed t w left htyped)
  | error r => exact fair_of_refused rfl rfl

/-- A deletion that would leave what can be typed is the platform's to do. -/
theorem deleteChecked_of_typable (f : Field) (e : LineEdit) (p : KeyPress) (remaining : Text)
    (h : f.typable remaining) :
    (f.deleteChecked e p remaining).edit = (e.platformKey p).edit ∧
      (f.deleteChecked e p remaining).refusals = [] := by
  unfold deleteChecked
  rw [(f.obstacle?_eq_none_iff remaining).mpr h]
  exact ⟨rfl, filterMap_refused?_changed _⟩

/-- Any other deletion is refused before it is done. -/
theorem deleteChecked_of_not_typable (f : Field) (e : LineEdit) (p : KeyPress) (remaining : Text)
    (h : ¬f.typable remaining) :
    (f.deleteChecked e p remaining).edit = e ∧
      (f.deleteChecked e p remaining).refusals = [remaining] := by
  unfold deleteChecked
  cases hobstacle : f.obstacle? remaining with
  | none => exact absurd ((f.obstacle?_eq_none_iff remaining).mp hobstacle) h
  | some r => exact ⟨rfl, rfl⟩

/-- What the platform did with a key is kept if it left what can be typed. -/
theorem forward_of_typable (f : Field) (e : LineEdit) (p : KeyPress)
    (h : f.typable (e.platformKey p).edit.text) :
    (f.forward e p).edit = (e.platformKey p).edit ∧ (f.forward e p).refusals = [] := by
  unfold forward
  simp only
  rw [(f.obstacle?_eq_none_iff _).mpr h]
  split <;> exact ⟨rfl, filterMap_refused?_changed _⟩

/-- The platform deletes what the guard let it delete. -/
theorem fair_deleteChecked {p : KeyPress} {remaining : Text}
    (hremaining : deletionResult? e p = some remaining) (hp : f.PlatformDeletes e p) :
    f.Fair e (.press p) (f.deleteChecked e p remaining) := by
  by_cases htypable : f.typable remaining
  · -- What can be typed was worked out at the true place, so it is what is left.
    have hdone := f.deleteChecked_of_typable e p remaining htypable
    refine fair_of_refusals_eq_nil hdone.2 fun _ => ?_
    rw [hdone.1, f.text_platformKey_of_platformDeletes hp hremaining htypable]
    exact .deleted p rfl hremaining htypable
  · have hrefused := f.deleteChecked_of_not_typable e p remaining htypable
    exact fair_of_refused hrefused.1 hrefused.2

/-- What the platform did is kept if it can be typed, and undone otherwise. -/
theorem fair_forward {p : KeyPress} (hremaining : deletionResult? e p = none) :
    f.Fair e (.press p) (f.forward e p) := by
  unfold forward
  simp only
  split
  · next hsame =>
    exact fair_of_refusals_eq_nil (filterMap_refused?_changed _) fun hchanged =>
      absurd hsame hchanged
  · cases hobstacle : f.obstacle? (e.platformKey p).edit.text with
    | none =>
        have htypable := (f.obstacle?_eq_none_iff _).mp hobstacle
        exact fair_of_refusals_eq_nil (filterMap_refused?_changed _) fun _ =>
          .foreign p rfl hremaining rfl htypable
    | some r =>
        -- Putting the old text back announces it, and announcing refuses nothing.
        refine fair_of_undone (t := (e.platformKey p).edit.text) ?_ ?_ (List.mem_cons_self ..) ?_
        · simp only [LineEdit.text_moveCursor, LineEdit.text_replaceAll]
        · refine LineEdit.cursor_moveCursor_self _ e.cursor ?_
          rw [LineEdit.text_replaceAll]
          exact e.cursor_le
        · simp only [Reaction.refusals, veto, List.cons_append, List.filterMap_cons,
            List.filterMap_append, List.filterMap_nil, filterMap_refused?_changed,
            Effect.refused?, List.nil_append, List.append_nil]

/-- A key is a paste, a deletion, a typed character, or the platform's. -/
theorem fair_pressKey {p : KeyPress} (hp : f.PlatformDeletes e p) :
    f.Fair e (.press p) (f.pressKey e p) := by
  unfold pressKey
  split
  · next hpaste => exact fair_apply fun w hw => .pressedPaste p w hpaste hw
  · cases hremaining : deletionResult? e p with
    | some remaining => exact fair_deleteChecked hremaining hp
    | none =>
        cases hchar : typedChar? p with
        | some c => exact fair_apply fun w hw => .pressedChar p c w hremaining hchar hw
        | none => exact fair_forward hremaining

/-- Whatever an input holds and whatever is attempted, a guard refuses once at most,
    and a refusal leaves the text and the cursor, and the selection unless it undoes
    what the platform did. What changes without a refusal was decided about. -/
theorem fair_act (f : Field) (e : LineEdit) (a : Action) (ha : a.IsAttempt)
    (hp : f.Honours e a) : f.Fair e a (f.act e a).1 := by
  cases a with
  | press p => exact fair_pressKey hp
  | commit t left => exact fair_commit ha left
  | insertText t => exact fair_apply fun w hw => .typed t w hw
  | paste t => exact fair_apply fun w hw => .pasted t w hw
  | typeEach t => cases ha
  | setText t => cases ha
  | moveCursor position => cases ha
  | select start length => cases ha
  | finish => cases ha

/-- A name that the program set holds a digit. A key of the platform would leave
    another one, so what it did is undone: the text is back and the cursor behind its
    first character, which is selected no longer. -/
theorem fair_act_undone :
    ∃ e : LineEdit, e.text = ['a', '1'] ∧ e.selection = some ⟨0, 1⟩ ∧
      ∃ p : KeyPress, (Action.press p).IsAttempt ∧ name.Honours e (.press p) ∧
        (name.act e (.press p)).1.refusals = [['b', '2']] ∧
        name.Fair e (.press p) (name.act e (.press p)).1 ∧
        (name.act e (.press p)).1.edit.selection = none := by
  have hhonours := platformDeletes_of_deletionResult?_eq_none name
    ((LineEdit.ofText ['a', '1']).select 0 1) { platformEdit := some ⟨['b', '2'], none⟩ } rfl
  exact ⟨_, rfl, by decide, _, trivial, hhonours, by decide,
    fair_act _ _ (.press _) trivial hhonours, by decide⟩

/-- A wide character that the program put behind a letter, and a platform that has one
    half of it selected: a single unit behind the first. The guard is told the same as if
    it were the whole character, works out that the letter is left and lets the key pass.
    The platform takes the half that was selected and leaves the other, which is no text
    any more, and nothing that was decided about. -/
theorem not_fair_of_half_selected :
    ∃ (e : LineEdit) (p : KeyPress), e.text = ['a', '😀'] ∧ e.toldPlace p.counting = 1 ∧
      p.counting = .units ∧ deletionResult? e p = some ['a'] ∧ name.typable ['a'] ∧
      (∀ t, Text.units t ≠ (Text.units e.text).take 1 ++ (Text.units e.text).drop 2) ∧
      (name.act e (.press p)).1.refusals = [] ∧
      (name.act e (.press p)).1.edit.text = ['a', '\ufffd'] ∧
      ¬name.Fair e (.press p) (name.act e (.press p)).1 := by
  let e := (LineEdit.ofText ['a', '😀']).select 1 1
  let p : KeyPress :=
    { key := .backspace, counting := .units, platformEdit := some ⟨['a', '\ufffd'], none⟩ }
  have hworked : deletionResult? e p = some ['a'] := by decide
  have hleft : (name.act e (.press p)).1.edit.text = ['a', '\ufffd'] := by decide
  have hhalf : (Text.units e.text).take 1 ++ (Text.units e.text).drop 2 =
      Text.units ['a'] ++ (Text.unitsOf '😀').drop 1 ++ Text.units [] := by decide
  have hnone : ∀ t, Text.units t ≠ (Text.units e.text).take 1 ++ (Text.units e.text).drop 2 := by
    rw [hhalf]
    exact Text.units_ne_of_half ['a'] [] '😀' (by decide)
  refine ⟨e, p, by decide, by decide, rfl, hworked, by decide, hnone, by decide, hleft,
    fun hfair => ?_⟩
  have hdecided := hfair.decided (by decide) (by decide)
  rw [hleft] at hdecided
  -- A deletion that was foreseen is only decided about as one, and that leaves the letter.
  cases hdecided with
  | inserted h =>
      cases h with
      | pressedPaste _ _ hpaste => exact absurd hpaste (by decide)
      | pressedChar _ _ _ hnone =>
          rw [hworked] at hnone
          cases hnone
  | deleted p' ha h =>
      cases ha
      rw [hworked] at h
      cases h
  | foreign p' ha hnone =>
      cases ha
      rw [hworked] at hnone
      cases hnone

end Field

end ManagerSignup
