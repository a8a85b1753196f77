import ManagerSignup.Proofs.Revising

/-!
# Typing Blindly

A text is typed into an empty field by somebody who does not look at what is
refused. What of it is kept?

Whether a character is kept depends on all that was kept before it and on nothing
that was refused, so what is kept is found by going along the text with the value so
far. At every moment it is a value that can be typed, since each key that is taken
adds to one. That alone settles what a second run over the kept characters does: none
of them is refused, and they are kept again.

A beginning of the text that can be typed is kept whole, because what is on the way to
it can be typed too, and what is kept later only comes behind it. So nothing is lost
before the longest of these beginnings ends, and a text is kept as it is exactly if it
can be typed.

## Main definitions

* `Field.kept`: What a value becomes when a text is typed behind it, character by
  character.
* `Field.LongestTypable`: The longest beginning of a text that can be typed.

## Theorems

* `Field.kept_cons`: The first character is kept or dropped.
* `Field.kept_of_typable`: Nothing is dropped on the way to a value that can be typed.
* `Field.exists_sublist_kept`: What is kept is some of the characters, in their order.
* `Field.text_typeEach`: A guarded input keeps the same.
* `Field.exists_longestTypable`: There is a longest beginning that can be typed.
* `Field.kept_nil_laws`: What an empty field keeps.
-/

namespace ManagerSignup

namespace Field

/-- What a value becomes when the characters of a text are typed behind it, one after
    the other, and those that are refused are dropped. -/
def kept (f : Field) (value t : Text) : Text :=
  f.reviseAll value (t.map fun c => .insert (.keystroke [c]))

/-- The longest beginning of a text that can be typed. -/
structure LongestTypable (f : Field) (t p : Text) : Prop where
  begins : p <+: t
  typable : f.typable p
  longest : ∀ q, q <+: t → f.typable q → q.length ≤ p.length

/-- A character is kept if it may be typed there, and dropped otherwise. -/
theorem revised_keystroke (f : Field) (value : Text) (c : Char) :
    f.revised value (.insert (.keystroke [c])) =
      if f.accepts value c then value ++ [c] else value := by
  have htyped : f.revise value (.insert (.keystroke [c])) = f.typeChar value c := rfl
  rw [revised, htyped]
  by_cases haccepts : f.accepts value c
  · rw [if_pos haccepts, (f.typeChar_eq_ok_iff value c _).mpr ⟨haccepts, rfl⟩]
  · rw [if_neg haccepts]
    cases hresult : f.typeChar value c with
    | ok w => exact absurd ((f.typeChar_eq_ok_iff value c w).mp hresult).1 haccepts
    | error r => rfl

theorem kept_cons (f : Field) (value : Text) (c : Char) (rest : Text) :
    f.kept value (c :: rest) = f.kept (if f.accepts value c then value ++ [c] else value) rest := by
  rw [← revised_keystroke]
  rfl

theorem kept_append (f : Field) (value s t : Text) :
    f.kept value (s ++ t) = f.kept (f.kept value s) t := by
  rw [kept, List.map_append, reviseAll, List.foldl_append]
  rfl

theorem typable_kept (f : Field) (value t : Text) (hv : f.typable value) :
    f.typable (f.kept value t) :=
  f.typable_reviseAll _ value hv

/-- Nothing is dropped on the way to a value that can be typed. -/
theorem kept_of_typable (f : Field) (value t : Text) (h : f.typable (value ++ t)) :
    f.kept value t = value ++ t := by
  induction t generalizing value with
  | nil => exact (List.append_nil value).symm
  | cons c rest ih =>
      -- The value with the first character is on the way to the whole, so it is taken.
      rw [List.append_cons] at h ⊢
      have hc := f.typable_of_append (value ++ [c]) rest h
      rw [kept_cons, if_pos ((f.typable_append_singleton value c).mp hc).2]
      exact ih (value ++ [c]) h

/-- What is kept is what was there and some of the characters, in their order. -/
theorem exists_sublist_kept (f : Field) (value t : Text) :
    ∃ s : Text, s.Sublist t ∧ f.kept value t = value ++ s := by
  induction t generalizing value with
  | nil => exact ⟨[], List.Sublist.refl [], (List.append_nil value).symm⟩
  | cons c rest ih =>
      rw [kept_cons]
      split
      · rcases ih (value ++ [c]) with ⟨s, hs, hkept⟩
        refine ⟨c :: s, hs.cons_cons c, ?_⟩
        rw [hkept, List.append_assoc, List.singleton_append]
      · rcases ih value with ⟨s, hs, hkept⟩
        exact ⟨s, hs.cons c, hkept⟩

/-- A beginning that can be typed is kept whole, whatever comes behind it. -/
theorem begins_kept (f : Field) (t p : Text) (hp : p <+: t) (htypable : f.typable p) :
    p <+: f.kept [] t := by
  rcases hp with ⟨rest, rfl⟩
  have hfirst : f.kept [] p = p := f.kept_of_typable [] p htypable
  rcases f.exists_sublist_kept p rest with ⟨s, -, hkept⟩
  rw [kept_append, hfirst, hkept]
  exact List.prefix_append p s

/-- A text is kept as it is if it can be typed, and only then. -/
theorem kept_eq_self_iff (f : Field) (t : Text) : f.kept [] t = t ↔ f.typable t := by
  constructor
  · intro h
    rw [← h]
    exact f.typable_kept [] t f.typable_nil
  · exact f.kept_of_typable [] t

/-- Of the beginnings of a text that can be typed one is the longest. -/
theorem exists_longestTypable (f : Field) (t : Text) : ∃ p, f.LongestTypable t p := by
  induction t using List.reverseRecOn with
  | nil =>
      refine ⟨[], List.prefix_refl [], f.typable_nil, fun q hq _ => ?_⟩
      exact hq.length_le
  | append_singleton s c ih =>
      by_cases hwhole : f.typable (s ++ [c])
      · exact ⟨s ++ [c], List.prefix_refl _, hwhole, fun q hq _ => hq.length_le⟩
      · -- The whole text is no candidate, so the candidates are those of the shorter one.
        rcases ih with ⟨p, hp⟩
        refine ⟨p, hp.begins.trans (List.prefix_append s [c]), hp.typable, fun q hq hqt => ?_⟩
        rcases List.prefix_concat_iff.mp hq with rfl | hshort
        · exact absurd hqt hwhole
        · exact hp.longest q hshort hqt

/-- What is typed into a guarded input is a step in the making of its text. -/
theorem text_insertText (f : Field) (e : LineEdit) (t : Text) :
    (f.insertText e t).edit.text = f.revised e.text (.insert (.keystroke t)) := by
  have htyped : f.revise e.text (.insert (.keystroke t)) = f.typeText e.text t := rfl
  rw [insertText, revised, htyped]
  cases f.typeText e.text t with
  | ok w => exact e.text_replaceAll w
  | error r => rfl

/-- A guarded input whose user types blindly keeps the same. -/
theorem text_typeEach (f : Field) (e : LineEdit) (t : Text) :
    (f.typeEach e t).1.edit.text = f.kept e.text t := by
  induction t generalizing e with
  | nil => rfl
  | cons c rest ih =>
      have hrest := ih (f.insertText e [c]).edit
      rw [text_insertText] at hrest
      exact hrest

/-- What an empty field keeps of a text that is typed into it blindly can be typed, is
    some of its characters in their order, begins with the longest beginning of the
    text that can be typed, is the text itself exactly if that can be typed, and is kept
    when it is typed in its turn. A guarded input keeps the same. -/
theorem kept_nil_laws (f : Field) (t : Text) :
    f.typable (f.kept [] t) ∧
      (f.kept [] t).Sublist t ∧
      ((∃ p, f.LongestTypable t p) ∧ ∀ p, f.LongestTypable t p → p <+: f.kept [] t) ∧
      (f.kept [] t = t ↔ f.typable t) ∧
      f.kept [] (f.kept [] t) = f.kept [] t ∧
      (f.typeEach .empty t).1.edit.text = f.kept [] t := by
  have htypable := f.typable_kept [] t f.typable_nil
  refine ⟨htypable, ?_, ⟨f.exists_longestTypable t, fun p hp => ?_⟩, f.kept_eq_self_iff t, ?_,
    f.text_typeEach .empty t⟩
  · rcases f.exists_sublist_kept [] t with ⟨s, hs, hkept⟩
    rwa [hkept]
  · exact f.begins_kept t p hp.begins hp.typable
  · exact (f.kept_eq_self_iff _).mpr htypable

/-- The first dot and the second of two are dropped, and what is left of the separators
    depends on what was dropped before. -/
example :
    username.kept [] ['.', 'a', '.', '.', '_', ' ', '_', 'b'] = ['a', '.', '_', 'b'] := by
  decide

end Field

end ManagerSignup
