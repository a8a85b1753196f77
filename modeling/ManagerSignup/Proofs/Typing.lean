import ManagerSignup.Field.Insertion
import Mathlib.Data.List.Chain
import Mathlib.Data.List.Induction

/-!
# Typing from an Empty Field

Which values can be typed, seen from the end of the value.

`typable` feeds a value to a field from the left and stops at the first key that
is refused. Every question about it is easier from the right, where a value is
one that was typed before and a key that was taken then. `typable_append_singleton`
is that reading, and it is the only lemma that looks at how keys are fed; the
rest of the theory of typing is induction on the last character.

Two things follow for all fields at once. What is on the way to a value can be
typed if the value can, since nothing that is typed later undoes an earlier
refusal. And going on from a value that can be typed is the same as typing the
whole from the start, which is what an input method relies on.

The words a field lets through are then read off one grammar at a time. A name
is letter by letter. A username is the interesting one: the grammar looks at the
last two characters only, and `hasDoubled_append_singleton` says why that rules
out a doubled separator anywhere. The other three are a first character, digits,
and a length.

## Main definitions

* `Field.accepts`: A character may be typed behind a value.

## Theorems

* `Field.typeChar_eq_ok_iff`: When a key is taken, and what it leaves.
* `Field.typeAll_cons_eq_ok_iff`: When several keys are taken, by the first of them.
* `Field.typeAll_eq_ok`: Typing several keys only adds them.
* `Field.typable_iff_typeAll`: A value can be typed if all its keys are taken.
* `Field.typable_append_singleton`: The last key of a value.
* `Field.typable_of_append`: The way to a value that can be typed.
* `Field.typeAll_eq_ok_iff`: Going on from a value that can be typed.
* `hasDoubled_eq_false_iff`, `hasAdjacentSeparators_eq_false_iff`: Runs of
  separators as chains.
* `Field.typable_name_iff`, `Field.typable_username_iff`,
  `Field.typable_documentNumber_iff`, `Field.typable_dialCode_iff`,
  `Field.typable_phoneNumber_iff`: The words of each field.
-/

namespace ManagerSignup

namespace Field

/-- A character may be typed behind a value: it is admitted there, the value is
    tolerated with it, and there is still room. -/
def accepts (f : Field) (value : Text) (c : Char) : Bool :=
  f.admits value.length c && f.tolerates (value ++ [c]) &&
    f.limit.all fun limit => value.length + 1 ≤ limit

theorem typeChar_eq_ok_iff (f : Field) (value : Text) (c : Char) (w : Text) :
    f.typeChar value c = .ok w ↔ f.accepts value c ∧ w = value ++ [c] := by
  unfold typeChar accepts
  cases f.admits value.length c with
  | false => exact ⟨nofun, nofun⟩
  | true =>
      cases f.tolerates (value ++ [c]) with
      | false => exact ⟨nofun, nofun⟩
      | true =>
          cases f.limit with
          | none => exact ⟨fun h => ⟨rfl, (Except.ok.inj h).symm⟩, fun h => by rw [h.2]; rfl⟩
          | some limit =>
              -- Admitted and tolerated, so it is all about the room that is left.
              change (if limit < value.length + 1 then _ else _) = _ ↔
                decide (value.length + 1 ≤ limit) = true ∧ _
              rw [decide_eq_true_eq]
              by_cases hlong : limit < value.length + 1
              · rw [if_pos hlong]
                exact ⟨nofun, fun h => by omega⟩
              · rw [if_neg hlong, Except.ok.injEq, eq_comm]
                exact ⟨fun h => ⟨by omega, h⟩, fun h => h.2⟩

theorem typeAll_append (f : Field) (value s t : Text) :
    f.typeAll value (s ++ t) = f.typeAll value s >>= fun w => f.typeAll w t := by
  simp only [typeAll, List.foldlM_append]

theorem typeAll_singleton (f : Field) (value : Text) (c : Char) :
    f.typeAll value [c] = f.typeChar value c := by
  simp only [typeAll, List.foldlM_cons, List.foldlM_nil, bind_pure]

theorem typeAll_cons (f : Field) (v : Text) (c : Char) (rest : Text) :
    f.typeAll v (c :: rest) = f.typeChar v c >>= fun u => f.typeAll u rest :=
  List.foldlM_cons

/-- Typing several keys is typing the first and then the others. -/
theorem typeAll_cons_eq_ok_iff (f : Field) (v : Text) (c : Char) (rest w : Text) :
    f.typeAll v (c :: rest) = .ok w ↔
      ∃ u, f.typeChar v c = .ok u ∧ f.typeAll u rest = .ok w := by
  rw [typeAll_cons]
  cases f.typeChar v c with
  | error r => exact ⟨nofun, nofun⟩
  | ok u =>
      constructor
      · intro h
        exact ⟨u, rfl, h⟩
      · rintro ⟨_, hu, h⟩
        cases hu
        exact h

/-- Typing several keys only ever adds them. -/
theorem typeAll_eq_ok (f : Field) (value s w : Text) (h : f.typeAll value s = .ok w) :
    w = value ++ s := by
  induction s generalizing value with
  | nil =>
      simp only [typeAll, List.foldlM_nil, pure, Except.pure, Except.ok.injEq] at h
      rw [← h, List.append_nil]
  | cons c rest ih =>
      -- The first key is fed on its own, and the rest begins with what it leaves.
      rcases (f.typeAll_cons_eq_ok_iff value c rest w).mp h with ⟨v, hc, hrest⟩
      have hv := ((f.typeChar_eq_ok_iff value c v).mp hc).2
      rw [ih v hrest, hv, List.append_assoc, List.singleton_append]

theorem typable_iff_typeAll (f : Field) (value : Text) :
    f.typable value ↔ f.typeAll [] value = .ok value := by
  unfold typable obstacle?
  cases h : f.typeAll [] value with
  | error r => exact ⟨nofun, nofun⟩
  | ok w =>
      have hw : w = value := f.typeAll_eq_ok [] value w h
      rw [hw]
      exact ⟨fun _ => rfl, fun _ => rfl⟩

theorem typable_nil (f : Field) : f.typable [] :=
  (f.typable_iff_typeAll []).mpr rfl

/-- A value can be typed if it could be without its last character, and that
    character was taken then. -/
theorem typable_append_singleton (f : Field) (value : Text) (c : Char) :
    f.typable (value ++ [c]) ↔ f.typable value ∧ f.accepts value c := by
  rw [typable_iff_typeAll, typable_iff_typeAll, typeAll_append]
  cases h : f.typeAll [] value with
  | error r => exact ⟨nofun, nofun⟩
  | ok w =>
      -- What feeding the value leaves is the value, and one key is left to feed.
      have hw : w = value := f.typeAll_eq_ok [] value w h
      rw [hw]
      change f.typeAll value [c] = .ok (value ++ [c]) ↔ _
      rw [typeAll_singleton, typeChar_eq_ok_iff]
      exact ⟨fun h => ⟨rfl, h.1⟩, fun h => ⟨h.2, rfl⟩⟩

/-- What is on the way to a value that can be typed can be typed itself. -/
theorem typable_of_append (f : Field) (value rest : Text) (h : f.typable (value ++ rest)) :
    f.typable value := by
  induction rest using List.reverseRecOn with
  | nil => rwa [List.append_nil] at h
  | append_singleton rest c ih =>
      rw [← List.append_assoc, typable_append_singleton] at h
      exact ih h.1

/-- Going on from a value that can be typed succeeds exactly when the whole can
    be typed from the start. -/
theorem typeAll_eq_ok_iff (f : Field) (value s w : Text) (hv : f.typable value) :
    f.typeAll value s = .ok w ↔ f.typable (value ++ s) ∧ w = value ++ s := by
  have hwhole : f.typeAll [] (value ++ s) = f.typeAll value s := by
    rw [typeAll_append, (f.typable_iff_typeAll value).mp hv]
    rfl
  rw [typable_iff_typeAll, hwhole]
  constructor
  · intro h
    have hw := f.typeAll_eq_ok value s w h
    exact ⟨hw ▸ h, hw⟩
  · rintro ⟨h, rfl⟩
    exact h

end Field

/-! ### Runs of separators -/

/-- Two neighbours in a text are not one separator twice. -/
def NotDoubled (a b : Char) : Prop :=
  ¬(isSeparator a ∧ a = b)

/-- Two neighbours in a text are not both separators. -/
def NotAdjacent (a b : Char) : Prop :=
  ¬(isSeparator a ∧ isSeparator b)

/-- A scan for two bad neighbours finds none exactly when all neighbours are
    good. -/
theorem scan_eq_false_iff_isChain {scan : Text → Bool} {bad : Char → Char → Bool}
    {Good : Char → Char → Prop} (hnil : scan [] = false) (hone : ∀ a, scan [a] = false)
    (hcons : ∀ a b rest, scan (a :: b :: rest) = (bad a b || scan (b :: rest)))
    (hgood : ∀ a b, bad a b = false ↔ Good a b) (t : Text) :
    scan t = false ↔ t.IsChain Good := by
  induction t with
  | nil => simp only [hnil, List.isChain_nil]
  | cons a rest ih =>
      cases rest with
      | nil => simp only [hone, List.isChain_singleton]
      | cons b rest => rw [hcons, Bool.or_eq_false_iff, hgood, ih, List.isChain_cons_cons]

theorem hasDoubled_eq_false_iff (t : Text) :
    hasDoubled t = false ↔ t.IsChain NotDoubled :=
  scan_eq_false_iff_isChain rfl (fun _ => rfl) (fun _ _ _ => rfl)
    (fun a b => by simp [NotDoubled]) t

theorem hasAdjacentSeparators_eq_false_iff (t : Text) :
    hasAdjacentSeparators t = false ↔ t.IsChain NotAdjacent :=
  scan_eq_false_iff_isChain rfl (fun _ => rfl) (fun _ _ _ => rfl)
    (fun a b => by simp [NotAdjacent]) t

/-- A doubled separator is one of two separators in a row. -/
theorem hasDoubled_of_hasAdjacentSeparators_eq_false (t : Text)
    (h : hasAdjacentSeparators t = false) : hasDoubled t = false := by
  rw [hasDoubled_eq_false_iff]
  rw [hasAdjacentSeparators_eq_false_iff] at h
  refine h.imp (fun a b hab hdoubled => hab ⟨hdoubled.1, ?_⟩)
  rw [← hdoubled.2]
  exact hdoubled.1

theorem endsDoubled_append_singleton (t : Text) (c : Char) :
    endsDoubled (t ++ [c]) = true ↔ isSeparator c ∧ t.getLast? = some c := by
  unfold endsDoubled
  rw [List.reverse_append, List.reverse_singleton, List.singleton_append,
    ← List.head?_reverse]
  cases t.reverse with
  | nil => simp
  | cons a rest =>
      simp only [Bool.and_eq_true, decide_eq_true_eq, List.head?_cons, Option.some.injEq]
      exact and_congr_right (fun _ => eq_comm)

/-- A doubled separator in a text that grew by a character was there before, or
    stands at its end. -/
theorem hasDoubled_append_singleton (t : Text) (c : Char) :
    hasDoubled (t ++ [c]) = false ↔ hasDoubled t = false ∧ endsDoubled (t ++ [c]) = false := by
  rw [hasDoubled_eq_false_iff, hasDoubled_eq_false_iff, List.isChain_append,
    ← Bool.not_eq_true (endsDoubled _), endsDoubled_append_singleton]
  simp only [List.isChain_singleton, true_and, List.head?_cons, Option.mem_def,
    Option.some.injEq, NotDoubled]
  -- Beyond the text itself there is one more pair, of its last character and the new one.
  refine and_congr_right (fun _ => ?_)
  constructor
  · rintro h ⟨hc, hlast⟩
    exact h c hlast c rfl ⟨hc, rfl⟩
  · rintro h x hx y rfl ⟨hsep, rfl⟩
    exact h ⟨hsep, hx⟩

/-! ### The words of each field -/

namespace Field

/-- A name is letters and spaces in any order. -/
theorem typable_name_iff (v : Text) : name.typable v ↔ v.all isNameChar := by
  induction v using List.reverseRecOn with
  | nil => simp only [typable_nil, List.all_nil]
  | append_singleton v c ih =>
      have hc : name.accepts v c = isNameChar c := by
        simp only [accepts, admits, tolerates, limit, Bool.and_true, Option.all_none]
      rw [typable_append_singleton, ih, hc]
      simp only [List.all_append, List.all_cons, List.all_nil, Bool.and_true, Bool.and_eq_true]

/-- A username begins with no separator and has none twice in a row. -/
theorem typable_username_iff (v : Text) :
    username.typable v ↔
      v.all isUsernameChar ∧ v.head?.any isSeparator = false ∧ hasDoubled v = false := by
  induction v using List.reverseRecOn with
  | nil => simp [typable_nil, hasDoubled]
  | append_singleton v c ih =>
      have hc : username.accepts v c ↔
          (v = [] → isSeparator c = false) ∧ isUsernameChar c ∧
            endsDoubled (v ++ [c]) = false := by
        simp only [accepts, admits, tolerates, limit, Option.all_none, Bool.and_true,
          Bool.and_eq_true, Bool.not_eq_true', Bool.and_eq_false_imp, decide_eq_true_eq,
          List.length_eq_zero_iff, and_assoc]
      rw [typable_append_singleton, ih, hc, hasDoubled_append_singleton]
      -- Whether the new character is the first decides which condition on the first applies.
      cases v with
      | nil =>
          simp only [List.nil_append, List.all_nil, List.all_cons, List.head?_nil, List.head?_cons,
            Option.any_none, Option.any_some, hasDoubled, forall_const, Bool.and_true, true_and]
          exact ⟨fun ⟨hsep, hchar, hend⟩ => ⟨hchar, hsep, hend⟩,
            fun ⟨hchar, hsep, hend⟩ => ⟨hsep, hchar, hend⟩⟩
      | cons a rest =>
          rw [List.all_append, List.head?_append_of_ne_nil _ (List.cons_ne_nil a rest)]
          simp only [reduceCtorEq, false_implies, true_and, List.all_cons, List.all_nil,
            Bool.and_true, Bool.and_eq_true]
          exact ⟨fun ⟨⟨hchars, hhead, hdoubled⟩, hchar, hend⟩ =>
              ⟨⟨hchars, hchar⟩, hhead, hdoubled, hend⟩,
            fun ⟨⟨hchars, hchar⟩, hhead, hdoubled, hend⟩ =>
              ⟨⟨hchars, hhead, hdoubled⟩, hchar, hend⟩⟩

/-- A document number is digits, the first of them not zero. -/
theorem typable_documentNumber_iff (v : Text) :
    documentNumber.typable v ↔ v = [] ∨ isDocumentNumber v := by
  induction v using List.reverseRecOn with
  | nil => simp only [typable_nil, true_or]
  | append_singleton v c ih =>
      have hc : documentNumber.accepts v c ↔ Text.isDigit c ∧ (v = [] → c ≠ '0') := by
        simp only [accepts, admits, tolerates, limit, Option.all_none, Bool.and_true,
          Bool.and_eq_true, Bool.not_eq_true', Bool.and_eq_false_imp, decide_eq_true_eq,
          decide_eq_false_iff_not, List.length_eq_zero_iff, ne_eq]
      rw [typable_append_singleton, ih, hc]
      cases v with
      | nil =>
          simp only [List.nil_append, isDocumentNumber, forall_const, true_or, true_and,
            reduceCtorEq, false_or, List.all_nil, Bool.and_true, Bool.and_eq_true,
            decide_eq_true_eq]
      | cons a rest =>
          simp only [reduceCtorEq, false_or, false_implies, and_true, List.cons_append,
            isDocumentNumber, List.all_append, List.all_cons, List.all_nil, Bool.and_true,
            Bool.and_eq_true, and_assoc]

/-- A dial code is the one that is accepted, as far as it was typed. -/
theorem typable_dialCode_iff (v : Text) : dialCode.typable v ↔ v <+: dialCodeText := by
  induction v using List.reverseRecOn with
  | nil => simp only [typable_nil, List.nil_prefix]
  | append_singleton v c ih =>
      have hc : dialCode.accepts v c ↔ dialCodeText[v.length]? = some c := by
        simp only [accepts, admits, tolerates, limit, Bool.and_true, Option.all_some,
          Bool.and_eq_true, decide_eq_true_eq, and_iff_left_iff_imp]
        intro h
        exact (List.getElem?_eq_some_iff.mp h).1
      rw [typable_append_singleton, ih, hc]
      -- What is left of the code begins with the next character, or there is none.
      constructor
      · rintro ⟨⟨rest, hrest⟩, hnext⟩
        rw [← hrest] at hnext ⊢
        rw [List.prefix_append_right_inj]
        cases rest with
        | nil =>
            rw [List.append_nil, List.getElem?_length] at hnext
            cases hnext
        | cons a rest =>
            rw [List.getElem?_append_right (Nat.le_refl _), Nat.sub_self,
              List.getElem?_cons_zero, Option.some.injEq] at hnext
            rw [hnext]
            exact ⟨rest, rfl⟩
      · intro h
        refine ⟨(List.prefix_append v [c]).trans h, ?_⟩
        rcases h with ⟨rest, hrest⟩
        rw [← hrest, List.append_assoc, List.getElem?_append_right (Nat.le_refl _), Nat.sub_self]
        rfl

/-- A phone number is a three and at most nine digits behind it. -/
theorem typable_phoneNumber_iff (v : Text) :
    phoneNumber.typable v ↔
      v = [] ∨ (v.head? = some '3' ∧ v.all Text.isDigit ∧ v.length ≤ phoneLength) := by
  induction v using List.reverseRecOn with
  | nil => simp only [typable_nil, true_or]
  | append_singleton v c ih =>
      have hc : phoneNumber.accepts v c ↔
          Text.isDigit c ∧ (v = [] → c = '3') ∧ v.length + 1 ≤ phoneLength := by
        simp only [accepts, admits, tolerates, limit, Option.all_some, Bool.and_true,
          Bool.and_eq_true, Bool.not_eq_true', Bool.and_eq_false_imp, decide_eq_true_eq,
          decide_eq_false_iff_not, List.length_eq_zero_iff, ne_eq, not_not, and_assoc]
      rw [typable_append_singleton, ih, hc]
      cases v with
      | nil =>
          simp only [List.nil_append, List.head?_cons, Option.some.injEq, List.all_cons,
            List.all_nil, Bool.and_true, forall_const, true_or, true_and, reduceCtorEq, false_or,
            List.length_nil, List.length_singleton, Nat.zero_add]
          exact ⟨fun ⟨hdigit, h3, hroom⟩ => ⟨h3, hdigit, hroom⟩,
            fun ⟨h3, hdigit, hroom⟩ => ⟨hdigit, h3, hroom⟩⟩
      | cons a rest =>
          -- There is room for the last character only if there was room before it.
          rw [List.head?_append_of_ne_nil _ (List.cons_ne_nil a rest), List.all_append,
            List.length_append, List.length_singleton]
          simp only [reduceCtorEq, false_or, false_implies, true_and, List.all_cons, List.all_nil,
            Bool.and_true, Bool.and_eq_true, List.append_eq_nil_iff, and_self]
          constructor
          · rintro ⟨⟨h3, hdigits, -⟩, hdigit, hroom⟩
            exact ⟨h3, ⟨hdigits, hdigit⟩, hroom⟩
          · rintro ⟨h3, ⟨hdigits, hdigit⟩, hroom⟩
            exact ⟨⟨h3, hdigits, by omega⟩, hdigit, hroom⟩

end Field

end ManagerSignup
