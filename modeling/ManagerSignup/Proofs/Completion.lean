import ManagerSignup.Proofs.Typing

/-!
# Completing a Value

What can be typed can be finished, and nothing else can.

Typing and completeness are separate rules, so neither direction comes for free.
That a complete value can be typed is read off the words of each field. That a
typed value can be completed needs a continuation to exhibit, and `ending` is
one: a letter for a name or a username, which also moves a username past a
separator at its end, and what is missing of a model value for the other three.
The continuation need not be short or likely; it only has to be there, so that
no key the guard takes leads into a dead end.

A judgement therefore says something about the future. What is called impossible
stays so whatever is typed behind it, and everything else is one continuation
away from being acceptable.

## Main definitions

* `Field.ending`: What makes a typed value complete.

## Theorems

* `Field.ne_nil_of_complete`: A complete value is not empty.
* `Field.typable_of_complete`: A complete value can be typed.
* `Field.complete_append_ending`: A typed value with its ending is complete.
* `Field.judge_eq_acceptable_iff`, `Field.judge_eq_invalid_iff`: Judgements by
  the two rules they are made from.
* `Field.typable_and_judge_iff_continuations`: A value can be typed exactly when it
  can be completed, and its judgement tells.
-/

namespace ManagerSignup

namespace Field

/-- What makes a typed value complete. -/
def ending (f : Field) (value : Text) : Text :=
  match f with
  | name => ['a']
  | username => ['a']
  | documentNumber => ['1'].drop value.length
  | dialCode => dialCodeText.drop value.length
  | phoneNumber => ('3' :: List.replicate 9 '0').drop value.length

theorem ne_nil_of_complete (f : Field) (value : Text) (h : f.complete value) : value ≠ [] := by
  rintro rfl
  cases f <;> exact absurd h (by decide)

/-- A complete value can be typed. -/
theorem typable_of_complete (f : Field) (value : Text) (h : f.complete value) :
    f.typable value := by
  cases f with
  | name =>
      rw [typable_name_iff]
      simp only [complete, Bool.and_eq_true] at h
      exact h.2
  | username =>
      rw [typable_username_iff]
      simp only [complete, Bool.and_eq_true, Bool.not_eq_true'] at h
      exact ⟨h.1.2, h.1.1.1.2, h.2⟩
  | documentNumber =>
      rw [typable_documentNumber_iff]
      exact Or.inr h
  | dialCode =>
      rw [typable_dialCode_iff]
      simp only [complete, decide_eq_true_eq] at h
      exact h ▸ List.prefix_rfl
  | phoneNumber =>
      rw [typable_phoneNumber_iff]
      cases value with
      | nil => exact Or.inl rfl
      | cons c rest =>
          simp only [complete, isPhoneNumber, Bool.and_eq_true, decide_eq_true_eq] at h
          rcases h with ⟨⟨rfl, hdigits⟩, hlength⟩
          refine Or.inr ⟨rfl, ?_, ?_⟩
          · rw [List.all_cons, hdigits]
            decide
          · rw [List.length_cons, hlength]

/-- A name that was typed is complete once a letter is behind it. -/
theorem complete_name_append_letter (v : Text) (h : name.typable v) :
    name.complete (v ++ ['a']) := by
  rw [typable_name_iff] at h
  simp only [complete, Text.allBlank, List.all_append, h, Bool.and_eq_true, Bool.not_eq_true',
    Bool.and_eq_false_imp]
  exact ⟨fun _ => by decide, by decide⟩

/-- A username that was typed is complete once a letter is behind it: the letter
    ends a run of separators without making one. -/
theorem complete_username_append_letter (v : Text) (h : username.typable v) :
    username.complete (v ++ ['a']) := by
  have hgrown : username.typable (v ++ ['a']) := by
    rw [typable_append_singleton]
    refine ⟨h, ?_⟩
    have hend : endsDoubled (v ++ ['a']) = false := by
      rw [← Bool.not_eq_true, endsDoubled_append_singleton]
      rintro ⟨hsep, -⟩
      exact absurd hsep (by decide)
    have hsep : isSeparator 'a' = false := by decide
    have hchar : isUsernameChar 'a' := by decide
    simp only [accepts, admits, tolerates, limit, hend, hsep, hchar, Bool.and_false,
      Bool.not_false, Bool.and_true, Option.all_none]
  -- Typed, it only has to end in something other than a separator.
  rw [typable_username_iff] at hgrown
  rcases hgrown with ⟨hchars, hhead, hdoubled⟩
  have hlast : (v ++ ['a']).getLast?.any isSeparator = false := by
    rw [List.getLast?_concat]
    decide
  have hne : (v ++ ['a']).isEmpty = false := by
    rw [List.isEmpty_eq_false_iff]
    exact List.append_ne_nil_of_right_ne_nil v (List.cons_ne_nil _ _)
  simp only [complete, hne, hhead, hlast, hchars, hdoubled, Bool.not_false, Bool.and_true]

/-- A document number that was typed is complete, or empty and any digit but
    zero completes it. -/
theorem complete_documentNumber_append_ending (v : Text) (h : documentNumber.typable v) :
    documentNumber.complete (v ++ ending documentNumber v) := by
  rw [typable_documentNumber_iff] at h
  rcases h with rfl | h
  · decide
  · cases v with
    | nil => exact absurd h (by decide)
    | cons c rest =>
        simp only [ending, List.length_cons, List.drop_succ_cons, List.drop_nil, List.append_nil]
        exact h

theorem complete_dialCode_append_ending (v : Text) (h : dialCode.typable v) :
    dialCode.complete (v ++ ending dialCode v) := by
  rw [typable_dialCode_iff] at h
  rcases h with ⟨rest, hrest⟩
  have hwhole : v ++ ending dialCode v = dialCodeText := by
    rw [ending, ← hrest, List.drop_left]
  exact decide_eq_true hwhole

/-- A phone number that was typed is filled up with zeros. -/
theorem complete_phoneNumber_append_ending (v : Text) (h : phoneNumber.typable v) :
    phoneNumber.complete (v ++ ending phoneNumber v) := by
  rw [typable_phoneNumber_iff] at h
  rcases h with rfl | ⟨hhead, hdigits, hlength⟩
  · decide
  · cases v with
    | nil => cases hhead
    | cons c rest =>
        simp only [List.head?_cons, Option.some.injEq] at hhead
        rw [List.all_cons, Bool.and_eq_true] at hdigits
        rw [List.length_cons, phoneLength] at hlength
        -- The zeros are digits, and there are as many as are missing.
        have hzeros : ∀ n, (List.replicate n '0').all Text.isDigit := by
          intro n
          rw [List.all_replicate]
          split
          · rfl
          · decide
        simp only [complete, ending, List.length_cons, List.drop_succ_cons, List.drop_replicate,
          List.cons_append, isPhoneNumber, hhead, List.all_append, hdigits.2, hzeros,
          List.length_append, List.length_replicate, phoneLength, decide_true, Bool.and_self,
          Bool.true_and, decide_eq_true_eq]
        omega

/-- A typed value with its ending is complete. -/
theorem complete_append_ending (f : Field) (value : Text) (h : f.typable value) :
    f.complete (value ++ f.ending value) := by
  cases f with
  | name => exact complete_name_append_letter value h
  | username => exact complete_username_append_letter value h
  | documentNumber => exact complete_documentNumber_append_ending value h
  | dialCode => exact complete_dialCode_append_ending value h
  | phoneNumber => exact complete_phoneNumber_append_ending value h

/-- A value can be typed exactly when something completes it. -/
theorem typable_iff_completable (f : Field) (value : Text) :
    f.typable value ↔ ∃ rest, f.complete (value ++ rest) := by
  constructor
  · intro h
    exact ⟨f.ending value, f.complete_append_ending value h⟩
  · rintro ⟨rest, h⟩
    exact f.typable_of_append value rest (f.typable_of_complete _ h)

/-- The guard that calls the empty value unfinished never overrules
    completeness. -/
theorem judge_eq_acceptable_iff (f : Field) (value : Text) :
    f.judge value = .acceptable ↔ f.complete value := by
  unfold judge
  cases value with
  | nil =>
      have hnil : ¬f.complete [] := fun h => f.ne_nil_of_complete [] h rfl
      exact ⟨nofun, fun h => absurd h hnil⟩
  | cons c rest =>
      cases f.complete (c :: rest) with
      | true => exact ⟨fun _ => rfl, fun _ => rfl⟩
      | false => cases f.typable (c :: rest) <;> exact ⟨nofun, nofun⟩

theorem judge_eq_invalid_iff (f : Field) (value : Text) :
    f.judge value = .invalid ↔ f.typable value = false := by
  unfold judge
  cases value with
  | nil =>
      rw [f.typable_nil]
      exact ⟨nofun, nofun⟩
  | cons c rest =>
      cases hcomplete : f.complete (c :: rest) with
      | true =>
          rw [f.typable_of_complete _ hcomplete]
          exact ⟨nofun, nofun⟩
      | false =>
          cases f.typable (c :: rest) with
          | true => exact ⟨nofun, nofun⟩
          | false => exact ⟨fun _ => rfl, fun _ => rfl⟩

/-- A value can be typed exactly when it can be completed, and its judgement
    tells: an impossible value is one that nothing completes, it stays impossible
    whatever is put behind it, and any other can be made acceptable. -/
theorem typable_and_judge_iff_continuations (f : Field) (value : Text) :
    (f.typable value ↔ ∃ rest, f.complete (value ++ rest)) ∧
      (f.judge value = .invalid ↔ ∀ rest, ¬f.complete (value ++ rest)) ∧
      (f.judge value = .invalid ↔ ∀ rest, f.judge (value ++ rest) = .invalid) ∧
      (f.judge value ≠ .invalid ↔ ∃ rest, f.judge (value ++ rest) = .acceptable) := by
  have hcompletable := f.typable_iff_completable value
  have hinvalid : f.judge value = .invalid ↔ ¬f.typable value := by
    rw [judge_eq_invalid_iff, Bool.not_eq_true]
  refine ⟨hcompletable, ?_, ?_, ?_⟩
  · rw [hinvalid, hcompletable, not_exists]
  · constructor
    · intro h rest
      rw [judge_eq_invalid_iff, ← Bool.not_eq_true]
      exact fun hrest => hinvalid.mp h (f.typable_of_append value rest hrest)
    · intro h
      simpa only [List.append_nil] using h []
  · simp only [judge_eq_acceptable_iff]
    rw [ne_eq, hinvalid, not_not, hcompletable]

end Field

end ManagerSignup
