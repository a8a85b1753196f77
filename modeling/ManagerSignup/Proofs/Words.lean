import ManagerSignup.Proofs.Blanks

/-!
# The Words of a Field

What can be typed into a field, and what is complete there, without a word about
keys.

A rule of typing sees one character, its position and the value before it. What
a person wants to know is which values come out of that, and this is a statement
about whole texts: which characters they are made of, how they begin, what does
not occur in them. `Field.Word` says it for each field in terms that belong to
no grammar, the letters and digits of core and parts of lists, so that it can be
held against a description of the form without reading how the form works.

For a username the two sides are far apart. Typing looks back one character and
refuses the second of two equal separators; a word has no such pair anywhere, at
whatever place. `hasDoubled_eq_false_iff_infix` leads from one to the other.

Completeness is a rule of its own, and it looks at whole values from the start.
`Field.complete_iff_typable_and_finished` says what it adds to typing, and it is
little: a name needs a letter, a username must not end in a separator, and the
others have to be long enough. No value is complete that could not have been
typed, and nothing that was typed is incomplete for another reason than the way
it ends or how little there is of it.

## Main definitions

* `Field.Word`: A word of a field.
* `Field.Finished`: What is asked of a typed value beyond that.

## Theorems

* `isNameChar_iff`, `isUsernameChar_iff`: The characters of names and usernames.
* `isBlank_iff_of_isNameChar`: The one blank in a name.
* `hasDoubled_eq_false_iff_infix`: Doubled separators as parts of a text.
* `Field.isDocumentNumber_iff_word`, `Field.phoneNumber_word_iff`: The digits of
  the two numbers.
* `Field.complete_name_iff`, `Field.complete_username_iff`,
  `Field.complete_phoneNumber_iff`: What is complete in a field.
* `Field.typable_iff_word`: What can be typed are the words of the field.
* `Field.complete_iff_typable_and_finished`: What is complete was typed and is
  finished.
-/

namespace ManagerSignup

/-! ### Characters -/

theorem isPlainLetter_eq_isAlpha (c : Char) : isPlainLetter c = c.isAlpha := by
  have hupper : c.isUpper = ('A' ≤ c && c ≤ 'Z') := Bool.decide_and _ _
  have hlower : c.isLower = ('a' ≤ c && c ≤ 'z') := rfl
  exact (congrArg₂ or hupper hlower).symm

theorem isDigit_eq_isDigit (c : Char) : Text.isDigit c = c.isDigit :=
  rfl

theorem isNameChar_iff (c : Char) :
    isNameChar c ↔
      c.isAlpha ∨ c ∈ ['Á', 'É', 'Í', 'Ó', 'Ú', 'á', 'é', 'í', 'ó', 'ú', 'Ñ', 'ñ', ' '] := by
  simp only [isNameChar, isAccentedVowel, isTildeLetter, isPlainLetter_eq_isAlpha, Bool.or_eq_true,
    List.elem_eq_mem, decide_eq_true_eq, List.mem_cons, List.not_mem_nil, or_false, or_assoc]

theorem isUsernameChar_iff (c : Char) :
    isUsernameChar c ↔ c.isAlphanum ∨ c ∈ ['Ñ', 'ñ', '.', '_'] := by
  simp only [isUsernameChar, isWordChar, isTildeLetter, isSeparator, Char.isAlphanum,
    isPlainLetter_eq_isAlpha, isDigit_eq_isDigit, Bool.or_eq_true, decide_eq_true_eq,
    List.mem_cons, List.not_mem_nil, or_false, or_assoc]

/-- A digit other than zero is one from one to nine. -/
theorem isDigit_and_ne_zero_iff (c : Char) :
    Text.isDigit c ∧ c ≠ '0' ↔ '1' ≤ c ∧ c ≤ '9' := by
  have hzero : c = '0' ↔ c.toNat = 48 :=
    ⟨fun h => by rw [h]; rfl, fun h => Char.toNat_inj.mp h⟩
  have hlow : ∀ d : Char, d ≤ c ↔ d.toNat ≤ c.toNat := fun d => Iff.rfl
  have hhigh : ∀ d : Char, c ≤ d ↔ c.toNat ≤ d.toNat := fun d => Iff.rfl
  simp only [Text.isDigit, Bool.and_eq_true, decide_eq_true_eq, ne_eq, hzero, hlow, hhigh,
    Char.reduceToNat]
  omega

/-- Of the characters of a name only the space is a blank. -/
theorem isBlank_iff_of_isNameChar (c : Char) (h : isNameChar c) : Text.isBlank c ↔ c = ' ' := by
  constructor
  · intro hblank
    simp only [isNameChar, Bool.or_eq_true, decide_eq_true_eq] at h
    rcases h with ((hletter | haccented) | htilde) | hspace
    · rw [isBlank_eq_false_of_isPlainLetter c hletter] at hblank
      cases hblank
    · -- The accented vowels are few enough to look at each of them.
      have hnone : ['Á', 'É', 'Í', 'Ó', 'Ú', 'á', 'é', 'í', 'ó', 'ú'].all
          (fun d => !Text.isBlank d) = true := by decide
      rw [isAccentedVowel, List.elem_eq_mem, decide_eq_true_eq] at haccented
      have hvowel := List.all_eq_true.mp hnone c haccented
      rw [hblank] at hvowel
      cases hvowel
    · simp only [isTildeLetter, Bool.or_eq_true, decide_eq_true_eq] at htilde
      rcases htilde with rfl | rfl <;> exact absurd hblank (by decide)
    · exact hspace
  · rintro rfl
    decide

/-- A place in a text, the first or the last, that holds no separator. -/
theorem any_isSeparator_eq_false_iff (place : Option Char) :
    place.any isSeparator = false ↔ place ≠ some '.' ∧ place ≠ some '_' := by
  cases place with
  | none => simp only [Option.any_none, ne_eq, reduceCtorEq, not_false_eq_true, and_self]
  | some c =>
      simp only [Option.any_some, isSeparator, Bool.or_eq_false_iff, decide_eq_false_iff_not, ne_eq,
        Option.some.injEq]

/-! ### Doubled separators -/

/-- Neighbours in a text are the pairs that are a part of it. -/
theorem isChain_iff_forall_pair (Good : Char → Char → Prop) (t : Text) :
    t.IsChain Good ↔ ∀ a b, [a, b] <:+: t → Good a b := by
  constructor
  · rintro h a b ⟨before, behind, ht⟩
    rw [List.append_assoc] at ht
    exact List.isChain_iff_forall_rel_of_append_cons_cons.mp h ht.symm
  · intro h
    exact (List.isChain_isInfix t).imp h

/-- Neighbours are no separator twice exactly if no doubled separator is a part
    of the text. -/
theorem isChain_notDoubled_iff_infix (t : Text) :
    t.IsChain NotDoubled ↔ ∀ c, isSeparator c → ¬[c, c] <:+: t := by
  rw [isChain_iff_forall_pair]
  constructor
  · intro h c hsep hpart
    exact h c c hpart ⟨hsep, rfl⟩
  · rintro h a b hpart ⟨hsep, rfl⟩
    exact h a hsep hpart

theorem hasDoubled_eq_false_iff_infix (t : Text) :
    hasDoubled t = false ↔ ¬['.', '.'] <:+: t ∧ ¬['_', '_'] <:+: t := by
  rw [hasDoubled_eq_false_iff, isChain_notDoubled_iff_infix]
  constructor
  · intro h
    exact ⟨h '.' (by decide), h '_' (by decide)⟩
  · rintro ⟨hdot, hunderscore⟩ c hsep
    simp only [isSeparator, Bool.or_eq_true, decide_eq_true_eq] at hsep
    rcases hsep with rfl | rfl
    · exact hdot
    · exact hunderscore

namespace Field

/-! ### Words -/

/-- A word of a field. `Char.isAlpha` and `Char.isDigit` know the letters from A
    to Z and the digits from 0 to 9, and no others. -/
def Word : Field → Text → Prop
  | name, v =>
      ∀ c ∈ v, c.isAlpha ∨ c ∈ ['Á', 'É', 'Í', 'Ó', 'Ú', 'á', 'é', 'í', 'ó', 'ú', 'Ñ', 'ñ', ' ']
  | username, v =>
      (∀ c ∈ v, c.isAlphanum ∨ c ∈ ['Ñ', 'ñ', '.', '_']) ∧
        (v.head? ≠ some '.' ∧ v.head? ≠ some '_') ∧ ¬['.', '.'] <:+: v ∧ ¬['_', '_'] <:+: v
  | documentNumber, v =>
      v = [] ∨ ∃ first rest, v = first :: rest ∧ ('1' ≤ first ∧ first ≤ '9') ∧
        ∀ c ∈ rest, c.isDigit
  | dialCode, v => v <+: ['+', '5', '7']
  | phoneNumber, v => v = [] ∨ ∃ rest, v = '3' :: rest ∧ rest.length ≤ 9 ∧ ∀ c ∈ rest, c.isDigit

/-- What is asked of a typed value before it is complete. -/
def Finished : Field → Text → Prop
  | name, v => ∃ c ∈ v, c ≠ ' '
  | username, v => v ≠ [] ∧ v.getLast? ≠ some '.' ∧ v.getLast? ≠ some '_'
  | documentNumber, v => v ≠ []
  | dialCode, v => v.length = 3
  | phoneNumber, v => v.length = 10

theorem isDocumentNumber_iff_word (v : Text) :
    isDocumentNumber v ↔ ∃ first rest, v = first :: rest ∧ ('1' ≤ first ∧ first ≤ '9') ∧
      ∀ c ∈ rest, c.isDigit := by
  cases v with
  | nil => exact ⟨nofun, nofun⟩
  | cons c rest =>
      have hdigits : rest.all Text.isDigit ↔ ∀ d ∈ rest, d.isDigit := List.all_eq_true
      simp only [isDocumentNumber, Bool.and_eq_true, decide_eq_true_eq, isDigit_and_ne_zero_iff,
        hdigits]
      constructor
      · rintro ⟨hfirst, hrest⟩
        exact ⟨c, rest, rfl, hfirst, hrest⟩
      · rintro ⟨first, others, heq, hfirst, hrest⟩
        rcases List.cons.inj heq with ⟨rfl, rfl⟩
        exact ⟨hfirst, hrest⟩

theorem phoneNumber_word_iff (v : Text) :
    (v.head? = some '3' ∧ v.all Text.isDigit ∧ v.length ≤ phoneLength) ↔
      ∃ rest, v = '3' :: rest ∧ rest.length ≤ 9 ∧ ∀ c ∈ rest, c.isDigit := by
  cases v with
  | nil => exact ⟨nofun, nofun⟩
  | cons c rest =>
      have hdigits : rest.all Text.isDigit ↔ ∀ d ∈ rest, d.isDigit := List.all_eq_true
      rw [List.head?_cons, Option.some.injEq, List.all_cons, Bool.and_eq_true, hdigits,
        List.length_cons, phoneLength]
      constructor
      · rintro ⟨rfl, ⟨-, hrest⟩, hlength⟩
        exact ⟨rest, rfl, by omega, hrest⟩
      · rintro ⟨others, heq, hlength, hrest⟩
        rcases List.cons.inj heq with ⟨rfl, rfl⟩
        -- The three in front is a digit like the others.
        exact ⟨rfl, ⟨by decide, hrest⟩, by omega⟩

/-- What can be typed into a field, key by key, are the words of the field. -/
theorem typable_iff_word (f : Field) (v : Text) : f.typable v ↔ f.Word v := by
  cases f with
  | name =>
      rw [typable_name_iff, List.all_eq_true]
      exact forall₂_congr fun c _ => isNameChar_iff c
  | username =>
      rw [typable_username_iff, List.all_eq_true, any_isSeparator_eq_false_iff,
        hasDoubled_eq_false_iff_infix]
      exact and_congr_left' (forall₂_congr fun c _ => isUsernameChar_iff c)
  | documentNumber =>
      rw [typable_documentNumber_iff, isDocumentNumber_iff_word]
      rfl
  | dialCode => exact typable_dialCode_iff v
  | phoneNumber =>
      rw [typable_phoneNumber_iff, phoneNumber_word_iff]
      rfl

/-- A dot may follow an underscore, but not another dot. -/
example : username.typable ['a', '_', '.'] ∧ username.typable ['a', '.', '.'] = false := by
  decide

/-! ### Complete values -/

theorem complete_name_iff (v : Text) : name.complete v ↔ name.typable v ∧ ∃ c ∈ v, c ≠ ' ' := by
  rw [typable_name_iff, complete, Bool.and_eq_true, Bool.not_eq_true', and_comm]
  refine and_congr_right fun hchars => ?_
  have hblank : ∀ c ∈ v, (Text.isBlank c ↔ c = ' ') := fun c hc =>
    isBlank_iff_of_isNameChar c (List.all_eq_true.mp hchars c hc)
  rw [Text.allBlank, List.all_eq_false]
  exact exists_congr fun c => and_congr_right fun hc => not_congr (hblank c hc)

theorem complete_username_iff (v : Text) :
    username.complete v ↔
      username.typable v ∧ v ≠ [] ∧ v.getLast? ≠ some '.' ∧ v.getLast? ≠ some '_' := by
  rw [typable_username_iff, ← any_isSeparator_eq_false_iff]
  simp only [complete, Bool.and_eq_true, Bool.not_eq_true', List.isEmpty_eq_false_iff]
  -- The two rules ask for the same, in another order.
  constructor
  · rintro ⟨⟨⟨⟨hne, hhead⟩, hlast⟩, hchars⟩, hdoubled⟩
    exact ⟨⟨hchars, hhead, hdoubled⟩, hne, hlast⟩
  · rintro ⟨⟨hchars, hhead, hdoubled⟩, hne, hlast⟩
    exact ⟨⟨⟨⟨hne, hhead⟩, hlast⟩, hchars⟩, hdoubled⟩

theorem complete_documentNumber_iff (v : Text) :
    documentNumber.complete v ↔ documentNumber.typable v ∧ v ≠ [] := by
  rw [typable_documentNumber_iff]
  constructor
  · intro h
    exact ⟨Or.inr h, documentNumber.ne_nil_of_complete v h⟩
  · rintro ⟨hempty | hnumber, hne⟩
    · exact absurd hempty hne
    · exact hnumber

theorem complete_dialCode_iff (v : Text) :
    dialCode.complete v ↔ dialCode.typable v ∧ v.length = 3 := by
  rw [typable_dialCode_iff, complete, decide_eq_true_eq]
  constructor
  · rintro rfl
    exact ⟨List.prefix_rfl, rfl⟩
  · rintro ⟨hbegins, hlength⟩
    exact hbegins.eq_of_length hlength

theorem complete_phoneNumber_iff (v : Text) :
    phoneNumber.complete v ↔ phoneNumber.typable v ∧ v.length = 10 := by
  constructor
  · intro h
    refine ⟨phoneNumber.typable_of_complete v h, ?_⟩
    cases v with
    | nil => cases h
    | cons c rest =>
        simp only [complete, isPhoneNumber, Bool.and_eq_true, decide_eq_true_eq] at h
        exact h.2
  · rintro ⟨htyped, hlength⟩
    rcases (typable_phoneNumber_iff v).mp htyped with rfl | hword
    · cases hlength
    · -- Nine digits at most are nine digits, since there are ten characters.
      rcases (phoneNumber_word_iff v).mp hword with ⟨rest, rfl, -, hdigits⟩
      have hrest : rest.all Text.isDigit := List.all_eq_true.mpr hdigits
      simp only [complete, isPhoneNumber, hrest, decide_true, Bool.and_self, Bool.true_and,
        decide_eq_true_eq]
      exact hlength

/-- A value is complete exactly if it could have been typed and is finished. -/
theorem complete_iff_typable_and_finished (f : Field) (v : Text) :
    f.complete v ↔ f.typable v ∧ f.Finished v := by
  cases f with
  | name => exact complete_name_iff v
  | username => exact complete_username_iff v
  | documentNumber => exact complete_documentNumber_iff v
  | dialCode => exact complete_dialCode_iff v
  | phoneNumber => exact complete_phoneNumber_iff v

end Field

end ManagerSignup
