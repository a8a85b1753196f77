import Mathlib.Data.List.DropRight
import ManagerSignup.Proofs.Completion

/-!
# Blanks Around a Value

What trimming can change about a value that was typed.

A field is judged by its text as it stands, a submission by its text without the
blanks around it. For most grammars the two are the same text, since no blank is
one of their characters. The exception is a name, in which a space may stand
anywhere, and there it is the verdict that stays: a name is letters and spaces
with a letter among them, and trimming takes no letter away.

That the value was typed is needed. A phone number with a space behind it is
incomplete as it stands and complete without the space.

Whatever was entered, a text that was trimmed once has no blank at either end, and
there is nothing left to trim.

## Main definitions

* `Text.Bare`: A text without a blank at either end.

## Theorems

* `Text.trim_eq_nil_iff`: Nothing is left of blanks and of nothing else.
* `Text.trim_eq_self`: A text without blanks stays as it is.
* `Text.bare_trim`, `Text.trim_of_bare`: What trimming leaves, and what it leaves
  alone.
* `Field.isBlank_eq_false_of_typable`: Only a name that was typed has blanks in it.
* `Field.complete_trim`: Trimming what was typed does not make it complete, nor
  incomplete.
* `Field.allBlank_of_complete`: What is complete is not blank.
-/

namespace ManagerSignup

namespace Text

theorem trimEnd_eq_rdropWhile (t : Text) : trimEnd t = t.rdropWhile isBlank :=
  rfl

theorem trim_sublist (t : Text) : (trim t).Sublist t := by
  rw [trim, trimEnd_eq_rdropWhile]
  exact (List.rdropWhile_prefix isBlank (trimStart t)).sublist.trans
    (List.dropWhile_suffix isBlank).sublist

/-- The blanks at the two ends do not decide whether there is anything else. -/
theorem allBlank_trim (t : Text) : allBlank (trim t) = allBlank t := by
  have hstart : ∀ s : Text, allBlank (s.dropWhile isBlank) = allBlank s := fun s => by
    conv_rhs => rw [allBlank, ← List.takeWhile_append_dropWhile (p := isBlank) (l := s)]
    rw [List.all_append, List.all_takeWhile, Bool.true_and, allBlank]
  -- The end is trimmed by reversing, trimming the start and reversing again.
  have hend := hstart (trimStart t).reverse
  simp only [allBlank, List.all_reverse] at hstart hend
  simp only [allBlank, trim, trimEnd, List.all_reverse, hend]
  exact hstart t

/-- Nothing is left of blanks and of nothing else. -/
theorem trim_eq_nil_iff (t : Text) : trim t = [] ↔ allBlank t := by
  constructor
  · intro h
    rw [← allBlank_trim, h]
    rfl
  · intro h
    have hstart : trimStart t = [] := List.dropWhile_eq_nil_iff.mpr (List.all_eq_true.mp h)
    rw [trim, hstart]
    rfl

/-- A text without blanks stays as it is. -/
theorem trim_eq_self (t : Text) (h : ∀ c ∈ t, isBlank c = false) : trim t = t := by
  have hstart : ∀ s : Text, (∀ c ∈ s, isBlank c = false) → s.dropWhile isBlank = s := by
    intro s hs
    cases s with
    | nil => rfl
    | cons c rest =>
        rw [List.dropWhile_cons_of_neg]
        rw [hs c (List.mem_cons_self ..)]
        exact Bool.false_ne_true
  have hreverse : ∀ c ∈ t.reverse, isBlank c = false := fun c hc =>
    h c (List.mem_reverse.mp hc)
  rw [trim, trimEnd, trimStart, hstart t h, hstart t.reverse hreverse, List.reverse_reverse]

/-- There is no blank at either end of the text. -/
structure Bare (t : Text) : Prop where
  head : ∀ c, t.head? = some c → isBlank c = false
  last : ∀ c, t.getLast? = some c → isBlank c = false

/-- Trimming leaves no blank at either end. -/
theorem bare_trim (t : Text) : Bare (trim t) where
  head c hc := by
    -- The end is trimmed last, and what that leaves begins as before.
    have hbegins : (trimStart t).head? = some c := by
      rcases List.head?_eq_some_iff.mp hc with ⟨rest, htrim⟩
      rcases List.rdropWhile_prefix isBlank (trimStart t) with ⟨blanks, hstart⟩
      rw [← trimEnd_eq_rdropWhile, ← trim, htrim] at hstart
      rw [← hstart]
      rfl
    have hdropped := List.head?_dropWhile_not isBlank t
    rw [← trimStart, hbegins] at hdropped
    exact hdropped
  last c hc := by
    have hne : trim t ≠ [] := by
      intro hnil
      rw [hnil] at hc
      cases hc
    have hdropped := List.rdropWhile_last_not isBlank (trimStart t) hne
    rw [Bool.not_eq_true] at hdropped
    have hlast : (trim t).getLast hne = c :=
      Option.some.inj ((List.getLast?_eq_some_getLast hne).symm.trans hc)
    rw [← hlast]
    exact hdropped

/-- A text without a blank at either end is left alone. -/
theorem trim_of_bare (t : Text) (h : Bare t) : trim t = t := by
  have hstart : trimStart t = t := by
    rw [trimStart, List.dropWhile_eq_self_iff]
    intro hlength
    rw [h.head t[0] (List.head?_eq_getElem? ▸ List.getElem?_eq_getElem hlength)]
    exact Bool.false_ne_true
  rw [trim, hstart, trimEnd_eq_rdropWhile, List.rdropWhile_eq_self_iff]
  intro hne
  rw [h.last (t.getLast hne) (List.getLast?_eq_some_getLast hne)]
  exact Bool.false_ne_true

end Text

/-- A character between two visible ones is no blank. -/
theorem isBlank_eq_false_of_between (low high c : Char) (hlow : low ≤ c) (hhigh : c ≤ high)
    (hvisible : 0x21 ≤ low.toNat ∧ high.toNat ≤ 0x7e) : Text.isBlank c = false := by
  have hlow : low.toNat ≤ c.toNat := hlow
  have hhigh : c.toNat ≤ high.toNat := hhigh
  simp only [Text.isBlank, Text.isBlankCode, Bool.or_eq_false_iff, Bool.and_eq_false_imp,
    decide_eq_true_eq, decide_eq_false_iff_not, beq_eq_false_iff_ne, ne_eq]
  omega

theorem isBlank_eq_false_of_isDigit (c : Char) (h : Text.isDigit c) :
    Text.isBlank c = false := by
  simp only [Text.isDigit, Bool.and_eq_true, decide_eq_true_eq] at h
  exact isBlank_eq_false_of_between '0' '9' c h.1 h.2 (by decide)

theorem isBlank_eq_false_of_isPlainLetter (c : Char) (h : isPlainLetter c) :
    Text.isBlank c = false := by
  simp only [isPlainLetter, Bool.or_eq_true, Bool.and_eq_true, decide_eq_true_eq] at h
  rcases h with ⟨hlow, hhigh⟩ | ⟨hlow, hhigh⟩
  · exact isBlank_eq_false_of_between 'A' 'Z' c hlow hhigh (by decide)
  · exact isBlank_eq_false_of_between 'a' 'z' c hlow hhigh (by decide)

theorem isBlank_eq_false_of_isUsernameChar (c : Char) (h : isUsernameChar c) :
    Text.isBlank c = false := by
  simp only [isUsernameChar, isWordChar, isTildeLetter, isSeparator, Bool.or_eq_true,
    decide_eq_true_eq] at h
  rcases h with ((hletter | hdigit) | rfl | rfl) | rfl | rfl
  · exact isBlank_eq_false_of_isPlainLetter c hletter
  · exact isBlank_eq_false_of_isDigit c hdigit
  all_goals decide

namespace Field

/-- Only a name that was typed has blanks in it. -/
theorem isBlank_eq_false_of_typable (f : Field) (value : Text) (hf : f ≠ .name)
    (h : f.typable value) : ∀ c ∈ value, Text.isBlank c = false := by
  intro c hc
  cases f with
  | name => exact absurd rfl hf
  | username =>
      rw [typable_username_iff] at h
      exact isBlank_eq_false_of_isUsernameChar c (List.all_eq_true.mp h.1 c hc)
  | documentNumber =>
      rcases (typable_documentNumber_iff value).mp h with rfl | hnumber
      · cases hc
      · cases value with
        | nil => cases hc
        | cons a rest =>
            simp only [isDocumentNumber, Bool.and_eq_true] at hnumber
            rcases List.mem_cons.mp hc with rfl | hrest
            · exact isBlank_eq_false_of_isDigit c hnumber.1.1
            · exact isBlank_eq_false_of_isDigit c (List.all_eq_true.mp hnumber.2 c hrest)
  | dialCode =>
      rw [typable_dialCode_iff] at h
      have hmem : c ∈ dialCodeText := h.subset hc
      simp only [dialCodeText, List.mem_cons, List.not_mem_nil, or_false] at hmem
      rcases hmem with rfl | rfl | rfl <;> decide
  | phoneNumber =>
      rcases (typable_phoneNumber_iff value).mp h with rfl | ⟨-, hdigits, -⟩
      · cases hc
      · exact isBlank_eq_false_of_isDigit c (List.all_eq_true.mp hdigits c hc)

/-- Trimming what was typed does not make it complete, nor incomplete. -/
theorem complete_trim (f : Field) (value : Text) (h : f.typable value) :
    f.complete (Text.trim value) = f.complete value := by
  by_cases hf : f = .name
  · rw [hf, typable_name_iff] at h
    have htrim : (Text.trim value).all isNameChar = true :=
      List.all_eq_true.mpr fun c hc =>
        List.all_eq_true.mp h c ((Text.trim_sublist value).subset hc)
    rw [hf, complete, complete, Text.allBlank_trim, h, htrim]
  · -- No other grammar has a blank among its characters.
    rw [Text.trim_eq_self value (f.isBlank_eq_false_of_typable value hf h)]

/-- Nothing of the kind holds of what was not typed. -/
example :
    phoneNumber.complete ['3', '0', '0', '1', '2', '3', '4', '5', '6', '7', ' '] = false ∧
      phoneNumber.complete
        (Text.trim ['3', '0', '0', '1', '2', '3', '4', '5', '6', '7', ' ']) = true := by
  decide

/-- What is complete is not blank. -/
theorem allBlank_of_complete (f : Field) (value : Text) (h : f.complete value) :
    Text.allBlank value = false := by
  -- Of a blank text trimming leaves nothing, and nothing is complete.
  have htrim : f.complete (Text.trim value) := by
    rw [f.complete_trim value (f.typable_of_complete value h)]
    exact h
  have hne := f.ne_nil_of_complete _ htrim
  rwa [ne_eq, Text.trim_eq_nil_iff, Bool.not_eq_true] at hne

end Field

end ManagerSignup
