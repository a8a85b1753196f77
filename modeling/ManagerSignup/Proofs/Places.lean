import ManagerSignup.LineEdit.Guard
import ManagerSignup.Proofs.Typing

/-!
# Where a Platform Says Things Are

A place that is told in units is a place in the text if no character before it has
two.

A guard cuts a text up at the place that the platform tells it. The text is cut
between characters, and the platform may count units, so the two can mean different
places. They never differ by chance: no character counts less than one, so the told
place is never in front of the true one, and it is behind it as soon as a single
character before it is wide. `toldPlace_eq_iff` says when the two are the same.

No field has a wide character among those that may be typed. So whatever was typed is
counted the same in either way, and a guarded input whose text was typed cannot tell
how its platform counts.

Behind the first half of a wide character there is a place as well, though not in a
text. Where the units of a character end can be seen from the units alone, so if one
half is taken away the other cannot join what stands beside it. What is left has the
units of no text at all (`Text.units_ne_of_half`).

## Main definitions

* `Counting.Plain`: Every character of a text counts as one.

## Theorems

* `Counting.extent_eq_length_iff`: What a text counts is its length, if it is plain.
* `LineEdit.insertStart_le_toldPlace`, `LineEdit.toldPlace_eq_iff`: What is told of the
  selection or the cursor.
* `Counting.plain_take_of_plain_without`: What stands before what was cut out.
* `Field.plain_of_typable`, `Field.plain_before_of_typable`: What was typed is plain.
* `Text.units_ne_of_half`: What a half leaves behind is no text.
-/

namespace ManagerSignup

namespace Counting

/-- Every character of a text counts as one. -/
def Plain (k : Counting) (t : Text) : Prop :=
  ∀ c ∈ t, k.width c = 1

theorem width_units_eq_one {c : Char} (h : c.toNat < 65536) : units.width c = 1 := by
  change (Text.unitsOf c).length = 1
  rw [Text.unitsOf, if_pos h]
  rfl

theorem one_le_width (k : Counting) (c : Char) : 1 ≤ k.width c := by
  cases k with
  | characters => exact Nat.le_refl 1
  | units =>
      change 1 ≤ (Text.unitsOf c).length
      unfold Text.unitsOf
      split
      · exact Nat.le_refl 1
      · exact Nat.le_succ 1

theorem length_le_extent (k : Counting) (t : Text) : t.length ≤ k.extent t := by
  induction t with
  | nil => exact Nat.le_refl 0
  | cons c rest ih =>
      rw [List.length_cons, Nat.add_comm]
      exact Nat.add_le_add (k.one_le_width c) ih

/-- What a text counts is its length exactly if every character counts as one. -/
theorem extent_eq_length_iff (k : Counting) (t : Text) : k.extent t = t.length ↔ k.Plain t := by
  induction t with
  | nil => exact ⟨fun _ => List.forall_mem_nil _, fun _ => rfl⟩
  | cons c rest ih =>
      have hcons : k.extent (c :: rest) = k.width c + k.extent rest := rfl
      -- Neither the first character nor the rest can make up for what the other has more.
      have hfirst := k.one_le_width c
      have hrest := k.length_le_extent rest
      rw [Plain, List.forall_mem_cons, ← Plain, ← ih, hcons, List.length_cons]
      omega

theorem Plain.subset {k : Counting} {s t : Text} (h : k.Plain t) (hs : s ⊆ t) : k.Plain s :=
  fun c hc => h c (hs hc)

/-- What stands before what was cut out of a text is still there. -/
theorem plain_take_of_plain_without {k : Counting} {t : Text} {n start count : Nat}
    (h : k.Plain (Text.without t start count)) (hn : n ≤ start) : k.Plain (t.take n) :=
  h.subset <| List.Subset.trans (List.take_subset_take_left t hn) (List.subset_append_left _ _)

end Counting

namespace LineEdit

theorem insertStart_le (e : LineEdit) : e.insertStart ≤ e.text.length := by
  unfold insertStart
  cases hselection : e.selection with
  | none => exact e.cursor_le
  | some s =>
      have hok := e.selection_ok s hselection
      exact Nat.le_trans (Nat.le_of_lt hok.1) hok.2

/-- The told place is never in front of the true one. -/
theorem insertStart_le_toldPlace (e : LineEdit) (k : Counting) :
    e.insertStart ≤ e.toldPlace k := by
  have hlength := k.length_le_extent (e.text.take e.insertStart)
  rwa [List.length_take_of_le e.insertStart_le] at hlength

/-- It is the true one exactly if all that stands before it counts as one. -/
theorem toldPlace_eq_iff (e : LineEdit) (k : Counting) :
    e.toldPlace k = e.insertStart ↔ k.Plain (e.text.take e.insertStart) := by
  rw [← k.extent_eq_length_iff, List.length_take_of_le e.insertStart_le]
  rfl

end LineEdit

/-! ### What was typed -/

theorem toNat_lt_of_le {c high : Char} (h : c ≤ high) (hhigh : high.toNat < 65536) :
    c.toNat < 65536 :=
  Nat.lt_of_le_of_lt h hhigh

theorem toNat_lt_of_isDigit {c : Char} (h : Text.isDigit c) : c.toNat < 65536 := by
  simp only [Text.isDigit, Bool.and_eq_true, decide_eq_true_eq] at h
  exact toNat_lt_of_le h.2 (by decide)

theorem toNat_lt_of_isPlainLetter {c : Char} (h : isPlainLetter c) : c.toNat < 65536 := by
  simp only [isPlainLetter, Bool.or_eq_true, Bool.and_eq_true, decide_eq_true_eq] at h
  rcases h with ⟨-, hhigh⟩ | ⟨-, hhigh⟩
  · exact toNat_lt_of_le hhigh (by decide)
  · exact toNat_lt_of_le hhigh (by decide)

theorem toNat_lt_of_isNameChar {c : Char} (h : isNameChar c) : c.toNat < 65536 := by
  simp only [isNameChar, isAccentedVowel, isTildeLetter, Bool.or_eq_true, decide_eq_true_eq,
    List.elem_eq_mem] at h
  rcases h with ((hletter | haccented) | htilde) | rfl
  · exact toNat_lt_of_isPlainLetter hletter
  · have hvowels : ∀ d ∈ ['Á', 'É', 'Í', 'Ó', 'Ú', 'á', 'é', 'í', 'ó', 'ú'],
        d.toNat < 65536 := by simp
    exact hvowels c haccented
  · rcases htilde with rfl | rfl <;> decide
  · decide

theorem toNat_lt_of_isUsernameChar {c : Char} (h : isUsernameChar c) : c.toNat < 65536 := by
  simp only [isUsernameChar, isWordChar, isTildeLetter, isSeparator, Bool.or_eq_true,
    decide_eq_true_eq] at h
  rcases h with ((hletter | hdigit) | htilde) | hseparator
  · exact toNat_lt_of_isPlainLetter hletter
  · exact toNat_lt_of_isDigit hdigit
  · rcases htilde with rfl | rfl <;> decide
  · rcases hseparator with rfl | rfl <;> decide

namespace Field

/-- No character that may be typed anywhere is a wide one. -/
theorem toNat_lt_of_admits (f : Field) (position : Nat) (c : Char) (h : f.admits position c) :
    c.toNat < 65536 := by
  cases f with
  | name => exact toNat_lt_of_isNameChar h
  | username => exact toNat_lt_of_isUsernameChar (Bool.and_eq_true_iff.mp h).2
  | documentNumber => exact toNat_lt_of_isDigit (Bool.and_eq_true_iff.mp h).1
  | dialCode =>
      have hchars : ∀ d ∈ dialCodeText, d.toNat < 65536 := by simp [dialCodeText]
      exact hchars c (List.mem_of_getElem? (of_decide_eq_true h))
  | phoneNumber => exact toNat_lt_of_isDigit (Bool.and_eq_true_iff.mp h).1

/-- What was typed is counted the same in either way. -/
theorem plain_of_typable (f : Field) (k : Counting) (t : Text) (h : f.typable t) : k.Plain t := by
  cases k with
  | characters => exact fun _ _ => rfl
  | units =>
      -- The last character was admitted behind the ones before it, and those were typed.
      induction t using List.reverseRecOn with
      | nil => exact List.forall_mem_nil _
      | append_singleton t c ih =>
          rw [typable_append_singleton, accepts, Bool.and_assoc, Bool.and_eq_true] at h
          have hlast : Counting.units.width c = 1 :=
            Counting.width_units_eq_one (f.toNat_lt_of_admits _ c h.2.1)
          exact List.forall_mem_append.mpr ⟨ih h.1, List.forall_mem_singleton.mpr hlast⟩

/-- In what was typed nothing wide stands before the selection or the cursor. -/
theorem plain_before_of_typable (f : Field) (k : Counting) (e : LineEdit)
    (he : f.typable e.text) : k.Plain (e.text.take e.insertStart) :=
  (f.plain_of_typable k e.text he).subset (List.take_subset e.insertStart e.text)

end Field

/-! ### Halves of characters -/

namespace Text

theorem toNat_valid (c : Char) :
    c.toNat < 0xd800 ∨ 0xdfff < c.toNat ∧ c.toNat < 0x110000 :=
  c.valid

theorem units_cons (c : Char) (t : Text) : units (c :: t) = unitsOf c ++ units t :=
  List.flatMap_cons

/-- The first unit of a character is no second half. -/
theorem exists_unitsOf_eq_cons (c : Char) :
    ∃ u rest, unitsOf c = u :: rest ∧ (u < 0xdc00 ∨ 0xdfff < u) := by
  have hcode := toNat_valid c
  unfold unitsOf
  split
  · exact ⟨_, _, rfl, by omega⟩
  · exact ⟨_, _, rfl, by omega⟩

/-- Where the units of a character end can be seen from the units alone. -/
theorem eq_of_unitsOf_append_eq {c d : Char} {s r : List Nat}
    (h : unitsOf c ++ s = unitsOf d ++ r) : s = r := by
  have hc := toNat_valid c
  have hd := toNat_valid d
  unfold unitsOf at h
  split at h
  · split at h
    · simp only [List.cons_append, List.nil_append, List.cons.injEq] at h
      exact h.2
    · -- A first half is the code of no character.
      simp only [List.cons_append, List.nil_append, List.cons.injEq] at h
      omega
  · split at h
    · simp only [List.cons_append, List.nil_append, List.cons.injEq] at h
      omega
    · simp only [List.cons_append, List.nil_append, List.cons.injEq] at h
      exact h.2.2

/-- A text without the first half of one of its characters is no text. -/
theorem units_ne_of_half (before after : Text) (c : Char) (hc : 0x10000 ≤ c.toNat) (t : Text) :
    units t ≠ units before ++ (unitsOf c).drop 1 ++ units after := by
  have hhalf : (unitsOf c).drop 1 = [0xdc00 + (c.toNat - 0x10000) % 0x400] := by
    rw [unitsOf, if_neg (Nat.not_lt_of_le hc)]
    rfl
  rw [hhalf]
  induction before generalizing t with
  | nil =>
      -- Nothing begins with a second half.
      intro h
      cases t with
      | nil => cases h
      | cons d rest =>
          rcases exists_unitsOf_eq_cons d with ⟨u, more, hunits, hu⟩
          rw [units_cons, hunits] at h
          have hsame := (List.cons.inj h).1
          omega
  | cons b rest ih =>
      intro h
      rw [units_cons, List.append_assoc, List.append_assoc] at h
      cases t with
      | nil =>
          rcases exists_unitsOf_eq_cons b with ⟨u, more, hunits, -⟩
          rw [hunits] at h
          cases h
      | cons d others =>
          rw [units_cons] at h
          exact ih others ((eq_of_unitsOf_append_eq h).trans (List.append_assoc _ _ _).symm)

end Text

end ManagerSignup
