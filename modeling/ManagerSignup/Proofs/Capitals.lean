import Mathlib.Data.List.Flatten
import ManagerSignup.Proofs.Blanks
import ManagerSignup.Text.Case

/-!
# Capitals of Capitals

A text in capitals has no other capitals, and putting a text in capitals leaves no
blank where there was none.

Neither can be seen from how it is done, which is one character at a time by looking
into two tables. Both are facts about the tables. A capital that they name must not
be named as something that has another capital, and it must not be a blank. Two sets
of more than a thousand code points each are to have nothing in common, and looking
for each capital among the others would take long. As numbers, with a bit for every
code point that is in them, they are compared at once.

The ends of a text need a word of their own. A capital may be longer than its letter,
so the last character of a text in capitals may be a mark that was nowhere in the
text. It is a part of a capital all the same, and no part of a capital is a blank.

## Main definitions

* `Text.bits`: A set of code points as a number.
* `Text.CaseRun.letters`, `Text.CaseRun.images`: What a run covers, and what it leads
  to.
* `Text.capitals`, `Text.letters`, `Text.blanks`: Capitals, what they are capitals of,
  and blanks.
* `Text.Settled`: The tables name no other capital of a code point.

## Theorems

* `Text.notMem_of_bits`: Numbers without a common bit stand for sets without a common
  code point.
* `Text.notMem_of_mem_capitals`: What a capital is not.
* `Text.settled_of_mem_capitals`: A capital has no other capital.
* `Text.mem_upperChar`: What the capital of a character is made of.
* `Text.upper_upper`: A text in capitals has no other capitals.
* `Text.bare_upper`: The ends of a text in capitals.
-/

namespace ManagerSignup

namespace Text

/-! ### Sets of code points -/

/-- A set of code points as a number, with a bit for every code point in it. -/
def bits (codes : List Nat) : Nat :=
  codes.foldr (fun code rest => 1 <<< code ||| rest) 0

theorem testBit_bits (codes : List Nat) (n : Nat) : (bits codes).testBit n ↔ n ∈ codes := by
  induction codes with
  | nil => simp only [bits, List.foldr_nil, Nat.zero_testBit, Bool.false_eq_true, List.not_mem_nil]
  | cons code rest ih =>
      rw [bits, List.foldr_cons, ← bits, Nat.testBit_or, Bool.or_eq_true, ih, Nat.one_shiftLeft,
        Nat.testBit_two_pow, decide_eq_true_eq, List.mem_cons, eq_comm]

theorem notMem_of_bits {codes others : List Nat} (h : bits codes &&& bits others = 0) {n : Nat}
    (hn : n ∈ codes) : n ∉ others := by
  intro hother
  have hcommon : (bits codes &&& bits others).testBit n := by
    rw [Nat.testBit_and, (testBit_bits codes n).mpr hn, (testBit_bits others n).mpr hother]
    rfl
  rw [h, Nat.zero_testBit] at hcommon
  cases hcommon

/-! ### Runs -/

namespace CaseRun

/-- The number of code points that a run covers. -/
def size (run : CaseRun) : Nat :=
  (run.last - run.first) / run.step + 1

/-- The code points that a run covers. -/
def letters (run : CaseRun) : List Nat :=
  List.range' run.first run.size run.step

/-- What they lead to. -/
def images (run : CaseRun) : List Nat :=
  List.range' run.image run.size run.step

variable {run : CaseRun} {code n : Nat}

/-- A code point with an image is so many steps from the first one, and its image so
    many from the first image. -/
theorem exists_steps_of_image? (h : run.image? code = some n) :
    ∃ k < run.size, code = run.first + run.step * k ∧ n = run.image + run.step * k := by
  rw [image?, Option.ite_none_right_eq_some, Option.some.injEq] at h
  rcases h with ⟨⟨hfirst, hlast, hstep⟩, rfl⟩
  have hdistance : run.step * ((code - run.first) / run.step) = code - run.first :=
    Nat.mul_div_cancel' (Nat.dvd_of_mod_eq_zero hstep)
  refine ⟨(code - run.first) / run.step, ?_, ?_, ?_⟩
  · exact Nat.lt_succ_of_le (Nat.div_le_div_right (Nat.sub_le_sub_right hlast _))
  · rw [hdistance, Nat.add_sub_cancel' hfirst]
  · rw [hdistance]

theorem mem_letters_of_image? (h : run.image? code = some n) : code ∈ run.letters := by
  rcases exists_steps_of_image? h with ⟨k, hk, hcode, -⟩
  exact List.mem_range'.mpr ⟨k, hk, hcode⟩

theorem mem_images_of_image? (h : run.image? code = some n) : n ∈ run.images := by
  rcases exists_steps_of_image? h with ⟨k, hk, -, himage⟩
  exact List.mem_range'.mpr ⟨k, hk, himage⟩

end CaseRun

/-! ### The tables of capitals -/

/-- What the tables name as a capital, or as a part of one. -/
def capitals : List Nat :=
  upperRuns.flatMap CaseRun.images ++ upperExpansions.flatMap Prod.snd

/-- What they name a capital of. -/
def letters : List Nat :=
  upperRuns.flatMap CaseRun.letters ++ upperExpansions.map Prod.fst

/-- The blanks. -/
def blanks : List Nat :=
  List.range' 0x9 5 ++ List.range' 0x1c 5 ++ [0x85, 0xa0, 0x1680] ++ List.range' 0x2000 11 ++
    [0x2028, 0x2029, 0x202f, 0x205f, 0x3000]

theorem mem_blanks_of_isBlankCode (n : Nat) (h : isBlankCode n) : n ∈ blanks := by
  simp only [isBlankCode, Bool.or_eq_true, Bool.and_eq_true, decide_eq_true_eq, beq_iff_eq] at h
  simp only [blanks, List.mem_append, List.mem_range'_1, List.mem_cons, List.not_mem_nil, or_false]
  omega

/-- A capital is not named as something that has a capital, and is not a blank. -/
theorem notMem_of_mem_capitals {n : Nat} (h : n ∈ capitals) : n ∉ letters ++ blanks := by
  have hcommon : bits capitals &&& bits (letters ++ blanks) = 0 := by decide +kernel
  exact notMem_of_bits hcommon h

/-- The tables name no other capital of the code point. -/
structure Settled (code : Nat) : Prop where
  expansion : upperExpansions.lookup code = none
  run : (upperRuns.findSome? fun run => run.image? code) = none

theorem settled_of_notMem_letters {code : Nat} (h : code ∉ letters) : Settled code where
  expansion := by
    rw [List.lookup_eq_none_iff]
    intro entry hentry
    rw [bne_iff_ne]
    rintro rfl
    exact h (List.mem_append_right _ (List.mem_map_of_mem hentry))
  run := by
    rw [List.findSome?_eq_none_iff]
    intro run hrun
    rw [Option.eq_none_iff_forall_ne_some]
    intro n himage
    refine h (List.mem_append_left _ ?_)
    exact List.mem_flatMap.mpr ⟨run, hrun, CaseRun.mem_letters_of_image? himage⟩

/-- A capital has no other capital. -/
theorem settled_of_mem_capitals {code : Nat} (h : code ∈ capitals) : Settled code :=
  settled_of_notMem_letters fun hletter =>
    notMem_of_mem_capitals h (List.mem_append_left _ hletter)

theorem isBlankCode_of_mem_capitals {code : Nat} (h : code ∈ capitals) :
    isBlankCode code = false := by
  rw [← Bool.not_eq_true]
  intro hblank
  exact notMem_of_mem_capitals h (List.mem_append_right _ (mem_blanks_of_isBlankCode code hblank))

/-! ### The capital of a character -/

theorem upperChar_of_settled {c : Char} (h : Settled c.toNat) : upperChar c = [c] := by
  rw [upperChar, mapCase, h.expansion]
  simp only [h.run]

/-- An expansion is somewhere in its table. -/
theorem mem_of_lookup {code : Nat} {codes : List Nat}
    (h : upperExpansions.lookup code = some codes) : (code, codes) ∈ upperExpansions := by
  rcases List.lookup_eq_some_iff.mp h with ⟨before, behind, htable, -⟩
  rw [htable]
  exact List.mem_append_right _ List.mem_cons_self

/-- A character of a capital is one that the tables name, or there is no capital but
    the character itself. -/
theorem mem_upperChar {c d : Char} (h : d ∈ upperChar c) :
    (∃ code ∈ capitals, d = Char.ofNat code) ∨ d = c ∧ Settled c.toNat := by
  rw [upperChar, mapCase] at h
  -- The expansions are looked up first, and the runs if there is none.
  cases hexpansion : upperExpansions.lookup c.toNat with
  | some codes =>
      rw [hexpansion] at h
      rcases List.mem_map.mp h with ⟨code, hcode, rfl⟩
      refine Or.inl ⟨code, List.mem_append_right _ ?_, rfl⟩
      exact List.mem_flatMap.mpr ⟨_, mem_of_lookup hexpansion, hcode⟩
  | none =>
      rw [hexpansion] at h
      cases hrun : upperRuns.findSome? fun run => run.image? c.toNat with
      | some code =>
          simp only [hrun, List.mem_singleton] at h
          rcases List.exists_of_findSome?_eq_some hrun with ⟨run, hmem, himage⟩
          refine Or.inl ⟨code, List.mem_append_left _ ?_, h⟩
          exact List.mem_flatMap.mpr ⟨run, hmem, CaseRun.mem_images_of_image? himage⟩
      | none =>
          simp only [hrun, List.mem_singleton] at h
          exact Or.inr ⟨h, hexpansion, hrun⟩

/-- A number is the code point of its character, unless it is no code point at all
    and is read as zero. -/
theorem toNat_ofNat_eq_or (n : Nat) :
    (Char.ofNat n).toNat = n ∨ (Char.ofNat n).toNat = 0 := by
  by_cases hvalid : n.isValidChar
  · rw [Char.ofNat, dif_pos hvalid]
    exact Or.inl rfl
  · rw [Char.ofNat, dif_neg hvalid]
    exact Or.inr rfl

theorem settled_zero : Settled 0 where
  expansion := by decide +kernel
  run := by decide +kernel

/-- No character of a capital has another capital. -/
theorem settled_of_mem_upperChar {c d : Char} (h : d ∈ upperChar c) : Settled d.toNat := by
  rcases mem_upperChar h with ⟨code, hcode, rfl⟩ | ⟨rfl, hsettled⟩
  · rcases toNat_ofNat_eq_or code with hself | hzero
    · rw [hself]
      exact settled_of_mem_capitals hcode
    · rw [hzero]
      exact settled_zero
  · exact hsettled

/-- No character of a capital is a blank, if the letter is none. -/
theorem isBlank_eq_false_of_mem_upperChar {c d : Char} (hc : isBlank c = false)
    (h : d ∈ upperChar c) : isBlank d = false := by
  rcases mem_upperChar h with ⟨code, hcode, rfl⟩ | ⟨rfl, -⟩
  · rw [isBlank]
    rcases toNat_ofNat_eq_or code with hself | hzero
    · rw [hself]
      exact isBlankCode_of_mem_capitals hcode
    · rw [hzero]
      decide
  · exact hc

/-- Every character has a capital. -/
theorem upperChar_ne_nil (c : Char) : upperChar c ≠ [] := by
  have hcodes : upperExpansions.all fun entry => !entry.2.isEmpty := by decide
  rw [upperChar, mapCase]
  cases hexpansion : upperExpansions.lookup c.toNat with
  | some codes =>
      have hne := List.all_eq_true.mp hcodes _ (mem_of_lookup hexpansion)
      rw [Bool.not_eq_true', List.isEmpty_eq_false_iff] at hne
      exact mt List.map_eq_nil_iff.mp hne
  | none =>
      cases upperRuns.findSome? fun run => run.image? c.toNat with
      | some code => exact List.cons_ne_nil _ _
      | none => exact List.cons_ne_nil _ _

/-! ### Texts in capitals -/

/-- A text of settled characters is in capitals. -/
theorem upper_of_settled {t : Text} (h : ∀ c ∈ t, Settled c.toNat) : upper t = t := by
  have hsame : t.flatMap upperChar = t.flatMap fun c => [c] :=
    List.flatMap_congr fun c hc => upperChar_of_settled (h c hc)
  rw [upper, hsame, List.flatMap_singleton']

/-- A text in capitals has no other capitals. -/
theorem upper_upper (t : Text) : upper (upper t) = upper t := by
  refine upper_of_settled fun d hd => ?_
  rcases List.mem_flatMap.mp hd with ⟨c, -, hcapital⟩
  exact settled_of_mem_upperChar hcapital

/-- The sharp s has a capital of two letters, and these have themselves. -/
example : upper ['ß'] = ['S', 'S'] ∧ upper ['S', 'S'] = ['S', 'S'] := by
  decide +kernel

/-- Where a text has no blank at either end, it has none there in capitals. -/
theorem bare_upper {t : Text} (h : Bare t) : Bare (upper t) where
  head d hd := by
    cases t with
    | nil => cases hd
    | cons c rest =>
        rw [upper, List.flatMap_cons, List.head?_append_of_ne_nil _ (upperChar_ne_nil c)] at hd
        exact isBlank_eq_false_of_mem_upperChar (h.head c rfl) (List.mem_of_head? hd)
  last d hd := by
    rcases List.eq_nil_or_concat' t with rfl | ⟨before, c, rfl⟩
    · cases hd
    · rw [upper, List.flatMap_append, List.flatMap_singleton,
        List.getLast?_append_of_ne_nil _ (upperChar_ne_nil c)] at hd
      have hc := h.last c List.getLast?_concat
      exact isBlank_eq_false_of_mem_upperChar hc (List.mem_of_getLast? hd)

end Text

end ManagerSignup
