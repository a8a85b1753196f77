import ManagerSignup.Proofs.Pasting
import ManagerSignup.Proofs.Words
import ManagerSignup.Text.Pattern

/-!
# What Can Be Pasted

Which texts a paste lets in, and what they leave.

A paste is judged as a whole, by a rule that is neither typing nor completeness.
It could be either of the two: a paste that becomes the value has to be complete,
and one that is put behind a value has to be something that could be typed there.
For four fields it is one of them. A username is the exception. A paste into it is
complete by itself, has two characters at least, and no two separators side by
side, not even different ones, which typing lets through.

The rules are written down as patterns, in which a username looks ahead: after its
first character no two separators may follow anywhere. `Field.pastePattern` has
them as they are written, and `admitsPaste_iff_matches` says that looking at the
characters of a text, at its two ends and at its neighbours comes to the same. The
look ahead stops at a line break and begins behind the first character. Neither
matters, since a username holds no line break and cannot begin with a separator.

What a paste leaves is then complete with one exception, which is a name of spaces
alone. A name is pasted without anyone asking for a letter in it.

## Main definitions

* `Field.separatorsAhead`: What must not follow in a username.
* `Field.pastePattern`: How a text that can be pasted is written.
* `Field.Pastable`: A text that can be pasted.

## Theorems

* `isWordChar_iff`: The characters of a username that separate nothing.
* `hasAdjacentSeparators_eq_false_iff_infix`: Neighbouring separators as parts of
  a text.
* `Field.admitsPaste_username_iff`: What a paste into a username asks for.
* `Field.admitsPaste_iff_matches`: The rule for a paste is its pattern.
* `Field.accepted_paste_iff`: Which pastes are accepted.
* `Field.complete_paste_iff`: Which accepted pastes leave a complete value.
-/

namespace ManagerSignup

theorem isWordChar_iff (c : Char) :
    isWordChar c ↔ isUsernameChar c ∧ isSeparator c = false := by
  constructor
  · intro h
    refine ⟨?_, isSeparator_eq_false_of_isWordChar c h⟩
    rw [isUsernameChar, h]
    rfl
  · rintro ⟨hchar, hsep⟩
    rwa [isUsernameChar, hsep, Bool.or_false] at hchar

/-- A place that holds a character of a username holds one of a word, or a
    separator. -/
theorem any_isWordChar_iff (place : Option Char) (hplace : place ≠ none)
    (hchar : ∀ c ∈ place, isUsernameChar c) :
    place.any isWordChar ↔ place.any isSeparator = false := by
  cases place with
  | none => exact absurd rfl hplace
  | some c =>
      rw [Option.any_some, Option.any_some, isWordChar_iff]
      exact and_iff_right (hchar c rfl)

/-- Two neighbouring separators are one of four parts of a text. -/
theorem hasAdjacentSeparators_eq_false_iff_infix (t : Text) :
    hasAdjacentSeparators t = false ↔
      ¬['.', '.'] <:+: t ∧ ¬['_', '_'] <:+: t ∧ ¬['.', '_'] <:+: t ∧ ¬['_', '.'] <:+: t := by
  rw [hasAdjacentSeparators_eq_false_iff, isChain_iff_forall_pair]
  constructor
  · intro h
    have hpart : ∀ a b, isSeparator a ∧ isSeparator b → ¬[a, b] <:+: t :=
      fun a b hboth hab => h a b hab hboth
    exact ⟨hpart '.' '.' (by decide), hpart '_' '_' (by decide), hpart '.' '_' (by decide),
      hpart '_' '.' (by decide)⟩
  · rintro ⟨hdots, hunderscores, hdotFirst, hunderscoreFirst⟩ a b hab ⟨ha, hb⟩
    simp only [isSeparator, Bool.or_eq_true, decide_eq_true_eq] at ha hb
    rcases ha with rfl | rfl <;> rcases hb with rfl | rfl
    · exact hdots hab
    · exact hdotFirst hab
    · exact hunderscoreFirst hab
    · exact hunderscores hab

/-- No two separators side by side are found behind a character that is none. -/
theorem hasAdjacentSeparators_cons (c : Char) (u : Text) (hc : isSeparator c = false) :
    hasAdjacentSeparators (c :: u) = hasAdjacentSeparators u := by
  cases u with
  | nil => rfl
  | cons a rest => rw [hasAdjacentSeparators, hc, Bool.false_and, Bool.false_or]

theorem all_isUsernameChar_concat (s : Text) (z : Char) (hs : s.all isUsernameChar)
    (hz : isWordChar z) : (s ++ [z]).all isUsernameChar := by
  rw [List.all_append, hs, List.all_cons, ((isWordChar_iff z).mp hz).1]
  rfl

namespace Field

/-! ### The rules as patterns -/

/-- Two separators side by side, anywhere before the line ends. -/
def separatorsAhead : Text.Pattern :=
  .inOrder [.many (.one (· ≠ '\n')), .one isSeparator, .one isSeparator]

/-- How a text that can be pasted is written. -/
def pastePattern : Field → Text.Pattern
  | name => .inOrder [.one isNameChar, .many (.one isNameChar), .atEnd]
  | username =>
      .inOrder [.one isWordChar, .never separatorsAhead, .many (.one isUsernameChar),
        .one isWordChar, .atEnd]
  | documentNumber =>
      .inOrder [.one fun c => '1' ≤ c && c ≤ '9', .many (.one Text.isDigit), .atEnd]
  | dialCode => .inOrder (dialCodeText.map fun c => .one (· = c))
  | phoneNumber =>
      .inOrder (.one (· = '3') :: List.replicate 9 (.one Text.isDigit) ++ [.atEnd])

theorem admitsPaste_name_iff_matches (t : Text) :
    name.admitsPaste t ↔ (pastePattern name).Matches t := by
  rw [pastePattern, Text.Pattern.matches_one_many_iff, admitsPaste, Bool.and_eq_true, Bool.not_eq_true',
    List.isEmpty_eq_false_iff]
  cases t with
  | nil =>
      constructor
      · intro h
        exact absurd rfl h.1
      · rintro ⟨_, _, heq, -⟩
        cases heq
  | cons c rest =>
      rw [List.all_cons, Bool.and_eq_true]
      constructor
      · rintro ⟨-, hc, hrest⟩
        exact ⟨c, rest, rfl, hc, hrest⟩
      · rintro ⟨_, _, heq, hc, hrest⟩
        rcases List.cons.inj heq with ⟨rfl, rfl⟩
        exact ⟨List.cons_ne_nil c rest, hc, hrest⟩

theorem isDocumentNumber_iff_matches (t : Text) :
    isDocumentNumber t ↔ (pastePattern documentNumber).Matches t := by
  rw [pastePattern, Text.Pattern.matches_one_many_iff, isDocumentNumber_iff_word]
  simp only [Bool.and_eq_true, decide_eq_true_eq, List.all_eq_true, isDigit_eq_isDigit]

theorem eq_dialCodeText_iff_matches (t : Text) :
    t = dialCodeText ↔ (pastePattern dialCode).Matches t := by
  simp only [pastePattern, dialCodeText, List.map_cons, List.map_nil, Text.Pattern.Matches,
    Text.Pattern.leads_inOrder_one_cons_iff, Text.Pattern.leads_inOrder_nil_iff,
    decide_eq_true_eq]
  constructor
  · rintro rfl
    exact ⟨_, _, rfl, rfl, _, _, rfl, rfl, _, _, rfl, rfl, rfl⟩
  · rintro ⟨_, _, rfl, rfl, _, _, rfl, rfl, _, _, rfl, rfl, rfl⟩
    rfl

theorem isPhoneNumber_iff_matches (t : Text) :
    isPhoneNumber t ↔ (pastePattern phoneNumber).Matches t := by
  rw [pastePattern, List.cons_append, Text.Pattern.Matches,
    Text.Pattern.leads_inOrder_one_cons_iff]
  simp only [Text.Pattern.leads_inOrder_replicate_one_iff, decide_eq_true_eq]
  constructor
  · intro h
    cases t with
    | nil => cases h
    | cons c rest =>
        simp only [isPhoneNumber, Bool.and_eq_true, decide_eq_true_eq] at h
        rcases h with ⟨⟨rfl, hdigits⟩, hlength⟩
        exact ⟨'3', rest, rfl, rfl, rest, [], (List.append_nil rest).symm,
          Nat.succ.inj hlength, hdigits, (Text.Pattern.matches_atEnd_iff []).mpr rfl⟩
  · rintro ⟨c, u, rfl, rfl, s, v, rfl, hlength, hdigits, hend⟩
    rw [(Text.Pattern.matches_atEnd_iff v).mp hend, List.append_nil, isPhoneNumber, hdigits,
      hlength]
    rfl

/-- Looking ahead over the characters of a username finds two separators side by
    side wherever they are, since no line break stops it. -/
theorem separatorsAhead_iff (u : Text) (hu : u.all isUsernameChar) :
    (∀ r, ¬separatorsAhead.Leads u r) ↔ hasAdjacentSeparators u = false := by
  rw [hasAdjacentSeparators_eq_false_iff, List.isChain_iff_forall_rel_of_append_cons_cons]
  have hline : ∀ c ∈ u, decide (c ≠ '\n') = true := by
    intro c hc
    have hchar := List.all_eq_true.mp hu c hc
    rw [decide_eq_true_eq]
    rintro rfl
    exact absurd hchar (by decide)
  constructor
  · rintro h a b before behind rfl ⟨ha, hb⟩
    refine h behind ⟨a :: b :: behind, ?_, ?_⟩
    · rw [Text.Pattern.leads_many_one_iff]
      refine ⟨before, rfl, List.all_eq_true.mpr fun c hc => hline c ?_⟩
      exact List.mem_append_left _ hc
    · exact ⟨b :: behind, ⟨a, ha, rfl⟩, behind, ⟨b, hb, rfl⟩, rfl⟩
  · rintro h r ⟨mid, hmany, _, ⟨a, ha, rfl⟩, _, ⟨b, hb, rfl⟩, rfl⟩
    rcases (Text.Pattern.leads_many_one_iff _ _ _).mp hmany with ⟨before, hbefore, -⟩
    exact h hbefore ⟨ha, hb⟩

/-- A paste into a username, its first and its last character apart. -/
theorem admitsPaste_username_cons_concat (c z : Char) (s : Text) :
    username.admitsPaste (c :: (s ++ [z])) ↔
      isWordChar c ∧ hasAdjacentSeparators (s ++ [z]) = false ∧ s.all isUsernameChar ∧
        isWordChar z := by
  have hlast : (c :: (s ++ [z])).getLast? = some z := List.getLast?_concat (l := c :: s)
  have hlength : 2 ≤ (c :: (s ++ [z])).length := by
    simp only [List.length_cons, List.length_append, List.length_nil]
    omega
  simp only [admitsPaste, hlast, hlength, List.head?_cons, Option.any_some, decide_true,
    Bool.true_and, Bool.and_eq_true, Bool.not_eq_true', List.all_cons]
  constructor
  · rintro ⟨⟨⟨hc, hz⟩, -, hchars⟩, hadjacent⟩
    rw [hasAdjacentSeparators_cons c _ (isSeparator_eq_false_of_isWordChar c hc)] at hadjacent
    rw [List.all_append, Bool.and_eq_true] at hchars
    exact ⟨hc, hadjacent, hchars.1, hz⟩
  · rintro ⟨hc, hadjacent, hs, hz⟩
    rw [hasAdjacentSeparators_cons c _ (isSeparator_eq_false_of_isWordChar c hc)]
    exact ⟨⟨⟨hc, hz⟩, ((isWordChar_iff c).mp hc).1, all_isUsernameChar_concat s z hs hz⟩,
      hadjacent⟩

theorem admitsPaste_username_iff_matches (t : Text) :
    username.admitsPaste t ↔ (pastePattern username).Matches t := by
  rw [pastePattern, Text.Pattern.Matches, Text.Pattern.leads_inOrder_one_cons_iff]
  constructor
  · intro h
    have hlength : 2 ≤ t.length := by
      simp only [admitsPaste, Bool.and_eq_true, decide_eq_true_eq] at h
      exact h.1.1.1.1
    -- Two characters at least, so there are a first and a last one.
    cases t with
    | nil => cases hlength
    | cons c u =>
        rcases List.eq_nil_or_concat' u with rfl | ⟨s, z, rfl⟩
        · exact absurd hlength (Nat.not_succ_le_self 1)
        · rcases (admitsPaste_username_cons_concat c z s).mp h with ⟨hc, hadjacent, hs, hz⟩
          have hchars := all_isUsernameChar_concat s z hs hz
          have hahead := (separatorsAhead_iff (s ++ [z]) hchars).mpr hadjacent
          refine ⟨c, s ++ [z], rfl, hc, s ++ [z], ⟨rfl, hahead⟩, [z], ?_, [], ⟨z, hz, rfl⟩, ?_⟩
          · exact (Text.Pattern.leads_many_one_iff _ _ _).mpr ⟨s, rfl, hs⟩
          · exact (Text.Pattern.matches_atEnd_iff []).mpr rfl
  · rintro ⟨c, u, rfl, hc, _, ⟨rfl, hahead⟩, v, hmany, w, ⟨z, hz, rfl⟩, hend⟩
    rcases (Text.Pattern.leads_many_one_iff _ _ _).mp hmany with ⟨s, rfl, hs⟩
    rw [(Text.Pattern.matches_atEnd_iff w).mp hend] at hahead ⊢
    have hchars := all_isUsernameChar_concat s z hs hz
    have hadjacent := (separatorsAhead_iff (s ++ [z]) hchars).mp hahead
    exact (admitsPaste_username_cons_concat c z s).mpr ⟨hc, hadjacent, hs, hz⟩

/-- The rule for a paste is its pattern, read off the form in which the paste
    becomes part of the value. -/
theorem admitsPaste_iff_matches (f : Field) (t : Text) :
    f.admitsPaste t ↔ f.pastePattern.Matches (f.pasteForm t) := by
  cases f with
  | name => exact admitsPaste_name_iff_matches t
  | username => exact admitsPaste_username_iff_matches t
  | documentNumber => exact isDocumentNumber_iff_matches t
  | dialCode =>
      rw [admitsPaste, decide_eq_true_eq]
      exact eq_dialCodeText_iff_matches t
  | phoneNumber => exact isPhoneNumber_iff_matches (Text.trim t)

/-! ### Accepted pastes -/

/-- What a paste into a username asks for is completeness and a little more. -/
theorem admitsPaste_username_iff (t : Text) :
    username.admitsPaste t ↔
      username.complete t ∧ 2 ≤ t.length ∧ hasAdjacentSeparators t = false := by
  by_cases hne : t = []
  · rw [hne]
    decide
  · simp only [admitsPaste, complete, Bool.and_eq_true, Bool.not_eq_true', decide_eq_true_eq]
    -- Both rules look at the two ends, the one for a word and the other against a separator.
    have hends : t.all isUsernameChar →
        (t.head?.any isWordChar ↔ t.head?.any isSeparator = false) ∧
          (t.getLast?.any isWordChar ↔ t.getLast?.any isSeparator = false) := fun hchars =>
      ⟨any_isWordChar_iff _ (mt List.head?_eq_none_iff.mp hne) fun c hc =>
          List.all_eq_true.mp hchars c (List.mem_of_mem_head? hc),
        any_isWordChar_iff _ (mt List.getLast?_eq_none_iff.mp hne) fun c hc =>
          List.all_eq_true.mp hchars c (List.mem_of_getLast? hc)⟩
    constructor
    · rintro ⟨⟨⟨⟨hlength, hhead⟩, hlast⟩, hchars⟩, hadjacent⟩
      have hdoubled := hasDoubled_of_hasAdjacentSeparators_eq_false t hadjacent
      rcases hends hchars with ⟨hheadIff, hlastIff⟩
      exact ⟨⟨⟨⟨⟨List.isEmpty_eq_false_iff.mpr hne, hheadIff.mp hhead⟩, hlastIff.mp hlast⟩, hchars⟩,
        hdoubled⟩, hlength, hadjacent⟩
    · rintro ⟨⟨⟨⟨⟨-, hhead⟩, hlast⟩, hchars⟩, -⟩, hlength, hadjacent⟩
      rcases hends hchars with ⟨hheadIff, hlastIff⟩
      exact ⟨⟨⟨⟨hlength, hheadIff.mpr hhead⟩, hlastIff.mpr hlast⟩, hchars⟩, hadjacent⟩

/-- Two different separators side by side can be typed, and what is complete with
    them cannot be pasted. -/
example :
    username.complete ['a', '.', '_', 'b'] ∧ username.admitsPaste ['a', '.', '_', 'b'] = false := by
  decide

/-- A text that can be pasted, whatever the value it is pasted into. -/
def Pastable : Field → Text → Prop
  | name, t => t ≠ [] ∧ name.typable t
  | username, t =>
      username.complete t ∧ 2 ≤ t.length ∧
        ¬['.', '.'] <:+: t ∧ ¬['_', '_'] <:+: t ∧ ¬['.', '_'] <:+: t ∧ ¬['_', '.'] <:+: t
  | documentNumber, t => documentNumber.complete t
  | dialCode, t => dialCode.complete t
  | phoneNumber, t => phoneNumber.complete (Text.trim t)

theorem admitsPaste_iff_pastable (f : Field) (t : Text) : f.admitsPaste t ↔ f.Pastable t := by
  cases f with
  | name =>
      rw [Pastable, typable_name_iff, admitsPaste, Bool.and_eq_true, Bool.not_eq_true',
        List.isEmpty_eq_false_iff]
  | username =>
      rw [Pastable, admitsPaste_username_iff, hasAdjacentSeparators_eq_false_iff_infix]
  | documentNumber => rw [admitsPaste_eq_complete _ _ rfl]; rfl
  | dialCode => rfl
  | phoneNumber => rfl

/-- A paste is accepted, whatever the value it goes into, exactly if the text can
    be pasted, and the texts that can be pasted are those of the pattern. -/
theorem accepted_paste_iff (f : Field) (text : Text) :
    (∀ value, (∃ w, f.paste value text = .ok w) ↔ f.Pastable text) ∧
      (f.Pastable text ↔ f.pastePattern.Matches (f.pasteForm text)) := by
  constructor
  · intro value
    simp only [paste_eq_ok_iff, exists_and_left, exists_eq, and_true, admitsPaste_iff_pastable]
  · rw [← admitsPaste_iff_pastable, admitsPaste_iff_matches]

/-- Behind a typed username a paste completes it: the last character is its own. -/
theorem complete_username_append_of_admitsPaste (value text : Text) (hv : username.typable value)
    (h : username.admitsPaste text) : username.complete (value ++ text) := by
  have htext := (complete_username_iff text).mp ((admitsPaste_username_iff text).mp h).1
  rw [complete_username_iff, List.getLast?_append_of_ne_nil value htext.2.1]
  refine ⟨typable_username_append_of_admitsPaste value text hv h, ?_, htext.2.2⟩
  exact List.append_ne_nil_of_right_ne_nil value htext.2.1

/-- An accepted paste into a typed value leaves a complete one, unless it leaves a
    name of spaces alone. -/
theorem complete_paste_iff (f : Field) (value text w : Text) (hv : f.typable value)
    (h : f.paste value text = .ok w) : f.complete w ↔ ¬(f = .name ∧ ∀ c ∈ w, c = ' ') := by
  have htyped := f.typable_of_paste value text w hv h
  rcases (f.paste_eq_ok_iff value text w).mp h with ⟨hadmits, rfl⟩
  cases f with
  | name =>
      rw [complete_name_iff, and_iff_right htyped]
      simp only [true_and, not_forall, exists_prop, ne_eq]
  | username =>
      exact ⟨fun _ hname => (nomatch hname.1),
        fun _ => complete_username_append_of_admitsPaste value text hv hadmits⟩
  | documentNumber => exact ⟨fun _ hname => (nomatch hname.1), fun _ => hadmits⟩
  | dialCode => exact ⟨fun _ hname => (nomatch hname.1), fun _ => hadmits⟩
  | phoneNumber => exact ⟨fun _ hname => (nomatch hname.1), fun _ => hadmits⟩

/-- Two spaces behind one make a name that is not complete, and a word behind a
    separator makes a username that is. -/
theorem complete_paste_iff_spaces_and_word :
    (name.typable [' '] ∧ name.paste [' '] [' ', ' '] = .ok [' ', ' ', ' '] ∧
        ¬name.complete [' ', ' ', ' ']) ∧
      username.typable ['a', '_'] ∧ username.paste ['a', '_'] ['b', '.', 'c'] =
        .ok ['a', '_', 'b', '.', 'c'] ∧ username.complete ['a', '_', 'b', '.', 'c'] := by
  have hspaces : name.typable [' '] := by decide
  have hword : username.typable ['a', '_'] := by decide
  refine ⟨⟨hspaces, rfl, fun h => ?_⟩, hword, rfl, ?_⟩
  · have hiff := name.complete_paste_iff [' '] [' ', ' '] [' ', ' ', ' '] hspaces rfl
    exact hiff.mp h ⟨rfl, by simp⟩
  · have hiff :=
      username.complete_paste_iff ['a', '_'] ['b', '.', 'c'] ['a', '_', 'b', '.', 'c'] hword rfl
    exact hiff.mpr fun hname => nomatch hname.1

end Field

end ManagerSignup
