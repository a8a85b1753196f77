import Mathlib.Data.List.TakeWhile
import ManagerSignup.Value.Reader

/-!
# Where Reading Stops

A text that stops the reader without a place in it has earned it.

Reading a value can end in three ways besides a value. Most texts that are no
values stop the reader at a place, and that is a fault of the text which can be
shown to whoever wrote it. The other two have no place, since they are limits of
the reader and not of the notation: a whole number has more digits than it cares
to convert, or lists and objects stand deeper in each other than it can go. What
can be said about these is that the text has such a number in it, or that many
opening marks. A text that has neither is a value or has a faulty place.

Every reading function is given what is left of the text and leaves an end of
that. So what one of them finds in its part is in the whole text, and this is all
that a proof about the reader has to carry from one function to the next. `Reads`
says both at once, and `Reads.bind` is the one place where two functions are put
behind each other.

That the limits are not idle is shown for the digits. A text of nothing else, if it
is long enough, is such a number from its first character to its last.

## Main definitions

* `Value.isOpening`: A mark that opens a list or an object.
* `Value.Stop.FoundIn`: What a stop tells about the text.
* `Value.Reads`: What a reading function makes of a text.

## Theorems

* `Value.Reads.bind`, `Value.Reads.mono`, `Value.Reads.opened`: Reading one thing
  after the other, and one thing inside another.
* `Value.reads_readText`, `Value.reads_readNumber`: Texts and numbers.
* `Value.reads_readValue_succ`, `Value.reads_readItems_succ`, `Value.reads_readMembers_succ`:
  Values, items and members, if what is in them is read.
* `Value.reads_values`: All three.
* `Value.readWhole_found`: Where reading a whole text stops.
* `Value.readWhole_of_isDigit`: The limit on digits is reached.
-/

namespace ManagerSignup

namespace Value

/-- The mark opens a list or an object. -/
def isOpening (c : Char) : Bool :=
  c = '[' || c = '\x7b'

/-- What a stop tells about the text, if lists and objects may stand `depth` deep
    in it: of the two that have no place, that there are so many digits side by
    side, or so many opening marks. -/
def Stop.FoundIn (depth : Nat) (t : Text) : Stop → Prop
  | .here .. => True
  | .tooManyDigits count =>
      digitLimit < count ∧
        ∃ digits : Text, digits.length = count ∧ digits.all Text.isDigit ∧ digits <:+: t
  | .tooDeep _ => depth < t.countP isOpening

/-- What a reading function makes of a text: it leaves an end of it, or it stops at
    something that is there. -/
def Reads {α : Type} (depth : Nat) (t : Text) : Except Stop (α × Text) → Prop
  | .ok (_, rest) => rest <:+ t
  | .error stop => stop.FoundIn depth t

variable {α β : Type} {depth : Nat} {t t' : Text}

theorem Stop.FoundIn.mono {stop : Stop} (h : stop.FoundIn depth t) (hsuffix : t <:+ t') :
    stop.FoundIn depth t' := by
  cases stop with
  | here cause left => trivial
  | tooManyDigits count =>
      rcases h with ⟨hcount, digits, hlength, hdigits, hinfix⟩
      exact ⟨hcount, digits, hlength, hdigits, hinfix.trans hsuffix.isInfix⟩
  | tooDeep opened => exact Nat.lt_of_lt_of_le h (hsuffix.sublist.countP_le)

/-- Behind an opening mark there is one less to open. -/
theorem Stop.FoundIn.opened {stop : Stop} {c : Char} (h : stop.FoundIn depth t)
    (hc : isOpening c) : stop.FoundIn (depth + 1) (c :: t) := by
  cases stop with
  | here cause left => trivial
  | tooManyDigits count => exact mono h (List.suffix_cons c t)
  | tooDeep opened =>
      change depth + 1 < (c :: t).countP isOpening
      rw [List.countP_cons_of_pos hc]
      exact Nat.succ_lt_succ h

theorem Reads.mono {r : Except Stop (α × Text)} (h : Reads depth t r) (hsuffix : t <:+ t') :
    Reads depth t' r := by
  cases r with
  | ok found => exact h.trans hsuffix
  | error stop => exact Stop.FoundIn.mono h hsuffix

theorem Reads.opened {r : Except Stop (α × Text)} {c : Char} (h : Reads depth t r)
    (hc : isOpening c) : Reads (depth + 1) (c :: t) r := by
  cases r with
  | ok found => exact h.trans (List.suffix_cons c t)
  | error stop => exact Stop.FoundIn.opened h hc

/-- Two things are read one after the other, the second one from what the first one
    leaves. -/
theorem Reads.bind {r : Except Stop (α × Text)} {next : α × Text → Except Stop (β × Text)}
    (h : Reads depth t r) (hnext : ∀ a rest, rest <:+ t → Reads depth t (next (a, rest))) :
    Reads depth t (r >>= next) := by
  cases r with
  | ok found => exact hnext found.1 found.2 h
  | error stop => exact h

theorem skipBlank_suffix (t : Text) : skipBlank t <:+ t :=
  List.dropWhile_suffix _

/-- What stands behind a mark, and behind the blanks that follow it, is an end of what
    stands before the blanks in front of the mark. -/
theorem suffix_of_skipBlank_eq {c : Char} {rest more : Text} (h : skipBlank rest = c :: more) :
    more <:+ rest := by
  refine List.IsSuffix.trans ?_ (skipBlank_suffix rest)
  rw [h]
  exact List.suffix_cons c more

/-! ### Texts and numbers -/

theorem reads_codeEscape (depth : Nat) (t : Text) : Reads depth t (codeEscape t) := by
  unfold codeEscape
  split
  · next a b c d after rest =>
    have hrest : after :: rest <:+ a :: b :: c :: d :: after :: rest := ⟨[a, b, c, d], rfl⟩
    split
    · trivial
    · split
      · -- The second half of a pair has to follow at once.
        next a' b' c' d' e more _ hpair =>
        have hmore : e :: more <:+ after :: rest := by
          rw [hpair]
          exact ⟨['\\', 'u', a', b', c', d'], rfl⟩
        split
        · trivial
        · split
          · exact hmore.trans hrest
          · exact hrest
      · exact hrest
  · trivial

theorem reads_readText (depth opening fuel : Nat) (t : Text) :
    Reads depth t (readText opening fuel t) := by
  induction fuel generalizing t with
  | zero => trivial
  | succ fuel ih =>
      -- What is left behind one character is read like any other text.
      have hmore : ∀ {t : Text} (c : Char) rest, rest <:+ t → Reads depth t (do
          let found ← readText opening fuel rest
          return (c :: found.1, found.2)) := fun c rest hrest =>
        ((ih rest).mono hrest).bind fun cs rest hleft => hleft
      unfold readText
      split
      · trivial
      · exact List.suffix_cons _ _
      · trivial
      · next rest =>
        have hrest : rest <:+ '\\' :: 'u' :: rest := ⟨['\\', 'u'], rfl⟩
        exact ((reads_codeEscape depth rest).mono hrest).bind hmore
      · next e rest _ =>
        split
        · trivial
        · exact hmore _ rest ⟨['\\', e], rfl⟩
      · next c rest _ _ _ _ =>
        split
        · trivial
        · exact hmore c rest (List.suffix_cons c rest)

theorem readExponent?_suffix {t rest : Text} {n : Int} (h : readExponent? t = some (n, rest)) :
    rest <:+ t := by
  unfold readExponent? at h
  split at h
  · next mark more =>
    split at h
    · -- A sign may stand between the mark and the digits.
      split at h
      next negative digits hsigned =>
      have hdigits : digits <:+ more := by
        split at hsigned
        · cases hsigned
          exact List.suffix_cons _ _
        · cases hsigned
          exact List.suffix_cons _ _
        · cases hsigned
          exact List.suffix_rfl
      split at h
      · cases h
      · simp only [Option.some.injEq, Prod.mk.injEq] at h
        rw [← h.2]
        exact ((List.dropWhile_suffix _).trans hdigits).trans (List.suffix_cons _ _)
    · cases h
  · cases h

theorem isPrefix_wholeDigits (t : Text) : wholeDigits t <+: t := by
  unfold wholeDigits
  split
  · exact ⟨_, rfl⟩
  · exact List.takeWhile_prefix _

theorem isDigit_wholeDigits (t : Text) : (wholeDigits t).all Text.isDigit := by
  unfold wholeDigits
  split
  · decide
  · exact List.all_takeWhile

/-- A number that is refused for its length has that many digits in the text. -/
theorem reads_readNumber (depth : Nat) (t : Text) : Reads depth t (readNumber t) := by
  unfold readNumber
  split
  next negative body hsigned =>
  have hbody : body <:+ t := by
    split at hsigned
    · cases hsigned
      exact List.suffix_cons _ _
    · cases hsigned
      exact List.suffix_rfl
  split
  · trivial
  · next whole _ =>
    have hafter : body.drop (wholeDigits body).length <:+ t := (List.drop_suffix _ _).trans hbody
    generalize body.drop (wholeDigits body).length = after at hafter ⊢
    have hleft : (if (fractionDigits after).isEmpty then after
        else after.drop ((fractionDigits after).length + 1)) <:+ t := by
      split
      · exact hafter
      · exact (List.drop_suffix _ _).trans hafter
    simp only
    generalize (if (fractionDigits after).isEmpty then after
        else after.drop ((fractionDigits after).length + 1)) = left at hleft ⊢
    split
    · split
      · next hlong =>
        exact ⟨hlong, wholeDigits body, rfl, isDigit_wholeDigits body,
          (isPrefix_wholeDigits body).isInfix.trans hbody.isInfix⟩
      · exact hleft
    · cases hexponent : readExponent? left with
      | none => exact hleft
      | some found => exact (readExponent?_suffix hexponent).trans hleft

theorem reads_readWord (depth : Nat) (t : Text) (found : Value × Text)
    (h : readWord? t = some found) : Reads depth t (.ok found) := by
  rcases List.exists_of_findSome?_eq_some h with ⟨⟨word, value⟩, -, hword⟩
  simp only at hword
  split at hword
  · cases hword
    exact List.drop_suffix _ _
  · cases hword

/-! ### Values -/

/-- A value is read as it should be if the items and members in it are. -/
theorem reads_readValue_succ {fuel : Nat}
    (hitems : ∀ depth t, Reads depth t (readItems fuel depth t))
    (hmembers : ∀ depth before t, Reads depth t (readMembers fuel depth before t))
    (depth : Nat) (t : Text) : Reads depth t (readValue (fuel + 1) depth t) := by
  unfold readValue
  split
  · next rest =>
    exact ((reads_readText depth _ _ rest).mono (List.suffix_cons _ _)).bind
      fun _ _ hleft => hleft
  · exact List.countP_pos_iff.mpr ⟨_, List.mem_cons_self .., rfl⟩
  · next rest depth =>
    -- Inside the mark there is one less to open, and the mark itself is the one more.
    refine Reads.opened ?_ rfl
    split
    · next hclosed => exact suffix_of_skipBlank_eq hclosed
    · exact ((hmembers depth [] _).mono (skipBlank_suffix rest)).bind fun _ _ hleft => hleft
  · exact List.countP_pos_iff.mpr ⟨_, List.mem_cons_self .., rfl⟩
  · next rest depth =>
    refine Reads.opened ?_ rfl
    split
    · next hclosed => exact suffix_of_skipBlank_eq hclosed
    · exact ((hitems depth _).mono (skipBlank_suffix rest)).bind fun _ _ hleft => hleft
  · split
    · next found hword => exact reads_readWord depth t found hword
    · exact reads_readNumber depth t

theorem reads_readItems_succ {fuel : Nat}
    (hvalue : ∀ depth t, Reads depth t (readValue fuel depth t))
    (hitems : ∀ depth t, Reads depth t (readItems fuel depth t))
    (depth : Nat) (t : Text) : Reads depth t (readItems (fuel + 1) depth t) := by
  unfold readItems
  refine (hvalue depth t).bind fun x rest hrest => ?_
  dsimp only
  split
  · next hclosed => exact (suffix_of_skipBlank_eq hclosed).trans hrest
  · next more hcomma =>
    have hmore : skipBlank more <:+ t :=
      (skipBlank_suffix more).trans ((suffix_of_skipBlank_eq hcomma).trans hrest)
    exact ((hitems depth _).mono hmore).bind fun _ _ hleft => hleft
  · trivial

theorem reads_readMembers_succ {fuel : Nat}
    (hvalue : ∀ depth t, Reads depth t (readValue fuel depth t))
    (hmembers : ∀ depth before t, Reads depth t (readMembers fuel depth before t))
    (depth : Nat) (before : Members) (t : Text) :
    Reads depth t (readMembers (fuel + 1) depth before t) := by
  unfold readMembers
  split
  · next rest =>
    refine ((reads_readText depth _ _ rest).mono (List.suffix_cons _ _)).bind
      fun name rest hrest => ?_
    dsimp only
    split
    · next more hcolon =>
      have hmore : skipBlank more <:+ _ :=
        (skipBlank_suffix more).trans ((suffix_of_skipBlank_eq hcolon).trans hrest)
      refine ((hvalue depth _).mono hmore).bind fun x rest hrest => ?_
      dsimp only
      split
      · next hclosed => exact (suffix_of_skipBlank_eq hclosed).trans hrest
      · next more hcomma =>
        exact (hmembers depth _ _).mono
          ((skipBlank_suffix more).trans ((suffix_of_skipBlank_eq hcomma).trans hrest))
      · trivial
    · trivial
  · trivial

/-- Whatever is read, what is left is an end of the text, and where there was no
    place to stop at the text is to blame. -/
theorem reads_values (fuel : Nat) :
    (∀ depth t, Reads depth t (readValue fuel depth t)) ∧
      (∀ depth t, Reads depth t (readItems fuel depth t)) ∧
      ∀ depth before t, Reads depth t (readMembers fuel depth before t) := by
  -- Each of the three calls the others with one step less, so they are shown together.
  induction fuel with
  | zero => exact ⟨fun _ _ => trivial, fun _ _ => trivial, fun _ _ _ => trivial⟩
  | succ fuel ih =>
      rcases ih with ⟨hvalue, hitems, hmembers⟩
      exact ⟨reads_readValue_succ hitems hmembers, reads_readItems_succ hvalue hitems,
        reads_readMembers_succ hvalue hmembers⟩

/-- A whole text that is no value has a faulty place, or it has a number with too
    many digits or too many opening marks in it. -/
theorem readWhole_found (t : Text) (stop : Stop) (h : readWhole t = .error stop) :
    stop.FoundIn depthLimit t := by
  unfold readWhole at h
  split at h
  · cases h
    trivial
  · have hread := ((reads_values (2 * t.length + 2)).1 depthLimit (skipBlank t)).mono
      (skipBlank_suffix t)
    cases hvalue : readValue (2 * t.length + 2) depthLimit (skipBlank t) with
    | error stop' =>
        rw [hvalue] at h hread
        cases h
        exact hread
    | ok found =>
        -- What stands behind a value has a place.
        rw [hvalue] at h
        simp only [bind, Except.bind] at h
        split at h
        · cases h
        · cases h
          trivial

/-! ### Long numbers -/

section LongNumbers

variable {c : Char} {rest : Text}

theorem skipBlank_of_isDigit (h : Text.isDigit c) : skipBlank (c :: rest) = c :: rest := by
  refine List.dropWhile_cons_of_neg ?_
  intro hblank
  rcases of_decide_eq_true hblank with rfl | rfl | rfl | rfl <;> cases h

theorem readWord?_of_isDigit (h : Text.isDigit c) : readWord? (c :: rest) = none := by
  -- No word begins with a digit.
  have hwords : words.all fun w => w.1.head?.any fun d => !Text.isDigit d := by decide
  refine List.findSome?_eq_none_iff.mpr fun w hw => if_neg fun hbegins => ?_
  have hfirst := List.all_eq_true.mp hwords w hw
  rcases List.isPrefixOf_iff_prefix.mp hbegins with ⟨behind, hbehind⟩
  cases hword : w.1 with
  | nil =>
      rw [hword] at hfirst
      cases hfirst
  | cons d more =>
      rw [hword] at hfirst hbehind
      cases hbehind
      rw [List.head?_cons, Option.any_some, h] at hfirst
      cases hfirst

/-- What begins with a digit is a number or nothing. -/
theorem readValue_of_isDigit (fuel depth : Nat) (h : Text.isDigit c) :
    readValue (fuel + 1) depth (c :: rest) = readNumber (c :: rest) := by
  unfold readValue
  split
  case h_6 => rw [readWord?_of_isDigit h]
  -- The marks that something else begins with are no digits.
  all_goals
    next hmark =>
      cases hmark
      cases h

theorem readNumber_of_isDigit (hdigits : (c :: rest).all Text.isDigit) (hc : c ≠ '0')
    (hlong : digitLimit < (c :: rest).length) :
    readNumber (c :: rest) = .error (.tooManyDigits (c :: rest).length) := by
  have hwhole : wholeDigits (c :: rest) = c :: rest := by
    unfold wholeDigits
    split
    · next h =>
      cases h
      exact absurd rfl hc
    · exact List.takeWhile_eq_self_iff.mpr (List.all_eq_true.mp hdigits)
  unfold readNumber
  split
  next negative body hsigned =>
  split at hsigned
  · next hminus =>
    cases hminus
    cases hdigits
  · cases hsigned
    simp only [hwhole, List.drop_length]
    exact if_pos hlong

/-- A text of nothing but digits is refused for their number, unless a zero stands
    in front of them. -/
theorem readWhole_of_isDigit {t : Text} (hdigits : t.all Text.isDigit)
    (hfirst : t.head? ≠ some '0') (hlong : digitLimit < t.length) :
    readWhole t = .error (.tooManyDigits t.length) := by
  cases t with
  | nil => cases hlong
  | cons c rest =>
      have hc : Text.isDigit c := List.all_eq_true.mp hdigits c List.mem_cons_self
      have hread : readValue (2 * (c :: rest).length + 2) depthLimit (skipBlank (c :: rest)) =
          .error (.tooManyDigits (c :: rest).length) := by
        rw [skipBlank_of_isDigit hc, readValue_of_isDigit _ _ hc]
        exact readNumber_of_isDigit hdigits (fun h => hfirst (congrArg some h)) hlong
      unfold readWhole
      split
      · next hmark =>
        cases hmark
        cases hdigits
      · rw [hread]
        rfl

end LongNumbers

end Value

end ManagerSignup
