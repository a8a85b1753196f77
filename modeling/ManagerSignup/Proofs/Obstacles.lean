import ManagerSignup.Proofs.Keeping

/-!
# Where Typing Stops

A value that cannot be typed comes with one rejection. Which one?

The keys are fed from the left, and up to a key that is refused the value so far is
what was fed so far. So feeding a text ends in a rejection exactly if the text falls
into a part that is typed, a key that is refused behind it, and keys that are never
tried. `typeAll_eq_error_iff` says so for every value to begin with.

That the part in front is the longest beginning that can be typed is not a matter of
the feeding. A longer one goes through the key that was refused, and what is on the
way to a value that can be typed can be typed itself. It is the same for all fields,
whatever their rules look at: the position, the characters before, or the room that is
left.

What is written down follows. A key that is taken writes nothing, a key that is refused
writes its rejection, and the first that is refused is the last that is fed. So the
journal holds at most one line, and the length and the character in it are those of the
place where the value stops being on the way to anything.

## Main definitions

* `Field.typeCharLog`: What typing a character leaves in the journal.
* `Field.typeAllLog`: What typing several does, key by key.

## Theorems

* `Field.typeChar_eq_error`: What the rejection of a key says.
* `Field.typeAll_eq_error_iff`: When feeding several keys ends in a rejection.
* `Field.longestTypable_of_refused`: Nothing goes past a key that was refused.
* `Field.obstacle?_eq_some_iff`: The rejection of a value that cannot be typed.
* `Field.typeAllLog_eq`: Key by key nothing is written but the last rejection.
* `Field.typableLog_tells_longestTypable`: What asking whether a value can be typed
  writes.
-/

namespace ManagerSignup

namespace Field

/-! ### The first key that is refused -/

/-- A key is refused if the character may not be typed there, and its rejection names
    the field, the length of the value that is kept, and the character. -/
theorem typeChar_eq_error (f : Field) (value : Text) (c : Char) (r : Rejection)
    (h : f.typeChar value c = .error r) :
    f.accepts value c = false ∧ ∃ reason, r = ⟨f, reason, value.length, [c]⟩ := by
  constructor
  · by_contra haccepts
    have htaken : f.typeChar value c = .ok (value ++ [c]) :=
      (f.typeChar_eq_ok_iff value c _).mpr ⟨eq_true_of_ne_false haccepts, rfl⟩
    rw [htaken] at h
    cases h
  · -- Each of the three rules refuses in the same form, with a reason of its own.
    unfold typeChar at h
    split at h
    · exact ⟨_, (Except.error.inj h).symm⟩
    · split at h
      · exact ⟨_, (Except.error.inj h).symm⟩
      · split at h
        · split at h
          · exact ⟨_, (Except.error.inj h).symm⟩
          · cases h
        · cases h

/-- Feeding several keys ends in a rejection exactly if one of them is refused behind
    those before it. The keys behind that one do not matter. -/
theorem typeAll_eq_error_iff (f : Field) (value s : Text) (r : Rejection) :
    f.typeAll value s = .error r ↔
      ∃ p c rest, s = p ++ c :: rest ∧ f.typeAll value p = .ok (value ++ p) ∧
        f.typeChar (value ++ p) c = .error r := by
  constructor
  · intro h
    -- What was fed is in the value, so the induction is for every value to begin with.
    induction s generalizing value with
    | nil => exact absurd h nofun
    | cons c rest ih =>
        rw [typeAll_cons] at h
        cases hc : f.typeChar value c with
        | error e =>
            rw [hc] at h
            refine ⟨[], c, rest, rfl, ?_, ?_⟩
            · rw [List.append_nil]
              rfl
            · rw [List.append_nil, hc]
              exact h
        | ok w =>
            rw [hc] at h
            have hw : w = value ++ [c] := ((f.typeChar_eq_ok_iff value c w).mp hc).2
            rcases ih w h with ⟨p, d, tail, rfl, hp, hd⟩
            have happend : w ++ p = value ++ c :: p := by rw [hw, ← List.append_cons]
            rw [happend] at hp hd
            exact ⟨c :: p, d, tail, rfl,
              (f.typeAll_cons_eq_ok_iff value c p _).mpr ⟨w, hc, hp⟩, hd⟩
  · rintro ⟨p, c, rest, rfl, hp, hc⟩
    rw [typeAll_append, hp]
    change f.typeAll (value ++ p) (c :: rest) = .error r
    rw [typeAll_cons, hc]
    rfl

/-- No beginning that can be typed goes past a key that was refused. -/
theorem longestTypable_of_refused (f : Field) (p : Text) (c : Char) (rest : Text)
    (hp : f.typable p) (hc : f.accepts p c = false) :
    f.LongestTypable (p ++ c :: rest) p := by
  refine ⟨List.prefix_append p _, hp, fun q hq htypable => ?_⟩
  by_contra hlong
  -- A longer beginning has the key that was refused behind the shorter one.
  have hkey : p ++ [c] <+: p ++ c :: rest := ⟨rest, (List.append_cons p c rest).symm⟩
  have hlength : (p ++ [c]).length ≤ q.length := by
    rw [List.length_append, List.length_singleton]
    omega
  rcases List.prefix_of_prefix_length_le hkey hq hlength with ⟨tail, rfl⟩
  have hrefused := f.typable_of_append (p ++ [c]) tail htypable
  rw [typable_append_singleton, hc] at hrefused
  exact absurd hrefused.2 Bool.false_ne_true

theorem obstacle?_eq_some_iff_typeAll (f : Field) (v : Text) (r : Rejection) :
    f.obstacle? v = some r ↔ f.typeAll [] v = .error r := by
  unfold obstacle?
  cases f.typeAll [] v with
  | ok w => exact ⟨nofun, nofun⟩
  | error e => rw [Option.some.injEq, Except.error.injEq]

/-- What shows that a value cannot be typed is the rejection of the key behind the
    longest beginning that can. -/
theorem obstacle?_eq_some_iff (f : Field) (v : Text) (r : Rejection) :
    f.obstacle? v = some r ↔
      ∃ p c rest, v = p ++ c :: rest ∧ f.LongestTypable v p ∧ f.typeChar p c = .error r := by
  rw [obstacle?_eq_some_iff_typeAll, typeAll_eq_error_iff]
  constructor
  · rintro ⟨p, c, rest, rfl, hp, hc⟩
    have htypable : f.typable p := (f.typable_iff_typeAll p).mpr hp
    have hrefused := (f.typeChar_eq_error p c r hc).1
    exact ⟨p, c, rest, rfl, f.longestTypable_of_refused p c rest htypable hrefused, hc⟩
  · rintro ⟨p, c, rest, rfl, hp, hc⟩
    exact ⟨p, c, rest, rfl, (f.typable_iff_typeAll p).mp hp.typable, hc⟩

/-- The second of two dots stops the value, and the blank behind it is never tried. -/
example :
    username.obstacle? ['a', '.', '.', ' '] = some ⟨username, .notTolerated, 2, ['.']⟩ := by
  decide

/-! ### What is written -/

/-- What typing a character leaves in the journal. -/
def typeCharLog (f : Field) (value : Text) (c : Char) : List Entry :=
  match f.typeChar value c with
  | .ok _ => []
  | .error r => [r.entry]

/-- What typing the characters of a text one after the other leaves in the journal. Each
    key writes for itself, and none is fed behind one that was refused. -/
def typeAllLog (f : Field) (value : Text) : Text → List Entry
  | [] => []
  | c :: rest =>
      f.typeCharLog value c ++
        match f.typeChar value c with
        | .ok w => f.typeAllLog w rest
        | .error _ => []

/-- Key by key nothing is written but the rejection that feeding them ends in. -/
theorem typeAllLog_eq (f : Field) (value s : Text) :
    f.typeAllLog value s =
      match f.typeAll value s with
      | .ok _ => []
      | .error r => [r.entry] := by
  induction s generalizing value with
  | nil => rfl
  | cons c rest ih =>
      rw [typeAllLog, typeCharLog, typeAll_cons]
      cases f.typeChar value c with
      | error r => rfl
      | ok w => exact ih w

/-- Asking whether a value can be typed writes what its keys write. -/
theorem typableLog_eq_typeAllLog (f : Field) (v : Text) : f.typableLog v = f.typeAllLog [] v := by
  rw [typeAllLog_eq, typableLog, obstacle?]
  cases f.typeAll [] v with
  | ok w => rfl
  | error r => rfl

/-- Asking whether a value can be typed writes what its keys write one after the other.
    That is nothing if the value can be typed, and otherwise a single line of the lowest
    level. It tells the length of the longest beginning of the value that can be typed and
    the character behind it, which is refused there for the reason that is given. -/
theorem typableLog_tells_longestTypable (f : Field) (v : Text) :
    f.typableLog v = f.typeAllLog [] v ∧
      ((f.typable v = true ∧ f.typableLog v = []) ∨
        (f.typable v = false ∧ ∃ p c rest reason,
          v = p ++ c :: rest ∧ f.LongestTypable v p ∧
            f.typeChar p c = .error ⟨f, reason, p.length, [c]⟩ ∧
            f.typableLog v =
              [{ level := .debug
                 source := .typing
                 message :=
                  "Rejected insertion for " ++ f.key ++ ": " ++ reason.message ++ " (length=" ++
                    toString p.length ++ ", proposed=" ++ Text.toString (Text.quote [c]) ++
                    ")" }])) := by
  refine ⟨f.typableLog_eq_typeAllLog v, ?_⟩
  cases hobstacle : f.obstacle? v with
  | none =>
      refine .inl ⟨(f.obstacle?_eq_none_iff v).mp hobstacle, ?_⟩
      rw [typableLog, hobstacle]
      rfl
  | some r =>
      rcases (f.obstacle?_eq_some_iff v r).mp hobstacle with ⟨p, c, rest, hv, hp, hc⟩
      rcases (f.typeChar_eq_error p c r hc).2 with ⟨reason, rfl⟩
      refine .inr ⟨?_, p, c, rest, reason, hv, hp, hc, ?_⟩
      · rw [typable, hobstacle]
        rfl
      · rw [typableLog, hobstacle]
        rfl

end Field

end ManagerSignup
