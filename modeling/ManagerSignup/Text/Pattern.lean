import ManagerSignup.Text
import Mathlib.Logic.Relation

/-!
# Patterns

A description of a text, piece by piece from the left.

A pattern takes a piece off the front of a text and leaves the rest, and it may
leave one of several rests: a piece that may be repeated stops after any number
of times. Read this way, one pattern behind another is one relation after the
other, and a repeated one is the closure of a relation, so what a pattern means
is said without a word about how it is searched for.

Two pieces take nothing off. One only looks ahead and wants something not to
come. The other wants the text to be at its end, and lets a line break stand
there. For a text that has to be used up the second asks nothing, since where
nothing is left over there is no line break either.

## Main definitions

* `Pattern`: A description of a text.
* `Pattern.Leads`: What a pattern leaves of a text.
* `Pattern.Matches`: A pattern describes a text from its front to its end.
* `Pattern.inOrder`: Several patterns one behind the other.

## Theorems

* `Pattern.leads_many_one_iff`: Any number of characters of a kind.
* `Pattern.leads_inOrder_replicate_one_iff`: A given number of characters of a kind.
* `Pattern.matches_atEnd_iff`: The end of a text that has to be used up.
* `Pattern.matches_one_many_iff`: A first character and any number behind it.
-/

namespace ManagerSignup

namespace Text

/-- A description of a text from the left. -/
inductive Pattern where
  /-- Nothing at all. -/
  | empty
  /-- One character of a kind. -/
  | one (kind : Char → Bool)
  /-- One piece and then another. -/
  | seq (first second : Pattern)
  /-- A piece any number of times, or not at all. -/
  | many (piece : Pattern)
  /-- Nothing, and the piece must not come next. -/
  | never (piece : Pattern)
  /-- Nothing, and the text must be at its end, but for a line break. -/
  | atEnd

namespace Pattern

/-- A pattern taken off a text leaves this rest. -/
def Leads : Pattern → Text → Text → Prop
  | empty, t, rest => rest = t
  | one kind, t, rest => ∃ c, kind c ∧ t = c :: rest
  | seq p q, t, rest => ∃ mid, p.Leads t mid ∧ q.Leads mid rest
  | many p, t, rest => Relation.ReflTransGen p.Leads t rest
  | never p, t, rest => rest = t ∧ ∀ r, ¬p.Leads t r
  | atEnd, t, rest => rest = t ∧ (t = [] ∨ t = ['\n'])

/-- A pattern describes a text from its front to its end. -/
def Matches (p : Pattern) (t : Text) : Prop :=
  p.Leads t []

/-- Several patterns one behind the other. -/
def inOrder (ps : List Pattern) : Pattern :=
  ps.foldr seq empty

theorem leads_inOrder_nil_iff (t rest : Text) : (inOrder []).Leads t rest ↔ rest = t :=
  Iff.rfl

theorem leads_inOrder_cons_iff (p : Pattern) (ps : List Pattern) (t rest : Text) :
    (inOrder (p :: ps)).Leads t rest ↔ ∃ mid, p.Leads t mid ∧ (inOrder ps).Leads mid rest :=
  Iff.rfl

theorem leads_inOrder_one_cons_iff (kind : Char → Bool) (ps : List Pattern) (t rest : Text) :
    (inOrder (one kind :: ps)).Leads t rest ↔
      ∃ c u, t = c :: u ∧ kind c ∧ (inOrder ps).Leads u rest := by
  rw [leads_inOrder_cons_iff]
  constructor
  · rintro ⟨u, ⟨c, hc, rfl⟩, hu⟩
    exact ⟨c, u, rfl, hc, hu⟩
  · rintro ⟨c, u, rfl, hc, hu⟩
    exact ⟨u, ⟨c, hc, rfl⟩, hu⟩

/-- Characters of a kind are taken off one by one, and it may stop anywhere. -/
theorem leads_many_one_iff (kind : Char → Bool) (t rest : Text) :
    (many (one kind)).Leads t rest ↔ ∃ s, t = s ++ rest ∧ s.all kind := by
  change Relation.ReflTransGen (one kind).Leads t rest ↔ _
  constructor
  · intro h
    induction h using Relation.ReflTransGen.head_induction_on with
    | refl => exact ⟨[], rfl, rfl⟩
    | head hfirst _ ih =>
        rcases hfirst with ⟨c, hc, rfl⟩
        rcases ih with ⟨s, rfl, hs⟩
        refine ⟨c :: s, rfl, ?_⟩
        rw [List.all_cons, hc, hs]
        rfl
  · rintro ⟨s, rfl, hs⟩
    induction s with
    | nil => exact .refl
    | cons c s ih =>
        rw [List.all_cons, Bool.and_eq_true] at hs
        exact .head ⟨c, hs.1, rfl⟩ (ih hs.2)

/-- Characters of a kind, as many as are asked for. -/
theorem leads_inOrder_replicate_one_iff (kind : Char → Bool) (ps : List Pattern) (n : Nat)
    (t rest : Text) :
    (inOrder (List.replicate n (one kind) ++ ps)).Leads t rest ↔
      ∃ s u, t = s ++ u ∧ s.length = n ∧ s.all kind ∧ (inOrder ps).Leads u rest := by
  induction n generalizing t with
  | zero =>
      constructor
      · intro h
        exact ⟨[], t, rfl, rfl, rfl, h⟩
      · rintro ⟨s, u, rfl, hlength, -, hu⟩
        rwa [List.length_eq_zero_iff.mp hlength, List.nil_append]
  | succ n ih =>
      rw [List.replicate_succ, List.cons_append, leads_inOrder_one_cons_iff]
      constructor
      · rintro ⟨c, v, rfl, hc, hv⟩
        rcases (ih v).mp hv with ⟨s, u, rfl, hlength, hs, hu⟩
        refine ⟨c :: s, u, rfl, congrArg (· + 1) hlength, ?_, hu⟩
        rw [List.all_cons, hc, hs]
        rfl
      · rintro ⟨s, u, rfl, hlength, hs, hu⟩
        cases s with
        | nil => cases hlength
        | cons c s =>
            rw [List.all_cons, Bool.and_eq_true] at hs
            have hrest := (ih (s ++ u)).mpr ⟨s, u, rfl, Nat.succ.inj hlength, hs.2, hu⟩
            exact ⟨c, s ++ u, rfl, hs.1, hrest⟩

/-- Where nothing may be left over, the end is a matter of course. -/
theorem matches_atEnd_iff (t : Text) : (inOrder [atEnd]).Matches t ↔ t = [] := by
  constructor
  · rintro ⟨mid, ⟨rfl, -⟩, hrest⟩
    exact hrest.symm
  · rintro rfl
    exact ⟨[], ⟨rfl, Or.inl rfl⟩, rfl⟩

/-- A character of one kind, and behind it nothing but characters of another. -/
theorem matches_one_many_iff (first other : Char → Bool) (t : Text) :
    (inOrder [one first, many (one other), atEnd]).Matches t ↔
      ∃ c rest, t = c :: rest ∧ first c ∧ rest.all other := by
  rw [Matches, leads_inOrder_one_cons_iff]
  constructor
  · rintro ⟨c, u, rfl, hc, mid, hmany, hend⟩
    rcases (leads_many_one_iff other u mid).mp hmany with ⟨s, rfl, hs⟩
    rw [(matches_atEnd_iff mid).mp hend, List.append_nil]
    exact ⟨c, s, rfl, hc, hs⟩
  · rintro ⟨c, rest, rfl, hc, hrest⟩
    refine ⟨c, rest, rfl, hc, [], ?_, (matches_atEnd_iff []).mpr rfl⟩
    exact (leads_many_one_iff other rest []).mpr ⟨rest, (List.append_nil rest).symm, hrest⟩

end Pattern

end Text

end ManagerSignup
