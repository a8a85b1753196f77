import ManagerSignup.Proofs.Tracking

/-!
# Announcing the Conjunction

What was announced last about the fields as a whole is how they stand, and a
connected button shows it.

An announcement is made only if it differs from the last one, so nothing is said
twice; the price is that whoever listens has to have heard all of them. A button
that was connected in time has. One that is switched off by hand has not changed
its mind about anything that was announced, and the next announcement, if one
comes, finds it. If none comes it stays off. `Follows` therefore says of the
button that it shows the conjunction, or, where that is allowed, that it is off.

A judgement is the only thing that changes how the fields stand, and it ends with
announcing it. In between, when the new verdict is in its place, the button still
shows what was announced before, and this is all that `follows_announce` needs.

## Main definitions

* `Tracker.Follows`: What was announced is how the fields stand, and the button
  shows it.

## Theorems

* `Tracker.overall_announce`: What is announced is how the fields stand.
* `Tracker.overall_register`: A registration ends with an announcement.
* `Tracker.follows_announce`: Announcing sets the button right.
* `Tracker.kept_follows`: Neither judging nor time gets it wrong.
* `Tracker.allValid_iff`, `Tracker.allValid_eq_all_isValid`: The conjunction as one
  over all keys.
-/

namespace ManagerSignup

namespace Tracker

variable {κ ω : Type}

/-- What was announced last is how the fields stand, and the button shows it; if
    it may lag behind, it may also be off. -/
structure Follows (lag : Prop) (t : Tracker κ ω) : Prop where
  overall : t.overall = some t.allValid
  button : t.button = some t.allValid ∨ lag ∧ t.button = some false

/-- What is announced is how the fields stand. -/
theorem overall_announce (t : Tracker κ ω) : t.announce.overall = some t.announce.allValid := by
  unfold announce
  by_cases h : t.overall = some t.allValid
  · rw [if_pos h]
    exact h
  · rw [if_neg h]
    rfl

/-- Announcing sets a button right that showed what was announced before. -/
theorem follows_announce (lag : Prop) (t : Tracker κ ω) (before : Bool)
    (hoverall : t.overall = some before)
    (hbutton : t.button = some before ∨ lag ∧ t.button = some false) : Follows lag t.announce := by
  refine ⟨t.overall_announce, ?_⟩
  unfold announce
  by_cases h : t.overall = some t.allValid
  · -- Nothing is announced, so the conjunction is what it was before.
    rw [if_pos h]
    rw [hoverall, Option.some.injEq] at h
    rw [← h]
    exact hbutton
  · rw [if_neg h]
    change t.button.map (fun _ => t.allValid) = some t.allValid ∨ _
    rcases hbutton with hbefore | ⟨-, hoff⟩
    · rw [hbefore]
      exact Or.inl rfl
    · rw [hoff]
      exact Or.inl rfl

/-- A button that does not lag is as good as one that may. -/
theorem Follows.mono {lag lag' : Prop} {t : Tracker κ ω} (h : Follows lag t)
    (hlag : lag → lag') : Follows lag' t :=
  ⟨h.overall, h.button.imp id (And.imp_left hlag)⟩

/-- Setting the button to the conjunction sets it right. -/
theorem Follows.setButton_allValid {lag : Prop} {t : Tracker κ ω} (h : Follows lag t) :
    Follows False (t.setButton t.allValid) := by
  refine ⟨h.overall, Or.inl ?_⟩
  change t.button.map (fun _ => t.allValid) = some t.allValid
  rcases h.button with hshows | ⟨-, hoff⟩
  · rw [hshows]
    rfl
  · rw [hoff]
    rfl

/-- Switching the button off leaves it lagging at worst. -/
theorem Follows.setButton_false {t : Tracker κ ω} (h : Follows True t) :
    Follows True (t.setButton false) := by
  refine ⟨h.overall, Or.inr ⟨trivial, ?_⟩⟩
  change t.button.map (fun _ => false) = some false
  rcases h.button with hshows | ⟨-, hoff⟩
  · rw [hshows]
    rfl
  · rw [hoff]
    rfl

/-- A button that is off where it should be does not lag. -/
theorem Follows.of_allValid_eq_false {t : Tracker κ ω} (h : Follows True t)
    (hinvalid : t.allValid = false) : Follows False t := by
  refine ⟨h.overall, Or.inl ?_⟩
  rcases h.button with hshows | ⟨-, hoff⟩
  · exact hshows
  · rw [hoff, hinvalid]

theorem allValid_eq_view (t : Tracker κ ω) :
    t.allValid = (Table.view Tracked.valid t.fields).all Prod.snd := by
  rw [allValid, Table.view, List.all_map]
  rfl

variable [DecidableEq κ]

/-- Forgetting what was judged does not touch the verdict. -/
theorem allValid_forget (t : Tracker κ ω) (key : κ) (field : Tracked ω)
    (h : t.field? key = some field) : (t.forget key field).allValid = t.allValid := by
  have hvalid : Table.find? key (Table.view Tracked.valid t.fields) = some field.valid := by
    rw [Table.find?_view, show Table.find? key t.fields = some field from h]
    rfl
  rw [allValid_eq_view, allValid_eq_view]
  change (Table.view Tracked.valid (Table.put key _ t.fields)).all Prod.snd = _
  rw [Table.view_put, Table.put_eq_self _ _ _ hvalid]

/-- The conjunction is one over all keys, if each of them has one field. -/
theorem allValid_iff (t : Tracker κ ω) (hnodup : t.fields.keys.Nodup) :
    t.allValid ↔ ∀ key field, t.field? key = some field → field.valid := by
  rw [allValid, List.all_eq_true]
  constructor
  · intro h key field hfield
    exact h (key, field) (Table.mem_of_find? key field t.fields hfield)
  · rintro h ⟨key, field⟩ hmem
    exact h key field (Table.find?_eq_some_of_mem key field t.fields hnodup hmem)

/-- Asking for each key whether its field is valid finds what the fields say. -/
theorem allValid_eq_all_isValid (t : Tracker κ ω) (hnodup : t.fields.keys.Nodup) :
    t.allValid = t.fields.keys.all t.isValid := by
  rw [Bool.eq_iff_iff, t.allValid_iff hnodup, List.all_eq_true]
  constructor
  · intro h key _
    rw [isValid]
    cases hfield : t.field? key with
    | none => rfl
    | some field => exact h key field hfield
  · intro h key field hfield
    have hvalid := h key (Table.mem_keys_of_find? key field t.fields hfield)
    rw [isValid, hfield] at hvalid
    exact hvalid

variable [DecidableEq ω]

theorem follows_settle (lag : Prop) (t : Tracker κ ω) (key : κ) (field : Tracked ω)
    (value : Text) (v : Verdict) (h : Follows lag t) :
    Follows lag (t.settle key field value v) := by
  unfold settle
  simp only
  split
  · exact follows_announce lag _ t.allValid h.overall h.button
  · exact follows_announce lag _ t.allValid h.overall h.button

variable [Named κ]

/-- Neither judging nor the passing of time gets the button wrong. -/
theorem kept_follows (lag : Prop) : Kept (Follows (κ := κ) (ω := ω) lag) where
  record _ _ h := ⟨h.overall, h.button⟩
  timers _ _ _ h := ⟨h.overall, h.button⟩
  forget t key field hkey h := by
    refine ⟨?_, ?_⟩
    · rw [allValid_forget t key field hkey]
      exact h.overall
    · rw [allValid_forget t key field hkey]
      exact h.button
  judge t key field value _ h := by
    refine follows_settle lag _ key field value _ ?_
    exact ⟨h.overall, h.button⟩

theorem overall_judge (t : Tracker κ ω) (key : κ) (field : Tracked ω) (value : Text) :
    (t.judge key field value).overall = some (t.judge key field value).allValid := by
  unfold judge settle
  exact overall_announce _

/-- A registration ends with an announcement, since a new field has judged
    nothing yet. -/
theorem overall_register (t : Tracker κ ω) (key : κ) (w : ω) (check : Check ω)
    (required : Bool) :
    (t.register key w check required).overall =
      some (t.register key w check required).allValid := by
  have hnew := t.field?_joined key key w check required
  rw [if_pos rfl] at hnew
  rw [register_eq_validate_joined, validate, hnew]
  exact overall_judge _ key _ _

end Tracker

end ManagerSignup
