import ManagerSignup.Proofs.SubmissionChecks
import ManagerSignup.Submission

/-!
# The Records a Backend Is Handed

Of several submissions a backend is handed one record for each that is sound, in
their order, and each record holds what was checked.

The checks and the record each look up the texts for themselves and trim them
again. Nothing ties the two together but what they do, and a check on one text
that vouches for another would be worth nothing. `Record.Holds` therefore speaks
of the record alone and of what was entered: each guarded text is there without
the blanks around it, and in that form it is complete.

What the backend answers has no part in this. Its answer may end a submission in
failure, but a record was handed over by then, and the next submission begins
with nothing of the last one but the number of records before it.

## Main definitions

* `Entries.sound`: What was entered passes the checks.
* `Record.guarded`: The text in a record that came from a guarded field.
* `Record.Holds`: A record holds what was entered, in the form that was checked.
* `Answer.result`: What comes back for a record.
* `received`: The records that were handed over.

## Theorems

* `checkEntries_eq_ok_iff_sound`: What is sound passes, and nothing else does.
* `Record.holds_ofEntries`: The record for what is sound holds it.
* `sent_submit`: What one submission hands over.
* `submit_of_error`, `result_submit_of_ok`, `result_toOption_submit`: What comes
  back.
* `received_submitAll`: What several submissions hand over, to any backend.
* `forall₂_holds_received`: Each record that is received holds a sound submission.
-/

namespace ManagerSignup

/-- What was entered passes the checks: the password is its confirmation, and
    every guarded text is complete without the blanks around it. -/
def Entries.sound (e : Entries) : Bool :=
  e.text .password = e.text .confirmation &&
    Field.all.all fun f => f.complete (Text.trim (e.text (.guarded f)))

/-- The text in a record that came from a guarded field. -/
def Record.guarded (r : Record) : Field → Text
  | .name => r.name
  | .username => r.username
  | .documentNumber => r.documentNumber
  | .dialCode => r.countryCode
  | .phoneNumber => r.phone

/-- A record holds what was entered, in the form in which it was checked. -/
structure Record.Holds (organization : String) (e : Entries) (r : Record) : Prop where
  guarded : ∀ f : Field, r.guarded f = Text.trim (e.text (.guarded f))
  complete : ∀ f : Field, f.complete (r.guarded f)
  countryCode : r.countryCode = ['+', '5', '7']
  password : r.password = e.text .password
  organization : r.organization = organization

/-- What an answer is to whoever handed the record over. -/
def Answer.result : Answer → Except Failure String
  | .reply message _ => .ok message
  | .fail x => .error x

/-- The records that some submissions handed over, in order. -/
def received (outcomes : List Outcome) : List Record :=
  outcomes.filterMap Outcome.sent

theorem Entries.sound_iff (e : Entries) :
    e.sound ↔ e.text .password = e.text .confirmation ∧
      ∀ f : Field, f.complete (Text.trim (e.text (.guarded f))) := by
  unfold sound
  rw [Bool.and_eq_true, decide_eq_true_eq, List.all_eq_true]
  exact and_congr_right fun _ => ⟨fun h f => h f f.mem_all, fun h f _ => h f⟩

/-- What is sound passes the checks, and nothing else does. -/
theorem checkEntries_eq_ok_iff_sound (e : Entries) : checkEntries e = .ok () ↔ e.sound := by
  have hmatch : e.passwordsMatch ↔ e.text .password = e.text .confirmation :=
    decide_eq_true_iff
  rw [checkEntries_eq_ok_iff, e.sound_iff, hmatch]

theorem sound_eq_false_of_error (e : Entries) {fault : AppError}
    (h : checkEntries e = .error fault) : e.sound = false := by
  rw [← Bool.not_eq_true]
  intro hsound
  rw [(checkEntries_eq_ok_iff_sound e).mpr hsound] at h
  cases h

/-- The record is made from the texts that were entered, once more trimmed, and
    these are the texts that were checked. -/
theorem Record.guarded_ofEntries (e : Entries) (organization : String) (f : Field) :
    (Record.ofEntries e organization).guarded f = Text.trim (e.text (.guarded f)) := by
  cases f <;> rfl

/-- The record for what is sound holds it. -/
theorem Record.holds_ofEntries (e : Entries) (organization : String) (h : e.sound) :
    Record.Holds organization e (Record.ofEntries e organization) := by
  have hcomplete : ∀ f : Field, f.complete ((Record.ofEntries e organization).guarded f) := by
    intro f
    rw [Record.guarded_ofEntries]
    exact (e.sound_iff.mp h).2 f
  -- Of dial codes only one is complete.
  have hcode : (Record.ofEntries e organization).countryCode = dialCodeText := by
    have hdial := hcomplete .dialCode
    simp only [Field.complete, decide_eq_true_eq] at hdial
    exact hdial
  exact
    { guarded := Record.guarded_ofEntries e organization
      complete := hcomplete
      countryCode := hcode
      password := rfl
      organization := rfl }

/-- A submission hands over the record for what was entered if that is sound, and
    nothing otherwise, whatever the backend answers. -/
theorem sent_submit (e : Entries) (organization : String) (backend : Backend) (calls : Nat) :
    (submit e organization backend calls).sent =
      if e.sound then some (Record.ofEntries e organization) else none := by
  unfold submit
  cases hcheck : checkEntries e with
  | error fault =>
      rw [sound_eq_false_of_error e hcheck]
      rfl
  | ok u =>
      have hsound : e.sound := (checkEntries_eq_ok_iff_sound e).mp hcheck
      rw [if_pos hsound]
      simp only
      cases backend.answer calls (Record.ofEntries e organization) with
      | reply message log => rfl
      | fail x => rfl

/-- What is refused by the checks is told to nobody but the user. -/
theorem submit_of_error (e : Entries) (organization : String) (backend : Backend) (calls : Nat)
    {fault : AppError} (h : checkEntries e = .error fault) :
    submit e organization backend calls =
      { sent := none, result := .error (.app fault), log := [] } := by
  rw [submit, h]

/-- What passes the checks brings back what the backend answers. -/
theorem result_submit_of_ok (e : Entries) (organization : String) (backend : Backend)
    (calls : Nat) (h : checkEntries e = .ok ()) :
    (submit e organization backend calls).result =
      (backend.answer calls (Record.ofEntries e organization)).result := by
  rw [submit, h]
  simp only
  cases backend.answer calls (Record.ofEntries e organization) with
  | reply message log => rfl
  | fail x => rfl

/-- A reply comes back only for a record that was handed over. -/
theorem result_toOption_submit (e : Entries) (organization : String) (backend : Backend)
    (calls : Nat) :
    (submit e organization backend calls).result.toOption =
      if e.sound then (backend.answer calls (Record.ofEntries e organization)).result.toOption
      else none := by
  cases hcheck : checkEntries e with
  | error fault =>
      rw [submit_of_error e organization backend calls hcheck, sound_eq_false_of_error e hcheck]
      rfl
  | ok u =>
      have hsound : e.sound := (checkEntries_eq_ok_iff_sound e).mp hcheck
      rw [if_pos hsound, result_submit_of_ok e organization backend calls hcheck]

/-- Several submissions hand over one record for each that is sound, in order. -/
theorem received_submitAll (organization : String) (backend : Backend) (calls : Nat)
    (es : List Entries) :
    received (submitAll organization backend calls es) =
      (es.filter Entries.sound).map fun e => Record.ofEntries e organization := by
  induction es generalizing calls with
  | nil => rfl
  | cons e rest ih =>
      have hfirst := sent_submit e organization backend calls
      have hrest := ih (calls + (submit e organization backend calls).sent.toList.length)
      simp only [received, submitAll, List.filterMap_cons] at hrest ⊢
      -- The number of records before it is all that the rest has of the first.
      by_cases hsound : e.sound
      · rw [if_pos hsound] at hfirst
        rw [hrest, hfirst, List.filter_cons_of_pos hsound, List.map_cons]
      · rw [if_neg hsound] at hfirst
        rw [hrest, hfirst, List.filter_cons_of_neg hsound]

/-- A backend that sends nothing anywhere receives, in order, exactly one record
    for each submission that is sound, and each of them holds what was checked. -/
theorem forall₂_holds_received (organization : String) (es : List Entries) :
    List.Forall₂ (Record.Holds organization) (es.filter Entries.sound)
      (received (submitAll organization .dryRun 0 es)) := by
  rw [received_submitAll, List.forall₂_map_right_iff, List.forall₂_same]
  intro e he
  exact Record.holds_ofEntries e organization (List.mem_filter.mp he).2

end ManagerSignup
