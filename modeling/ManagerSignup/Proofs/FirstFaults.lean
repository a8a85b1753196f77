import ManagerSignup.Proofs.Discretion
import ManagerSignup.Proofs.Tables

/-!
# The First Fault

Which of several faults a submission is told, and what it is told about it.

The checks look at one thing after the other and end at the first that is not as it
should be. What they say about a field has three wordings, and what decides between
them is read off the value by rules of their own. That these agree with completeness
is what makes the outcome simple. An empty value is not complete, and neither is a
username that ends in a separator, so whichever of the three wordings is chosen, it
is chosen for a value that is not complete. The field that is blamed is therefore the
first that is not complete, and the code says whether there was anything in it.

The wording for usernames adds nothing but words. `checkFieldBriefly` is the check
without it, and the two are compared on whole submissions with the words struck out.
For this the walk over the fields is taken apart from the check that is made at each
of them: `checkFieldsBy` walks with any check, and what holds of it is proved once.

## Main definitions

* `Entries.trimmed`: What was entered into a field, without the blanks around it.
* `Entries.FirstIncomplete`: The first field that is not complete.
* `AppError.Blames`: What a fault says about a field and its value.
* `AppError.wordless`: An error without its words.
* `checkFieldsBy`, `checkEntriesBy`: The checks of a submission with another check
  at each field.
* `checkFieldBriefly`: The check of a field without the wording for usernames.

## Theorems

* `AppError.Blames.of_requiredMissing`, `AppError.Blames.of_badFormat`: The two
  faults of a field.
* `AppError.Blames.of_checkField`: Whatever is said of a field is about its value.
* `checkFieldsBy_error`: The walk ends at the first field that has a fault.
* `mapError_checkFieldsBy`: Checks that look alike make walks that look alike.
* `wordless_checkField`: The wording for usernames is only that.
* `checkEntries_tells_first`: What a submission is told.
-/

namespace ManagerSignup

/-- What was entered into a field, without the blanks around it. -/
def Entries.trimmed (e : Entries) (f : Field) : Text :=
  Text.trim (e.text (.guarded f))

/-- The field is not complete, and in the order of the form all those before it
    are. -/
def Entries.FirstIncomplete (e : Entries) (f : Field) : Prop :=
  ∃ before behind, Field.all = before ++ f :: behind ∧
    (∀ g ∈ before, g.complete (e.trimmed g)) ∧ ¬f.complete (e.trimmed f)

/-- What a fault says about a field and its value. -/
structure AppError.Blames (fault : AppError) (f : Field) (value : Text) : Prop where
  kind : fault.kind = .validation
  field : fault.field? = some (.text f.key)
  /-- There is no value. -/
  missing : value = [] → fault.code = .requiredFieldMissing
  /-- There is one, and it is quoted. -/
  malformed : value ≠ [] → fault.code = .invalidFormat ∧
    Table.find? "value" fault.context = some (.text (Text.toString value))

/-- An error without its words. -/
def AppError.wordless (e : AppError) : AppError :=
  { e with userMessage := "" }

/-! ### The fault of a field -/

theorem Field.key_ne_empty (f : Field) : f.key.isEmpty = false := by
  cases f <;> decide

/-- A failed check names its field in the details, after those it was given. -/
theorem AppError.ofCheck_key (code : ErrorCode) (message : String) (f : Field)
    (context : Members) :
    AppError.ofCheck code message f.key context =
      { AppError.ofKind .validation code message none context with
        context := Table.put "field" (.text f.key) context } := by
  rw [ofCheck, withField, f.key_ne_empty]
  rfl

theorem AppError.field?_ofCheck (code : ErrorCode) (message : String) (f : Field)
    (context : Members) :
    (AppError.ofCheck code message f.key context).field? = some (.text f.key) := by
  rw [ofCheck_key, field?, Table.find?_put, if_pos rfl]

namespace AppError.Blames

/-- The fault of a field that is empty. -/
theorem of_requiredMissing (f : Field) : (requiredMissing f).Blames f [] where
  kind := by
    rw [requiredMissing, ofCheck_key]
    rfl
  field := field?_ofCheck _ _ f _
  missing _ := by
    rw [requiredMissing, ofCheck_key]
    rfl
  malformed h := absurd rfl h

/-- The fault of a field whose value is not as it should be, whatever the message. -/
theorem of_badFormat (f : Field) (message : String) (value : Text) (hvalue : value ≠ []) :
    (badFormat f message value).Blames f value where
  kind := by
    rw [badFormat, ofCheck_key]
    rfl
  field := field?_ofCheck _ _ f _
  missing h := absurd h hvalue
  malformed _ := by
    rw [badFormat, ofCheck_key]
    refine ⟨rfl, ?_⟩
    -- The value was named before the field was, and is another detail.
    rw [Table.find?_put, if_neg (by decide), Table.find?, if_pos rfl]

/-- Whatever is said of a field is about its value. -/
theorem of_checkField (f : Field) (value : Text) {fault : AppError}
    (h : checkField f value = .error fault) : fault.Blames f value := by
  unfold checkField at h
  split at h
  · next hempty =>
    rw [List.isEmpty_iff.mp hempty, ← Except.error.inj h]
    exact of_requiredMissing f
  · next hthere =>
    have hvalue : value ≠ [] := mt List.isEmpty_iff.mpr hthere
    split at h
    · rw [← Except.error.inj h]
      exact of_badFormat f _ value hvalue
    · split at h
      · rw [← Except.error.inj h]
        exact of_badFormat f _ value hvalue
      · cases h

end AppError.Blames

/-! ### The walk over the fields -/

/-- The first fault of some fields, as a check finds it. -/
def checkFieldsBy (check : Field → Text → Except AppError Unit) (e : Entries) :
    List Field → Except AppError Unit
  | [] => .ok ()
  | f :: rest =>
      match check f (e.trimmed f) with
      | .ok () => checkFieldsBy check e rest
      | .error fault => .error fault

/-- The first fault of what was entered, with a check for the fields. -/
def checkEntriesBy (check : Field → Text → Except AppError Unit) (e : Entries) :
    Except AppError Unit :=
  if e.passwordsMatch then checkFieldsBy check e Field.all else .error passwordMismatch

theorem checkFields_eq_checkFieldsBy (e : Entries) (fields : List Field) :
    checkFields e fields = checkFieldsBy checkField e fields := by
  induction fields with
  | nil => rfl
  | cons f rest ih =>
      rw [checkFields, checkFieldsBy, ih]
      rfl

theorem checkEntries_eq_checkEntriesBy (e : Entries) :
    checkEntries e = checkEntriesBy checkField e := by
  rw [checkEntries, checkEntriesBy, checkFields_eq_checkFieldsBy]

variable {check check' : Field → Text → Except AppError Unit} {e : Entries}

/-- The walk ends at the first field that has a fault, and passes those before
    it. -/
theorem checkFieldsBy_error {fields : List Field} {fault : AppError}
    (h : checkFieldsBy check e fields = .error fault) :
    ∃ before f behind, fields = before ++ f :: behind ∧
      (∀ g ∈ before, check g (e.trimmed g) = .ok ()) ∧
      check f (e.trimmed f) = .error fault := by
  induction fields with
  | nil => cases h
  | cons f rest ih =>
      rw [checkFieldsBy] at h
      -- A fault here is the first, and what comes of the rest is not looked at.
      cases hcheck : check f (e.trimmed f) with
      | error other =>
          rw [hcheck] at h
          exact ⟨[], f, rest, rfl, nofun, hcheck.trans h⟩
      | ok u =>
          rw [hcheck] at h
          rcases ih h with ⟨before, g, behind, hrest, hpassed, hfault⟩
          refine ⟨f :: before, g, behind, congrArg (f :: ·) hrest, ?_, hfault⟩
          exact List.forall_mem_cons.mpr ⟨hcheck, hpassed⟩

/-- Checks whose faults look alike make walks whose faults look alike. -/
theorem mapError_checkFieldsBy {β : Type} (view : AppError → β)
    (h : ∀ f value, (check f value).mapError view = (check' f value).mapError view)
    (fields : List Field) :
    (checkFieldsBy check e fields).mapError view =
      (checkFieldsBy check' e fields).mapError view := by
  induction fields with
  | nil => rfl
  | cons f rest ih =>
      have hfirst := h f (e.trimmed f)
      rw [checkFieldsBy, checkFieldsBy]
      -- What looks like a fault is one, so both walks end here or neither does.
      generalize check f (e.trimmed f) = result, check' f (e.trimmed f) = result' at hfirst ⊢
      cases result with
      | ok u =>
          cases result' with
          | ok u' => exact ih
          | error fault' => cases hfirst
      | error fault =>
          cases result' with
          | ok u' => cases hfirst
          | error fault' => exact hfirst

/-! ### The wording for usernames -/

/-- The check of a field without the wording for usernames. -/
def checkFieldBriefly (f : Field) (value : Text) : Except AppError Unit :=
  if value.isEmpty then
    .error (requiredMissing f)
  else if !f.complete value then
    .error (badFormat f (f.label ++ " is incomplete or has an invalid format.") value)
  else
    .ok ()

/-- Two messages about the same value are the same but for their words. -/
theorem wordless_badFormat (f : Field) (message message' : String) (value : Text) :
    (badFormat f message value).wordless = (badFormat f message' value).wordless := by
  rw [badFormat, badFormat, AppError.ofCheck_key, AppError.ofCheck_key]
  rfl

/-- The wording for usernames is only that: it is used for what is not complete
    anyway. -/
theorem wordless_checkField (f : Field) (value : Text) :
    (checkField f value).mapError AppError.wordless =
      (checkFieldBriefly f value).mapError AppError.wordless := by
  unfold checkField checkFieldBriefly
  by_cases hempty : value.isEmpty
  · rw [if_pos hempty, if_pos hempty]
  · rw [if_neg hempty, if_neg hempty]
    by_cases hends : f = .username ∧ value.getLast?.any isSeparator
    · have hincomplete : f.complete value = false := by
        rw [← Bool.not_eq_true, hends.1]
        intro hcomplete
        have hends := hends.2
        rw [getLast?_of_complete_username value hcomplete] at hends
        cases hends
      rw [if_pos hends, hincomplete]
      exact congrArg Except.error (wordless_badFormat f _ _ value)
    · rw [if_neg hends]

/-! ### What a submission is told -/

/-- Passwords that differ are told first, whatever else was entered. Otherwise there
    is no fault if every field is complete, and else the fault is about the first
    that is not. A missing input counts as an empty one, and without the wording for
    usernames all of this would be told in other words at most. -/
theorem checkEntries_tells_first (e : Entries) :
    (e.text .password ≠ e.text .confirmation →
      ∃ fault, checkEntries e = .error fault ∧ fault.code = .passwordMismatch ∧
        fault.field? = some (.text "confirm_password")) ∧
    (e.text .password = e.text .confirmation →
      (checkEntries e = .ok () ↔ ∀ f : Field, f.complete (e.trimmed f)) ∧
        ∀ fault, checkEntries e = .error fault →
          ∃ f, e.FirstIncomplete f ∧ fault.Blames f (e.trimmed f)) ∧
    checkEntries e = checkEntries ⟨fun i => some (e.text i)⟩ ∧
    (checkEntries e).mapError AppError.wordless =
      (checkEntriesBy checkFieldBriefly e).mapError AppError.wordless := by
  refine ⟨fun hdiffer => ?_, fun hmatch => ⟨?_, fun fault h => ?_⟩, ?_, ?_⟩
  · have hmismatch : checkEntries e = .error passwordMismatch :=
      if_neg (mt of_decide_eq_true hdiffer)
    exact ⟨passwordMismatch, hmismatch, rfl, rfl⟩
  · rw [checkEntries_eq_ok_iff]
    exact and_iff_right (decide_eq_true hmatch)
  · have hpasswords : e.passwordsMatch := decide_eq_true hmatch
    rw [checkEntries_eq_checkEntriesBy, checkEntriesBy, if_pos hpasswords] at h
    -- The walk over all fields ends where the first of them has a fault.
    rcases checkFieldsBy_error h with ⟨before, f, behind, hall, hpassed, hfault⟩
    have hblames := AppError.Blames.of_checkField f _ hfault
    refine ⟨f, ⟨before, behind, hall, fun g hg => ?_, fun hcomplete => ?_⟩, hblames⟩
    · exact (checkField_eq_ok_iff g _).mp (hpassed g hg)
    · rw [(checkField_eq_ok_iff f _).mpr hcomplete] at hfault
      cases hfault
  · exact checkEntries_of_alike ⟨fun _ _ _ => rfl, Iff.rfl⟩
  · rw [checkEntries_eq_checkEntriesBy, checkEntriesBy, checkEntriesBy]
    split
    · exact mapError_checkFieldsBy AppError.wordless wordless_checkField Field.all
    · rfl

end ManagerSignup
