import ManagerSignup.Form
import ManagerSignup.Proofs.Reading

/-!
# Loading the Chosen Organization

Whatever text is stored, loading ends with a name or with an error of the
configuration, unless the text holds a number that is too long or goes too deep.

A text may be stored whole, or as the pieces that a store of plain lines made of
it. Joining the pieces cannot fail, since they are texts. The reader then stops at
a faulty place, which is an error of the configuration, or hands over a value, and
a value that is no organization is one too. That is all a form has to be ready for
when it is opened, and it is: what is wrong with the settings is reported, and the
form has no organization.

The two limits of the reader are not on that list. They are faults, nobody on the
way up is ready for a fault, and so there is no form. A number of 4301 digits is a
text like any other and no organization, and the program does not start until it
is gone. What `Reading` says of the limits is what is left of the promise: a text
without so long a number and without so many opening marks cannot do that.

## Main definitions

* `StoredText`: A stored value that stands for a text.
* `LoadFailure.ExplainedBy`: What a failure tells about the text.
* `piecesOfName`: A setting that was taken apart.
* `longNumber`: A setting that stops the program.

## Theorems

* `storedText?_eq`: The text a stored value stands for.
* `load_explained`: What can go wrong with a stored text.
* `Form.ofSettings_ok`, `Form.ofSettings_error`: When there is a form.
* `loadOrganization_cases`: The four ways in which loading a stored text ends.
* `loadOrganization_of_isDigit`: Long numbers are not loaded.
* `loadOrganization_longNumber`: One digit too many, and there is no form.
-/

namespace ManagerSignup

/-- The value is stored for a text: it is the text itself, or its pieces between the
    commas. -/
inductive StoredText : Value → Text → Prop where
  | text (s : String) : StoredText (.text s) (Text.ofString s)
  | pieces (pieces : List String) :
      StoredText (.list (pieces.map .text))
        (List.intercalate [','] (pieces.map Text.ofString))

/-- What a failure to load tells about the text: an error of the configuration is
    one, and a limit of the reader was reached by what is in the text. -/
def LoadFailure.ExplainedBy (t : Text) : LoadFailure → Prop
  | .config e => e.kind = .config
  | .notText .. => False
  | .tooManyDigits count =>
      digitLimit < count ∧
        ∃ digits : Text, digits.length = count ∧ digits.all Text.isDigit ∧ digits <:+: t
  | .tooDeep _ => depthLimit < t.countP Value.isOpening

theorem storedText_toString (t : Text) : StoredText (.text (Text.toString t)) t := by
  have hstored := StoredText.text (Text.toString t)
  rwa [Text.toString, Text.ofString, String.toList_ofList] at hstored

theorem textsFrom_texts (index : Nat) (pieces : List String) :
    textsFrom index (pieces.map .text) = .ok (pieces.map Text.ofString) := by
  induction pieces generalizing index with
  | nil => rfl
  | cons s rest ih =>
      rw [List.map_cons, textsFrom, ih]
      rfl

/-- What is stored for a text is that text, unless it is empty. -/
theorem storedText?_eq {stored : Value} {t : Text} (h : StoredText stored t) :
    storedText? (some stored) = .ok (if t.isEmpty then none else some t) := by
  cases h with
  | text s =>
      -- Whether a text is empty is asked of the stored form of it.
      have hempty : s.isEmpty = (Text.ofString s).isEmpty := by
        rw [Bool.eq_iff_iff, String.isEmpty_iff, List.isEmpty_iff, Text.ofString,
          String.toList_eq_nil_iff]
      rw [← hempty]
      rfl
  | pieces pieces =>
      rw [storedText?, joinedText, textsFrom_texts]
      rfl

/-- What is read and is no organization is an error of the configuration. -/
theorem kind_of_nameIn {data : Value} {e : AppError} (h : nameIn data = .error e) :
    e.kind = .config := by
  unfold nameIn at h
  split at h
  · split at h
    · cases h
    · cases h
    · cases h
      rfl
  · cases h
    rfl

/-- Reading a name fails for a reason that is in the text. -/
theorem nameOf_explained {t : Text} {failure : LoadFailure} (h : nameOf t = .error failure) :
    failure.ExplainedBy t := by
  unfold nameOf Value.read at h
  cases hread : Value.readWhole t with
  | ok data =>
      rw [hread] at h
      cases hname : nameIn data with
      | ok name =>
          simp only [Except.mapError, hname] at h
          cases h
      | error e =>
          simp only [Except.mapError, hname, Except.error.injEq] at h
          rw [← h]
          exact kind_of_nameIn hname
  | error stop =>
      -- The reader vouches for its limits, and a faulty place is an error as it stands.
      have hfound := Value.readWhole_found t stop hread
      rw [hread] at h
      cases stop with
      | here cause left =>
          cases h
          rfl
      | tooManyDigits count =>
          cases h
          exact hfound
      | tooDeep opened =>
          cases h
          exact hfound

/-- Loading what is stored for a text fails for a reason that is in the text. -/
theorem load_explained {stored : Value} {t : Text} (h : StoredText stored t)
    {failure : LoadFailure} (hfails : loadOrganization (some stored) = .error failure) :
    failure.ExplainedBy t := by
  -- Nothing can fail before the text is read, and an empty one is not read at all.
  rw [loadOrganization, storedText?_eq h] at hfails
  cases hempty : t.isEmpty with
  | true =>
      rw [hempty] at hfails
      cases hfails
  | false =>
      rw [hempty] at hfails
      change (nameOf t >>= _) = _ at hfails
      cases hname : nameOf t with
      | ok name =>
          rw [hname] at hfails
          cases hfails
      | error failure' =>
          rw [hname] at hfails
          cases hfails
          exact nameOf_explained hname

namespace Form

/-- There is a form if there is a name, and also if there is an error of the
    configuration. -/
theorem ofSettings_ok {stored : Option Value} (backend : Backend)
    (h : (∃ loaded, loadOrganization stored = .ok loaded) ∨
      ∃ e, loadOrganization stored = .error (.config e)) :
    ∃ form, ofSettings stored backend = .ok form := by
  unfold ofSettings
  rcases h with ⟨loaded, hloaded⟩ | ⟨e, he⟩
  · rw [hloaded]
    exact ⟨_, rfl⟩
  · rw [he]
    exact ⟨_, rfl⟩

/-- Any other failure leaves no form. -/
theorem ofSettings_error {stored : Option Value} (backend : Backend) {failure : LoadFailure}
    (h : loadOrganization stored = .error failure) (hother : ∀ e, failure ≠ .config e) :
    ofSettings stored backend = .error failure := by
  unfold ofSettings
  rw [h]
  cases failure with
  | config e => exact absurd rfl (hother e)
  | _ => rfl

end Form

/-- Loading what is stored for a text ends in one of four ways. There is a name, or
    there is an error of the configuration, and then there is a form. Or the text
    has a number in it with more digits than the reader takes, or more marks that
    open a list or an object than it goes down, and then there is none. -/
theorem loadOrganization_cases {stored : Value} {t : Text} (h : StoredText stored t) :
    (((∃ loaded, loadOrganization (some stored) = .ok loaded) ∨
        ∃ e, loadOrganization (some stored) = .error (.config e) ∧ e.kind = .config) ∧
      ∀ backend, ∃ form, Form.ofSettings (some stored) backend = .ok form) ∨
    (∃ count, loadOrganization (some stored) = .error (.tooManyDigits count) ∧
      (∀ backend, Form.ofSettings (some stored) backend = .error (.tooManyDigits count)) ∧
      digitLimit < count ∧
      ∃ digits : Text, digits.length = count ∧ digits.all Text.isDigit ∧ digits <:+: t) ∨
    ∃ opened, loadOrganization (some stored) = .error (.tooDeep opened) ∧
      (∀ backend, Form.ofSettings (some stored) backend = .error (.tooDeep opened)) ∧
      depthLimit < t.countP Value.isOpening := by
  cases hload : loadOrganization (some stored) with
  | ok loaded =>
      exact Or.inl ⟨Or.inl ⟨loaded, rfl⟩,
        fun backend => Form.ofSettings_ok backend (Or.inl ⟨loaded, hload⟩)⟩
  | error failure =>
      have hexplained := load_explained h hload
      -- A form is ready for the first kind of failure and for none of the others.
      cases failure with
      | config e =>
          exact Or.inl ⟨Or.inr ⟨e, rfl, hexplained⟩,
            fun backend => Form.ofSettings_ok backend (Or.inr ⟨e, hload⟩)⟩
      | notText index kind => exact absurd hexplained id
      | tooManyDigits count =>
          exact Or.inr (Or.inl ⟨count, rfl,
            fun backend => Form.ofSettings_error backend hload nofun, hexplained⟩)
      | tooDeep opened =>
          exact Or.inr (Or.inr ⟨opened, rfl,
            fun backend => Form.ofSettings_error backend hload nofun, hexplained⟩)

/-- A name with a comma in it, as a store of plain lines takes it apart. -/
def piecesOfName : List String := ["\x7b\"nombre\": \"Acme", " S.A.\"\x7d"]

theorem loadOrganization_cases_pieces :
    StoredText (.list (piecesOfName.map .text))
        (Text.ofString "\x7b\"nombre\": \"Acme, S.A.\"\x7d") ∧
      (loadOrganization (some (.list (piecesOfName.map .text)))).toOption.map Loaded.name =
        some (Text.ofString "Acme, S.A.") ∧
      ∀ backend, ∃ form,
        Form.ofSettings (some (.list (piecesOfName.map .text))) backend = .ok form := by
  have hstored : StoredText (.list (piecesOfName.map .text))
      (Text.ofString "\x7b\"nombre\": \"Acme, S.A.\"\x7d") := by
    have hjoined : Text.ofString "\x7b\"nombre\": \"Acme, S.A.\"\x7d" =
        List.intercalate [','] (piecesOfName.map Text.ofString) := by
      decide +kernel
    rw [hjoined]
    exact .pieces piecesOfName
  have hname : (loadOrganization (some (.list (piecesOfName.map .text)))).toOption.map
      Loaded.name = some (Text.ofString "Acme, S.A.") := by
    decide +kernel
  refine ⟨hstored, hname, ?_⟩
  rcases loadOrganization_cases hstored with ⟨-, hform⟩ | ⟨count, hload, -⟩ | ⟨opened, hload, -⟩
  · exact hform
  · rw [hload] at hname
    cases hname
  · rw [hload] at hname
    cases hname

/-- The third way is taken: what is stored is a number and too long, and that is
    not an error of the configuration. -/
theorem loadOrganization_of_isDigit {t : Text} (hdigits : t.all Text.isDigit)
    (hfirst : t.head? ≠ some '0') (hlong : digitLimit < t.length) :
    loadOrganization (some (.text (Text.toString t))) = .error (.tooManyDigits t.length) := by
  have hnonempty : t.isEmpty = false := by
    cases t with
    | nil => cases hlong
    | cons c rest => rfl
  -- The limit on digits is no error of the configuration, so it passes all handlers.
  have hname : nameOf t = .error (.tooManyDigits t.length) := by
    rw [nameOf, Value.read, Value.readWhole_of_isDigit hdigits hfirst hlong]
    rfl
  rw [loadOrganization, storedText?_eq (storedText_toString t), hnonempty]
  change (nameOf t >>= _) = _
  rw [hname]
  rfl

/-- A number with one digit more than the reader takes. -/
def longNumber : Text :=
  List.replicate (digitLimit + 1) '1'

/-- Not every text that is no organization is an error of the configuration: with
    this one stored there is no form. -/
theorem loadOrganization_longNumber :
    StoredText (.text (Text.toString longNumber)) longNumber ∧
      loadOrganization (some (.text (Text.toString longNumber))) =
        .error (.tooManyDigits (digitLimit + 1)) ∧
      ∀ backend, Form.ofSettings (some (.text (Text.toString longNumber))) backend =
        .error (.tooManyDigits (digitLimit + 1)) := by
  have hload : loadOrganization (some (.text (Text.toString longNumber))) =
      .error (.tooManyDigits (digitLimit + 1)) := by
    have hlength : longNumber.length = digitLimit + 1 := List.length_replicate
    rw [← hlength]
    refine loadOrganization_of_isDigit ?_ nofun ?_
    · exact List.all_replicate.trans rfl
    · rw [hlength]
      exact Nat.lt_succ_self _
  exact ⟨storedText_toString _, hload, fun backend => Form.ofSettings_error backend hload nofun⟩

end ManagerSignup
