import ManagerSignup.Proofs.Loading

/-!
# A Setting That Was Taken Apart

Whether the chosen organization is stored as one text or as the pieces between its
commas makes no difference.

A store of plain lines takes a text apart at every comma, and nobody tells it that the
commas were part of the text. What is found is a list, and the commas have to be put
back where they were. There are as many of them as there are joints between the pieces,
wherever they stood: an empty piece at an end is a comma at that end, and one between
two others is a comma that was doubled. So the text is the one that was stored, down to
its last position, and whatever comes after sees the text alone.

What comes of the text is said here as well, since being the same would be little if it
were always nothing. An empty text is no choice. A text that is not read is an error, and
it tells the place where reading stopped, counted in the whole text and not in a piece of
it. What is read has to have the right shape, and then there is a name.

## Main definitions

* `takenApart`: A text as a store of plain lines keeps it.
* `LoadsAs`: What becomes of a text that is loaded.
* `strayCommas`: A text with doubled commas.

## Theorems

* `storedText_takenApart`: The pieces stand for the text.
* `loadOrganization_of_storedText`: What is stored for a text is loaded as the text.
* `loadsAs_of_storedText`: How that ends.
* `loadOrganization_takenApart`: The pieces are loaded as the text is.
-/

namespace ManagerSignup

/-- A text as a store of plain lines keeps it: its pieces between the commas. -/
def takenApart (t : Text) : Value :=
  .list ((t.splitOn ',').map fun piece => .text (Text.toString piece))

theorem storedText_takenApart (t : Text) : StoredText (takenApart t) t := by
  -- The pieces are joined as they were stored, and each of them is what it was as a text.
  have hpieces := StoredText.pieces ((t.splitOn ',').map Text.toString)
  rw [List.map_map, List.map_map] at hpieces
  have hsame : Text.ofString ∘ Text.toString = id := funext fun _ => String.toList_ofList
  rwa [hsame, List.map_id, List.intercalate_splitOn] at hpieces

/-- What is stored for a text is loaded as the text. -/
theorem loadOrganization_of_storedText {stored : Value} {t : Text} (h : StoredText stored t) :
    loadOrganization (some stored) =
      if t.isEmpty then .ok ⟨[], []⟩
      else (nameOf t).map fun name =>
        ⟨name, [⟨.debug, .settings,
          "Loaded selected organization '" ++ Text.toString name ++ "'", none⟩]⟩ := by
  rw [loadOrganization, storedText?_eq h]
  cases t.isEmpty with
  | true => rfl
  | false =>
      change (nameOf t >>= _) = _
      cases nameOf t <;> rfl

/-- What becomes of a text that is loaded. -/
structure LoadsAs (t : Text) (result : Except LoadFailure Loaded) : Prop where
  /-- Nothing was chosen. -/
  empty : t = [] → result = .ok ⟨[], []⟩
  /-- The text is not read, and the error tells why, and where in the whole text. -/
  unreadable : t ≠ [] → ∀ cause line column position,
    Value.read t = .error (.malformed cause line column position) →
      ∃ e, result = .error (.config e) ∧ e.code = .configParseError ∧
        e.userMessage = "The selected organization could not be read" ∧
        e.technicalMessage = some ("Invalid JSON under '" ++ organizationKey ++ "': " ++
          (cause.message ++ ": line " ++ toString line ++ " column " ++ toString column ++
            " (char " ++ toString position ++ ")"))
  /-- What is read has not the shape it should have, and the error shows what has not. -/
  misshapen : ∀ data, Value.read t = .ok data → ∀ e, nameIn data = .error e →
    result = .error (.config e) ∧ e.code = .configInvalid ∧
      e.userMessage = "The selected organization is invalid" ∧
      ∃ x expected, e.technicalMessage = some ("Organization validation failed: " ++
        Text.toString (Value.literal x) ++ " is not of type '" ++ expected ++ "'")
  /-- What is read is an organization. -/
  named : ∀ data, Value.read t = .ok data → ∀ name, nameIn data = .ok name →
    result.map Loaded.name = .ok name
  /-- Too long a number and too deep a value are no errors of the configuration. -/
  limited : (∀ count, Value.read t = .error (.tooManyDigits count) →
      result = .error (.tooManyDigits count)) ∧
    ∀ opened, Value.read t = .error (.tooDeep opened) → result = .error (.tooDeep opened)

/-- A text with something in it that has no name is not loaded. -/
theorem loadOrganization_of_nameOf {stored : Value} {t : Text} (h : StoredText stored t)
    (hsome : t ≠ []) {failure : LoadFailure} (hname : nameOf t = .error failure) :
    loadOrganization (some stored) = .error failure := by
  rw [loadOrganization_of_storedText h, List.isEmpty_eq_false_iff.mpr hsome, hname]
  rfl

/-- What is read and is no organization is shown with the shape it should have. -/
theorem misshapen_of_nameIn {data : Value} {e : AppError} (h : nameIn data = .error e) :
    ∃ x expected, e = misshapen x expected := by
  unfold nameIn at h
  split at h
  · split at h
    · cases h
    · cases h
    · exact ⟨_, _, (Except.error.inj h).symm⟩
  · exact ⟨_, _, (Except.error.inj h).symm⟩

theorem loadsAs_of_storedText {stored : Value} {t : Text} (h : StoredText stored t) :
    LoadsAs t (loadOrganization (some stored)) := by
  have hload := loadOrganization_of_storedText h
  -- An empty text is no choice, though to the reader it is malformed: whoever reads anything
  -- else has read a text with something in it.
  have hsome : ∀ result, Value.read t = result →
      (∀ cause line column position,
        result ≠ .error (.malformed cause line column position)) → t ≠ [] := by
    rintro result hread hother rfl
    exact hother _ _ _ _ hread.symm
  constructor
  case empty =>
    rintro rfl
    exact hload
  case unreadable =>
    intro hne cause line column position hread
    have hname : nameOf t =
        .error (.config (ManagerSignup.unreadable (.malformed cause line column position))) := by
      rw [nameOf, hread]
    exact ⟨_, loadOrganization_of_nameOf h hne hname, rfl, rfl, rfl⟩
  case misshapen =>
    intro data hread e hnone
    have hname : nameOf t = .error (.config e) := by
      rw [nameOf, hread]
      simp only [hnone, Except.mapError]
    obtain ⟨x, expected, rfl⟩ := misshapen_of_nameIn hnone
    have hne : t ≠ [] := hsome _ hread fun _ _ _ _ hmalformed => by cases hmalformed
    exact ⟨loadOrganization_of_nameOf h hne hname, rfl, rfl, x, expected, rfl⟩
  case named =>
    intro data hread name hdata
    have hname : nameOf t = .ok name := by
      rw [nameOf, hread]
      simp only [hdata, Except.mapError]
    have hne : t ≠ [] := hsome _ hread fun _ _ _ _ hmalformed => by cases hmalformed
    rw [hload, List.isEmpty_eq_false_iff.mpr hne, hname]
    rfl
  case limited =>
    constructor
    · intro count hread
      refine loadOrganization_of_nameOf h (hsome _ hread fun _ _ _ _ hother => by cases hother) ?_
      rw [nameOf, hread]
    · intro opened hread
      refine loadOrganization_of_nameOf h (hsome _ hread fun _ _ _ _ hother => by cases hother) ?_
      rw [nameOf, hread]

/-- The pieces between the commas are loaded as the text that was taken apart, wherever
    its commas stood and whether it had any: with the same name and the same lines in the
    journal, or with the same error, down to the place it tells. So are the settings of a
    form. -/
theorem loadOrganization_takenApart (t : Text) :
    loadOrganization (some (takenApart t)) = loadOrganization (some (.text (Text.toString t))) ∧
      (∀ backend, Form.ofSettings (some (takenApart t)) backend =
        Form.ofSettings (some (.text (Text.toString t))) backend) ∧
      LoadsAs t (loadOrganization (some (takenApart t))) := by
  have hpieces := storedText_takenApart t
  have hsame : loadOrganization (some (takenApart t)) =
      loadOrganization (some (.text (Text.toString t))) := by
    rw [loadOrganization_of_storedText hpieces,
      loadOrganization_of_storedText (storedText_toString t)]
  refine ⟨hsame, fun backend => ?_, loadsAs_of_storedText hpieces⟩
  rw [Form.ofSettings, Form.ofSettings, hsame]

/-- A text with two commas next to each other, in a name and behind it. -/
def strayCommas : Text := Text.ofString "\x7b\"nombre\": \"A,,B\",,\x7d"

/-- Five pieces are found for it, one of them empty. The error is at the second of the
    two commas behind the name, counted in the whole text, and it is the error of the
    text that was not taken apart. -/
theorem loadOrganization_strayCommas :
    takenApart strayCommas =
        .list (["\x7b\"nombre\": \"A", "", "B\"", "", "\x7d"].map .text) ∧
      ∃ e, loadOrganization (some (takenApart strayCommas)) = .error (.config e) ∧
        loadOrganization (some (.text (Text.toString strayCommas))) = .error (.config e) ∧
        e.technicalMessage = some ("Invalid JSON under '" ++ organizationKey ++ "': " ++
          (ReadCause.expectedName.message ++ ": line " ++ toString 1 ++ " column " ++
            toString 19 ++ " (char " ++ toString 18 ++ ")")) := by
  have hpieces : (strayCommas.splitOn ',').map Text.toString =
      ["\x7b\"nombre\": \"A", "", "B\"", "", "\x7d"] := by
    decide +kernel
  have hread : Value.read strayCommas = .error (.malformed .expectedName 1 19 18) := by
    have hstops : (match Value.read strayCommas with
        | .ok _ => none
        | .error e => some e) = some (.malformed .expectedName 1 19 18) := by
      decide +kernel
    cases h : Value.read strayCommas with
    | ok data =>
        rw [h] at hstops
        cases hstops
    | error e =>
        rw [h] at hstops
        rw [Option.some.inj hstops]
  obtain ⟨hsame, -, hloads⟩ := loadOrganization_takenApart strayCommas
  obtain ⟨e, he, -, -, hmessage⟩ := hloads.unreadable (by decide) _ _ _ _ hread
  refine ⟨?_, e, he, hsame ▸ he, hmessage⟩
  rw [takenApart, ← hpieces, List.map_map]
  rfl

end ManagerSignup
