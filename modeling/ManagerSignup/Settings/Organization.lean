import ManagerSignup.Failure
import ManagerSignup.Text.Blank
import ManagerSignup.Value.Reader
import ManagerSignup.Value.Shown

/-!
# Selected Organization

The name of the organization that was chosen before the form was opened.

The choice is stored as the JSON text of an object whose name member holds the
name. A store that keeps its settings in plain lines may have taken the text
apart at every comma, and then a list of texts is found that only has to be
joined again. What is stored may be missing or empty, and then there is no name;
it may also be anything at all, and then loading says what is wrong with it.

A text that is no JSON and a value that is no organization are errors of the
configuration and are reported to the user. Three things are not: a list that
holds something else than texts, a number with too many digits, and lists and
objects that stand too deep in each other. They are faults and go to whoever
asked.

## Main definitions

* `LoadFailure`: Why there is no answer.
* `LoadFailure.failure`: The failure this amounts to.
* `joinedText`: The text a stored list stands for.
* `Loaded`: The name with the lines in the journal.
* `loadOrganization`: The name for what is stored.
-/

namespace ManagerSignup

/-- The key under which the choice is stored. -/
def organizationKey : String := "orgSeleccionada"

/-- The member of the stored object that holds the name. -/
def organizationMember : String := "nombre"

/-- Why the name of the organization could not be told. -/
inductive LoadFailure where
  /-- What is stored is not an organization. -/
  | config (e : AppError)
  /-- A stored list holds something else than texts. -/
  | notText (index : Nat) (kind : String)
  /-- What is stored holds a number with too many digits. -/
  | tooManyDigits (count : Nat)
  /-- What is stored goes too deep. -/
  | tooDeep (opened : Opening)

/-- The failure this amounts to. -/
def LoadFailure.failure : LoadFailure → Failure
  | config e => .app e
  | notText index kind =>
      .fault (.badShape ("sequence item " ++ toString index ++ ": expected str instance, " ++
        kind ++ " found"))
  | tooManyDigits count => .fault (.ofReadError (.tooManyDigits count))
  | tooDeep opened => .fault (.ofReadError (.tooDeep opened))

/-- The texts in a stored list, unless something else is among them; `index`
    items came before. -/
def textsFrom (index : Nat) : List Value → Except LoadFailure (List Text)
  | [] => .ok []
  | .text s :: rest => (textsFrom (index + 1) rest).map (Text.ofString s :: ·)
  | x :: _ => .error (.notText index x.kind)

/-- The text a stored list stands for: its pieces with the commas between them
    that took it apart. -/
def joinedText (items : List Value) : Except LoadFailure Text :=
  (textsFrom 0 items).map fun pieces => List.intercalate [','] pieces

/-- The text that is stored, if anything is. -/
def storedText? (stored : Option Value) : Except LoadFailure (Option Text) :=
  match stored with
  | none => .ok none
  | some (.list items) => (joinedText items).map fun t => if t.isEmpty then none else some t
  | some x => .ok (if x.isEmpty then none else some x.plain)

/-- The error of a stored text that is no JSON. -/
def unreadable (e : ReadError) : AppError :=
  .ofKind .config .configParseError "The selected organization could not be read"
    (some ("Invalid JSON under '" ++ organizationKey ++ "': " ++ e.message))

/-- The error of a stored value that has the wrong shape. -/
def misshapen (x : Value) (expected : String) : AppError :=
  .ofKind .config .configInvalid "The selected organization is invalid"
    (some ("Organization validation failed: " ++ Text.toString x.literal ++
      " is not of type '" ++ expected ++ "'"))

/-- The name in a stored value: the value has to be an object, and the name a
    text if it is there. -/
def nameIn (data : Value) : Except AppError Text :=
  match data with
  | .object members =>
      match Table.find? organizationMember members with
      | none => .ok []
      | some (.text s) => .ok (Text.trim (Text.ofString s))
      | some x => .error (misshapen x "string")
  | x => .error (misshapen x "object")

/-- The name in a stored text. -/
def nameOf (t : Text) : Except LoadFailure Text :=
  match Value.read t with
  | .ok data => (nameIn data).mapError .config
  | .error (.tooManyDigits count) => .error (.tooManyDigits count)
  | .error (.tooDeep opened) => .error (.tooDeep opened)
  | .error e => .error (.config (unreadable e))

/-- The name of the organization, with the lines that loading it left in the
    journal. -/
structure Loaded where
  name : Text
  log : List Entry

/-- The name of the organization for what is stored under its key. -/
def loadOrganization (stored : Option Value) : Except LoadFailure Loaded := do
  match ← storedText? stored with
  | none => return ⟨[], []⟩
  | some t =>
      let name ← nameOf t
      return ⟨name,
        [{ level := .debug, source := .settings,
           message := "Loaded selected organization '" ++ Text.toString name ++ "'" }]⟩

end ManagerSignup
