import ManagerSignup.Text

/-!
# Locations

Where the application keeps its files.

A location is a path in normal form: empty parts and parts that stay where they
are have been dropped, while parts that lead upwards are kept, because what they
lead to depends on the file system. A path that starts with exactly two slashes
is neither relative nor an ordinary absolute one and keeps both; any other
number of slashes means the root.

The platform proposes a place for the data of an application. If it proposes
none, the data goes below the place for configuration, under the names of the
organization and of the application.

## Main definitions

* `Location`: A path in normal form.
* `Location.ofText`, `Location.render`: The path a text stands for, and back.
* `Location.below`: A path inside another.
* `dataLocation`, `logLocation`: Where the application keeps its files.
-/

namespace ManagerSignup

/-- The organization that settings are stored under. -/
def organizationName : String := "RegistroClientes"

/-- The application that settings are stored under. -/
def applicationName : String := "RegistrationGUI"

/-- A path in normal form: the slashes it starts with, and its parts. -/
structure Location where
  root : Text
  parts : List Text
  deriving DecidableEq, Repr

namespace Location

/-- The parts of a text between slashes, empty ones included. -/
def splitSlashes : Text → List Text
  | [] => [[]]
  | c :: rest =>
      if c = '/' then [] :: splitSlashes rest
      else
        match splitSlashes rest with
        | [] => [[c]]
        | part :: parts => (c :: part) :: parts

/-- The slashes that a path starts with, in normal form. -/
def rootOf (t : Text) : Text :=
  match (t.takeWhile fun c => c = '/').length with
  | 0 => []
  | 2 => ['/', '/']
  | _ => ['/']

/-- The path a text stands for. -/
def ofText (t : Text) : Location :=
  { root := rootOf t
    parts := (splitSlashes t).filter fun part => !part.isEmpty && part ≠ ['.'] }

/-- The path as a text; a path that leads nowhere is a dot. -/
def render (l : Location) : Text :=
  if l.root.isEmpty && l.parts.isEmpty then ['.']
  else l.root ++ List.intercalate ['/'] l.parts

/-- The part of a path with a given name. -/
def below (l : Location) (name : String) : Location :=
  { l with parts := l.parts ++ [Text.ofString name] }

end Location

/-- Where the application keeps its data, given the places that the platform
    proposes for data and for configuration. -/
def dataLocation (proposed configuration : Text) : Location :=
  if proposed.isEmpty then
    ((Location.ofText configuration).below organizationName).below applicationName
  else
    Location.ofText proposed

/-- Where the application keeps its journal. -/
def logLocation (proposed configuration : Text) : Location :=
  (dataLocation proposed configuration).below "logs"

end ManagerSignup
