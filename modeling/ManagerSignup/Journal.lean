/-!
# Journal

What the parts of the program write down about what they do.

An entry names the part that wrote it, so that a reader of the journal can tell
a rejected keystroke from a failed submission without parsing sentences. Entries
are plain data that the deciding functions return beside their decisions; where
they end up is not their business. A report of an error carries two more things:
the code of the error, and whether the error had been raised, in which case the
place it was raised at is written too.

## Main definitions

* `Level`: How much an entry matters.
* `Source`: The part of the program that wrote an entry.
* `Entry`: One line of the journal.
-/

namespace ManagerSignup

/-- How much an entry matters. -/
inductive Level where
  | debug
  | info
  | warning
  | error
  deriving DecidableEq, Repr

/-- The name of a level. -/
def Level.name : Level → String
  | debug => "DEBUG"
  | info => "INFO"
  | warning => "WARNING"
  | error => "ERROR"

/-- The part of the program that wrote an entry. -/
inductive Source where
  | typing
  | failures
  | settings
  | submission
  | guard
  | form
  | reports
  deriving DecidableEq, Repr

/-- The name under which a part writes. -/
def Source.name : Source → String
  | typing => "core.engine"
  | failures => "core.errors"
  | settings => "core.config"
  | submission => "core.registration"
  | guard => "gui.validation.guarded_line_edit"
  | form => "gui.registration_form"
  | reports => "registration_gui.errors"

/-- What an error report adds to its line: the code of the error and whether
    the error had been raised. -/
structure ReportTag where
  code : String
  raised : Bool
  deriving DecidableEq, Repr

/-- One line of the journal. -/
structure Entry where
  level : Level
  source : Source
  message : String
  report : Option ReportTag := none
  deriving DecidableEq, Repr

end ManagerSignup
