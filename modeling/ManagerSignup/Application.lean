import ManagerSignup.Form
import ManagerSignup.Settings.Location

/-!
# The Application

The form as it is run on its own.

Without a server to talk to, the application hands its records to the backend
that sends nothing, so what it does can be watched without harm. It takes the
organization from the settings and ends when the pause after a registration is
over.

## Main definitions

* `Application`: The running application.
* `Application.start`: The application with what is in the settings.
* `Application.wasQuit`: It was asked to end.
-/

namespace ManagerSignup

/-- The running application: the names under which the platform files its
    settings, and its form. -/
structure Application where
  organizationName : String
  applicationName : String
  form : Form

namespace Application

/-- The application with what is in the settings. -/
def start (stored : Option Value) : Except LoadFailure Application := do
  let form ← Form.ofSettings stored .dryRun
  return {
    organizationName := ManagerSignup.organizationName
    applicationName := ManagerSignup.applicationName
    form }

/-- It was asked to end. -/
def wasQuit (a : Application) : Bool :=
  a.form.movedOn

/-- How it reports its end to whoever started it: nothing went wrong. -/
def exitStatus (_ : Application) : Nat := 0

end Application

end ManagerSignup
