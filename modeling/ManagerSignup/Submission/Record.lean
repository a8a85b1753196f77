import ManagerSignup.Submission.Entries
import ManagerSignup.Text.Blank
import ManagerSignup.Text.Case
import ManagerSignup.Value

/-!
# Records

What is handed to the server for one manager.

Every text is trimmed but the password, in which a blank may be meant, and the
type of document is put in capitals. The record adds the organization the
manager will belong to.

## Main definitions

* `Record`: What is handed to the server.
* `Record.ofEntries`: The record for what was entered.
* `Record.details`: A record as a value.
-/

namespace ManagerSignup

/-- What is handed to the server for one manager. -/
structure Record where
  name : Text
  username : Text
  password : Text
  countryCode : Text
  phone : Text
  documentType : Text
  documentNumber : Text
  organization : String
  deriving DecidableEq, Repr

namespace Record

/-- The record for what was entered. -/
def ofEntries (e : Entries) (organization : String) : Record :=
  { name := Text.trim (e.text (.guarded .name))
    username := Text.trim (e.text (.guarded .username))
    password := e.text .password
    countryCode := Text.trim (e.text (.guarded .dialCode))
    phone := Text.trim (e.text (.guarded .phoneNumber))
    documentType := Text.upper (Text.trim (e.text .documentType))
    documentNumber := Text.trim (e.text (.guarded .documentNumber))
    organization }

/-- The record as a value. -/
def details (r : Record) : Value :=
  .object
    [("name", .text (Text.toString r.name)),
     ("username", .text (Text.toString r.username)),
     ("password", .text (Text.toString r.password)),
     ("country_code", .text (Text.toString r.countryCode)),
     ("phone", .text (Text.toString r.phone)),
     ("document_type", .text (Text.toString r.documentType)),
     ("document_number", .text (Text.toString r.documentNumber)),
     ("organization", .text r.organization)]

end Record

end ManagerSignup
