import ManagerSignup.Submission

/-!
# History

Everything that happened while the form was in use, with the time at which it
did.

Most of what is worth saying about the form is about when things happen: that a
field is judged some time after the last edit, that a verdict is never announced
twice, that the user is sent on once after a registration. The history keeps
what such a sentence talks about in one list, the announcements that others
listen to and the occasions that led to them alike, so that the sentence can be
read off it.

Fields are named by keys and inputs by widgets. The two are kept apart because a
field may be registered again with another input, and several fields may share
one.

## Main definitions

* `Timer`: What a timer is for.
* `Event`: Something that happened.
* `History`: Events with their times, in order.
-/

namespace ManagerSignup

/-- What a timer is for. -/
inductive Timer (κ : Type) where
  /-- Judging a field anew. Every registration of a field has a timer of its
      own. -/
  | recheck (key : κ) (registration : Nat)
  /-- The pause between a registration and what comes after it. -/
  | pause
  deriving DecidableEq, Repr

/-- Something that happened. -/
inductive Event (κ ω : Type) where
  /-- A widget announced this text. -/
  | changed (widget : ω) (t : Text)
  /-- A field was registered. -/
  | registered (key : κ)
  /-- A field was to be judged at once. -/
  | rechecked (key : κ)
  /-- A timer rang. -/
  | rang (timer : Timer κ)
  /-- The message of a field changed. -/
  | judged (key : κ) (valid : Bool) (message : String)
  /-- The fields as a whole became valid, or no longer are. -/
  | overall (valid : Bool)
  /-- An error was announced. -/
  | reported (error : AppError)
  /-- Something was written down. -/
  | noted (entry : Entry)
  /-- The backend was handed a record and did this with it. -/
  | handedOver (record : Record) (result : Except Failure String)
  /-- A registration was accepted with this reply. -/
  | accepted (reply : String)

/-- An event with the time at which it happened. -/
structure Stamped (κ ω : Type) where
  time : Nat
  event : Event κ ω

/-- Events with their times, in order. -/
abbrev History (κ ω : Type) := List (Stamped κ ω)

end ManagerSignup
