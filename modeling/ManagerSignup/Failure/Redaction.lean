import ManagerSignup.Value.Shown
import ManagerSignup.Text.Case

/-!
# Redaction

The details of an error without what must not be written down.

A detail is judged by its name alone. If the name speaks of a secret, in
whatever case, its value is replaced before anybody looks at it, so that nothing
about it, not even its length, can be told from the outcome. Every other value
is kept as text and cut when it is long. A cut text ends in three dots and is
therefore a little longer than the limit, but cutting it again gives the same
text: its first characters are the same as before, and so are the dots.

## Main definitions

* `secretWords`: The words by which a name speaks of a secret.
* `isSecretName`: A name that speaks of a secret.
* `shorten`: A text cut to the limit.
* `redact`: The details without secrets and without long texts.
-/

namespace ManagerSignup

/-- The words by which a name speaks of a secret. -/
def secretWords : List Text :=
  [['p', 'a', 's', 's', 'w', 'o', 'r', 'd'],
   ['c', 'o', 'n', 't', 'r', 'a', 's', 'e', 'n', 'a'],
   ['t', 'o', 'k', 'e', 'n'],
   ['k', 'e', 'y'],
   ['s', 'e', 'c', 'r', 'e', 't']]

/-- The name speaks of a secret, in whatever case. -/
def isSecretName (name : String) : Bool :=
  let small := Text.lower (Text.ofString name)
  secretWords.any fun word => Text.occursIn word small

/-- The greatest number of characters of a detail that is kept whole. -/
def detailLimit : Nat := 200

/-- What stands in the place of a secret. -/
def redactedMark : String := "[REDACTED]"

/-- A text cut to the limit, with dots where it was cut. -/
def shorten (t : Text) : Text :=
  if t.length ≤ detailLimit then t else t.take detailLimit ++ ['.', '.', '.']

/-- One detail as it may be written down. -/
def redactValue (name : String) (value : Value) : Value :=
  if isSecretName name then .text redactedMark else .text (Text.toString (shorten value.plain))

/-- The details without secrets and without long texts. -/
def redact (details : Members) : Members :=
  details.map fun (name, value) => (name, redactValue name value)

end ManagerSignup
