import ManagerSignup.Field
import ManagerSignup.Text.Blank

/-!
# Field Grammars

What each field accepts: a character at a position, a pasted text, and a whole
value at the moment of submission.

The three are separate rules on purpose. Typing sees one character and the
value before it; pasting sees the pasted text and nothing else; completeness
sees the whole value. They agree with each other, but no one of them is defined
through another, and that they agree is a matter of proof.

Typing is the most lenient of the three. It refuses a doubled separator in a
username but lets a dot follow an underscore, which only a paste refuses, and it
lets a username end in a separator, which only completeness refuses.

## Main definitions

* `Field.admits`: A character may stand at a position.
* `Field.tolerates`: A value may stand after a character was added to it.
* `Field.limit`: The greatest length of a value.
* `Field.complete`: A value may be submitted.
* `Field.admitsPaste`: A text may be pasted.
* `Field.pasteMode`, `Field.pasteForm`: How an admitted paste is applied.
-/

namespace ManagerSignup

/-- How an admitted paste is applied to the value. -/
inductive PasteMode where
  /-- The pasted text becomes the value. -/
  | replace
  /-- The pasted text is added behind the value. -/
  | append
  deriving DecidableEq, Repr

/-- The name of a paste mode. -/
def PasteMode.name : PasteMode → String
  | replace => "replace"
  | append => "append"

/-- A letter from A to Z, large or small. -/
def isPlainLetter (c : Char) : Bool :=
  ('A' ≤ c && c ≤ 'Z') || ('a' ≤ c && c ≤ 'z')

/-- A letter with the tilde that counts as a letter of its own. -/
def isTildeLetter (c : Char) : Bool :=
  c = 'Ñ' || c = 'ñ'

/-- A vowel with an accent. -/
def isAccentedVowel (c : Char) : Bool :=
  ['Á', 'É', 'Í', 'Ó', 'Ú', 'á', 'é', 'í', 'ó', 'ú'].elem c

/-- A character of a name: a letter or a space. -/
def isNameChar (c : Char) : Bool :=
  isPlainLetter c || isAccentedVowel c || isTildeLetter c || c = ' '

/-- A mark between the parts of a username. -/
def isSeparator (c : Char) : Bool :=
  c = '.' || c = '_'

/-- A character of a part of a username. -/
def isWordChar (c : Char) : Bool :=
  isPlainLetter c || Text.isDigit c || isTildeLetter c

/-- A character of a username. -/
def isUsernameChar (c : Char) : Bool :=
  isWordChar c || isSeparator c

/-- The text ends in one separator twice. -/
def endsDoubled (t : Text) : Bool :=
  match t.reverse with
  | a :: b :: _ => isSeparator a && a = b
  | _ => false

/-- One separator stands twice in a row somewhere in the text. -/
def hasDoubled : Text → Bool
  | a :: b :: rest => (isSeparator a && a = b) || hasDoubled (b :: rest)
  | _ => false

/-- Two separators, the same or not, stand in a row somewhere in the text. -/
def hasAdjacentSeparators : Text → Bool
  | a :: b :: rest => (isSeparator a && isSeparator b) || hasAdjacentSeparators (b :: rest)
  | _ => false

/-- The one dial code that is accepted. -/
def dialCodeText : Text :=
  ['+', '5', '7']

/-- The length of a phone number. -/
def phoneLength : Nat := 10

/-- A digit from one to nine and digits behind it. -/
def isDocumentNumber : Text → Bool
  | [] => false
  | c :: rest => Text.isDigit c && c ≠ '0' && rest.all Text.isDigit

/-- A three and nine digits behind it. -/
def isPhoneNumber : Text → Bool
  | [] => false
  | c :: rest => c = '3' && rest.all Text.isDigit && rest.length + 1 = phoneLength

namespace Field

/-- A character may stand at a position, whatever the characters before it. -/
def admits (f : Field) (position : Nat) (c : Char) : Bool :=
  match f with
  | name => isNameChar c
  | username => !(position = 0 && isSeparator c) && isUsernameChar c
  | documentNumber => Text.isDigit c && !(position = 0 && c = '0')
  | dialCode => dialCodeText[position]? = some c
  | phoneNumber => Text.isDigit c && !(position = 0 && c ≠ '3')

/-- A value may stand after a character was added to it. -/
def tolerates (f : Field) (value : Text) : Bool :=
  match f with
  | username => !endsDoubled value
  | _ => true

/-- The greatest length of a value, if there is one. -/
def limit : Field → Option Nat
  | dialCode => some dialCodeText.length
  | phoneNumber => some phoneLength
  | _ => none

/-- A value may be submitted. -/
def complete (f : Field) (value : Text) : Bool :=
  match f with
  | name => !Text.allBlank value && value.all isNameChar
  | username =>
      !value.isEmpty && !value.head?.any isSeparator && !value.getLast?.any isSeparator &&
        value.all isUsernameChar && !hasDoubled value
  | documentNumber => isDocumentNumber value
  | dialCode => value = dialCodeText
  | phoneNumber => isPhoneNumber value

/-- A text may be pasted, whatever the value it is pasted into. -/
def admitsPaste (f : Field) (text : Text) : Bool :=
  match f with
  | name => !text.isEmpty && text.all isNameChar
  | username =>
      2 ≤ text.length && text.head?.any isWordChar && text.getLast?.any isWordChar &&
        text.all isUsernameChar && !hasAdjacentSeparators text
  | documentNumber => isDocumentNumber text
  | dialCode => text = dialCodeText
  | phoneNumber => isPhoneNumber (Text.trim text)

/-- How an admitted paste is applied to the value. -/
def pasteMode : Field → PasteMode
  | name => .append
  | username => .append
  | documentNumber => .replace
  | dialCode => .replace
  | phoneNumber => .replace

/-- The form in which a pasted text becomes part of the value. -/
def pasteForm (f : Field) (text : Text) : Text :=
  match f with
  | phoneNumber => Text.trim text
  | _ => text

end Field

end ManagerSignup
