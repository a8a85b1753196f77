import ManagerSignup.Field.Grammar
import ManagerSignup.Text.Quoted
import ManagerSignup.Journal

/-!
# Insertions

What happens to the value of a field when something is typed or pasted.

An insertion is always at the end of the value, and it is taken whole or not at
all: the answer is the new value, or a rejection that says why and leaves the
value alone. Everything here is a function of the value before, so a field needs
no memory of how its value came about.

A value is *typable* when it can be built up from the empty one key by key. The
keys are tried from the left and the first one that is refused settles the
question, which is why a value that is not typable comes with exactly one
rejection.

## Main definitions

* `Rejection`: Why an insertion was refused.
* `Field.typeChar`: Typing one character.
* `Field.typeText`: A keystroke with whatever text it carries.
* `Field.paste`: Pasting a text.
* `Field.insert`: Either of the two.
* `Field.revise`: An insertion, or taking characters off the end.
* `Field.typeAll`: Typing the characters of a text one after the other.
* `Field.typable`: A value that can be typed.
* `Field.judge`: Whether a value is complete, on its way, or impossible.
-/

namespace ManagerSignup

/-- Why an insertion was refused. -/
inductive RejectReason where
  | notOneCharacter
  | notAdmitted (position : Nat)
  | notTolerated
  | tooLong (limit : Nat)
  | pasteRule
  deriving DecidableEq, Repr

/-- The reason in words. -/
def RejectReason.message : RejectReason → String
  | notOneCharacter => "not a single character"
  | notAdmitted position => "character not allowed at position " ++ toString position
  | notTolerated => "positional rule violated"
  | tooLong limit => "exceeds " ++ toString limit ++ " characters"
  | pasteRule => "paste rule violated"

/-- A refused insertion: the field, the reason, the length of the value that
    was kept, and what was proposed. -/
structure Rejection where
  field : Field
  reason : RejectReason
  length : Nat
  proposed : Text
  deriving DecidableEq, Repr

namespace Rejection

/-- The rejection in words. -/
def message (r : Rejection) : String :=
  "Rejected insertion for " ++ r.field.key ++ ": " ++ r.reason.message ++ " (length=" ++
    toString r.length ++ ", proposed=" ++ Text.toString (Text.quote r.proposed) ++ ")"

/-- The line a rejection leaves in the journal. -/
def entry (r : Rejection) : Entry :=
  { level := .debug, source := .typing, message := r.message }

end Rejection

/-- Something put at the end of a value at once. -/
inductive Insertion where
  | keystroke (text : Text)
  | paste (text : Text)
  deriving DecidableEq, Repr

/-- A step in the making of a value: something is put at its end, or characters
    are taken off it. -/
inductive Revision where
  | insert (i : Insertion)
  | shorten (count : Nat)
  deriving DecidableEq, Repr

/-- What is known about a value as a whole. -/
inductive Judgement where
  | acceptable
  | intermediate
  | invalid
  deriving DecidableEq, Repr

/-- The name of a judgement. -/
def Judgement.name : Judgement → String
  | acceptable => "Acceptable"
  | intermediate => "Intermediate"
  | invalid => "Invalid"

namespace Field

/-- Typing one character: it has to be admitted at its position, the value with
    it has to be tolerated, and the value must not grow too long. -/
def typeChar (f : Field) (value : Text) (c : Char) : Except Rejection Text :=
  let refuse (reason : RejectReason) : Except Rejection Text :=
    .error ⟨f, reason, value.length, [c]⟩
  if !f.admits value.length c then
    refuse (.notAdmitted value.length)
  else if !f.tolerates (value ++ [c]) then
    refuse .notTolerated
  else
    match f.limit with
    | some limit =>
        if limit < value.length + 1 then refuse (.tooLong limit) else .ok (value ++ [c])
    | none => .ok (value ++ [c])

/-- A keystroke with the text it carries, which has to be one character. -/
def typeText (f : Field) (value typed : Text) : Except Rejection Text :=
  match typed with
  | [c] => f.typeChar value c
  | _ => .error ⟨f, .notOneCharacter, value.length, typed⟩

/-- Pasting a text. -/
def paste (f : Field) (value text : Text) : Except Rejection Text :=
  if f.admitsPaste text then
    match f.pasteMode with
    | .replace => .ok (f.pasteForm text)
    | .append => .ok (value ++ f.pasteForm text)
  else
    .error ⟨f, .pasteRule, value.length, text⟩

/-- Putting something at the end of a value. -/
def insert (f : Field) (value : Text) : Insertion → Except Rejection Text
  | .keystroke text => f.typeText value text
  | .paste text => f.paste value text

/-- A step in the making of a value. Taking characters off always succeeds. -/
def revise (f : Field) (value : Text) : Revision → Except Rejection Text
  | .insert i => f.insert value i
  | .shorten count => .ok (value.take (value.length - count))

/-- Typing the characters of a text one after the other, starting from a value
    and stopping at the first that is refused. -/
def typeAll (f : Field) (value : Text) (text : Text) : Except Rejection Text :=
  text.foldlM f.typeChar value

/-- The rejection that shows that a value cannot be typed. -/
def obstacle? (f : Field) (value : Text) : Option Rejection :=
  match f.typeAll [] value with
  | .ok _ => none
  | .error r => some r

/-- The value can be typed key by key, starting from the empty one. -/
def typable (f : Field) (value : Text) : Bool :=
  (f.obstacle? value).isNone

/-- What asking whether a value can be typed leaves in the journal. -/
def typableLog (f : Field) (value : Text) : List Entry :=
  (f.obstacle? value).toList.map Rejection.entry

/-- Whether a value is complete, on its way to a complete one, or neither. The
    empty value is always on its way. -/
def judge (f : Field) (value : Text) : Judgement :=
  if value.isEmpty then .intermediate
  else if f.complete value then .acceptable
  else if f.typable value then .intermediate
  else .invalid

/-- What judging a value leaves in the journal. -/
def judgeLog (f : Field) (value : Text) : List Entry :=
  if value.isEmpty || f.complete value then [] else f.typableLog value

end Field

end ManagerSignup
