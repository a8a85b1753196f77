import ManagerSignup.Text.Quoted
import ManagerSignup.Decimal.Layout

/-!
# Broken UTF-8

Where a sequence of bytes stops being UTF-8, and why.

Only the first fault of a sequence is of interest. It is one of three: a byte
that cannot begin a character, a byte that cannot continue one, or an end in the
middle of a character. In the last two the fault covers the bytes that were fine
so far, so it is a range. The second byte of a character is checked more
strictly than the others, because it is the one that would make a character
longer than necessary, a surrogate, or too large.

## Main definitions

* `Utf8Fault`: The first place where bytes are not UTF-8.
* `Utf8Fault.message`: The fault in words.
* `utf8Fault?`: Looking for the fault.
-/

namespace ManagerSignup

/-- What is wrong with the bytes. -/
inductive Utf8Cause where
  | start
  | continuation
  | ending
  deriving DecidableEq, Repr

/-- The cause in words. -/
def Utf8Cause.message : Utf8Cause → String
  | start => "invalid start byte"
  | continuation => "invalid continuation byte"
  | ending => "unexpected end of data"

/-- The first place where bytes are not UTF-8: the bytes from `position` on,
    `length` of them, of which `byte` is the first. -/
structure Utf8Fault where
  position : Nat
  length : Nat
  byte : Nat
  cause : Utf8Cause
  deriving DecidableEq, Repr

/-- The fault in words. -/
def Utf8Fault.message (f : Utf8Fault) : String :=
  let place :=
    if f.length = 1 then
      "byte 0x" ++ Text.toString (Text.hexDigits 2 f.byte) ++ " in position " ++
        toString f.position
    else
      "bytes in position " ++ toString f.position ++ "-" ++
        toString (f.position + f.length - 1)
  "'utf-8' codec can't decode " ++ place ++ ": " ++ f.cause.message

/-- The number of bytes of a character that begins with a byte. -/
def utf8Length? (byte : Nat) : Option Nat :=
  if byte < 0x80 then some 1
  else if byte < 0xc2 then none
  else if byte < 0xe0 then some 2
  else if byte < 0xf0 then some 3
  else if byte < 0xf5 then some 4
  else none

/-- A byte that continues a character. -/
def isContinuation (byte : Nat) : Bool :=
  0x80 ≤ byte && byte < 0xc0

/-- A byte that may come second after a given first one. -/
def isSecond (first byte : Nat) : Bool :=
  isContinuation byte &&
    (first ≠ 0xe0 || 0xa0 ≤ byte) && (first ≠ 0xed || byte < 0xa0) &&
    (first ≠ 0xf0 || 0x90 ≤ byte) && (first ≠ 0xf4 || byte < 0x90)

/-- How many of the bytes after the first one of a character are as they should
    be; `missing` bytes should follow. -/
def goodBytes (first : Nat) (missing : Nat) (rest : List Nat) : Nat :=
  match rest.take missing with
  | [] => 0
  | second :: more =>
      if isSecond first second then 1 + (more.takeWhile isContinuation).length else 0

/-- The first fault in the bytes from a position on. -/
def utf8FaultFrom? : Nat → Nat → List Nat → Option Utf8Fault
  | 0, _, _ => none
  | _ + 1, _, [] => none
  | fuel + 1, position, first :: rest =>
      match utf8Length? first with
      | none => some ⟨position, 1, first, .start⟩
      | some length =>
          let missing := length - 1
          let good := goodBytes first missing rest
          if good = missing then utf8FaultFrom? fuel (position + length) (rest.drop missing)
          else if good = rest.length then some ⟨position, good + 1, first, .ending⟩
          else some ⟨position, good + 1, first, .continuation⟩

/-- The first fault in a sequence of bytes, if it is not UTF-8. -/
def utf8Fault? (bytes : List Nat) : Option Utf8Fault :=
  utf8FaultFrom? bytes.length 0 bytes

end ManagerSignup
