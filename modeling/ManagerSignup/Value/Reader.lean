import ManagerSignup.Value
import ManagerSignup.Decimal.Layout

/-!
# Reading Values

A value from its JSON text, or the first place where the text stops being one.

Every reading function takes the text that is left and returns a value with the
text that is left after it. A place in the text is the length of what is left
there, so nothing has to be counted along the way, and a failure only has to
remember one such length; `read` turns it into a position at the very end. The
descent carries a budget of steps computed from the length of the text, two for
each character, which no text can use up, because every second step takes at
least one character away.

Three things go beyond the standard: the names of the infinite numbers and of
what is not a number are accepted, a repeated name in an object takes the later
value at the earlier place, and whole numbers may be as long as `digitLimit`,
past which the text is refused without a position. In the same way lists and
objects may stand in each other `depthLimit` deep, which is a matter of the room that
a program has and not of the notation. What goes deeper is refused at the mark that
opens it, so nothing behind that mark is ever looked at.

## Main definitions

* `ReadCause`: What was wrong at the place where reading stopped.
* `ReadError`: Why a text is no value.
* `ReadError.message`: The error in words.
* `Value.read`: Reading a whole text.
-/

namespace ManagerSignup

/-- What was wrong at the place where reading stopped. -/
inductive ReadCause where
  | byteOrderMark
  | expectedValue
  | expectedName
  | expectedColon
  | expectedComma
  | unterminatedText
  | controlCharacter
  | badEscape
  | badCodeEscape
  | extraData
  deriving DecidableEq, Repr

/-- What holds further values. -/
inductive Opening where
  | list
  | object
  deriving DecidableEq, Repr

/-- What an opening is called in messages. -/
def Opening.name : Opening → String
  | list => "array"
  | object => "object"

/-- Why a text is no value: something stands at a position that cannot stand
    there, a whole number has too many digits, or a list or an object stands too
    deep in others. -/
inductive ReadError where
  | malformed (cause : ReadCause) (line column position : Nat)
  | tooManyDigits (count : Nat)
  | tooDeep (opened : Opening)
  deriving DecidableEq, Repr

/-- The cause in words. -/
def ReadCause.message : ReadCause → String
  | byteOrderMark => "Unexpected UTF-8 BOM (decode using utf-8-sig)"
  | expectedValue => "Expecting value"
  | expectedName => "Expecting property name enclosed in double quotes"
  | expectedColon => "Expecting ':' delimiter"
  | expectedComma => "Expecting ',' delimiter"
  | unterminatedText => "Unterminated string starting at"
  | controlCharacter => "Invalid control character at"
  | badEscape => "Invalid \\escape"
  | badCodeEscape => "Invalid \\uXXXX escape"
  | extraData => "Extra data"

/-- The greatest number of digits a whole number may have. -/
def digitLimit : Nat := 4300

/-- How deep lists and objects may stand in each other. No rule says so: the reader
    goes down by calling itself, and this is how often it can where the setting is
    loaded, with the calls that are open there already. Writing a value out in a message
    takes more calls for each level and so ends a few levels earlier; that is not
    followed here, and whatever was read can be written out. -/
def depthLimit : Nat := 991

/-- The error in words; a malformed text is told with line, column and
    position, the first two counted from one. -/
def ReadError.message : ReadError → String
  | malformed cause line column position =>
      cause.message ++ ": line " ++ toString line ++ " column " ++ toString column ++
        " (char " ++ toString position ++ ")"
  | tooManyDigits count =>
      "Exceeds the limit (" ++ toString digitLimit ++
        " digits) for integer string conversion: value has " ++ toString count ++
        " digits; use sys.set_int_max_str_digits() to increase the limit"
  | tooDeep opened =>
      "maximum recursion depth exceeded while decoding a JSON " ++ opened.name ++
        " from a unicode string"

namespace Value

/-- Where and why reading stopped; `left` characters were left there. -/
inductive Stop where
  | here (cause : ReadCause) (left : Nat)
  | tooManyDigits (count : Nat)
  | tooDeep (opened : Opening)

/-- What is left after the white space in front; only four characters count as
    white space between the parts of a value. -/
def skipBlank (t : Text) : Text :=
  t.dropWhile fun c => c = ' ' ∨ c = '\t' ∨ c = '\n' ∨ c = '\r'

/-- The value of a digit in base sixteen. -/
def hexValue? (c : Char) : Option Nat :=
  if '0' ≤ c ∧ c ≤ '9' then some (c.toNat - 48)
  else if 'a' ≤ c ∧ c ≤ 'f' then some (c.toNat - 87)
  else if 'A' ≤ c ∧ c ≤ 'F' then some (c.toNat - 55)
  else none

/-- The number four digits in base sixteen stand for. -/
def fourHex? (a b c d : Char) : Option Nat := do
  let a ← hexValue? a
  let b ← hexValue? b
  let c ← hexValue? c
  let d ← hexValue? d
  return ((a * 16 + b) * 16 + c) * 16 + d

/-- The first half of a pair that stands for one code point. -/
def isHighHalf (n : Nat) : Bool :=
  0xd800 ≤ n && n ≤ 0xdbff

/-- The second half of a pair that stands for one code point. -/
def isLowHalf (n : Nat) : Bool :=
  0xdc00 ≤ n && n ≤ 0xdfff

/-- The character for a code; a half without its other half stands for no
    character and is replaced. -/
def characterOf (n : Nat) : Char :=
  if isHighHalf n || isLowHalf n then '\ufffd' else Char.ofNat n

/-- A character written by its code, from behind the `u`. The four digits must
    not be the end of the text, and of a pair of codes both halves are read
    together. -/
def codeEscape (t : Text) : Except Stop (Char × Text) :=
  match t with
  | a :: b :: c :: d :: next :: rest =>
      match fourHex? a b c d with
      | none => .error (.here .badCodeEscape (t.length + 1))
      | some high =>
          match isHighHalf high, next :: rest with
          | true, '\\' :: 'u' :: a :: b :: c :: d :: e :: more =>
              match fourHex? a b c d with
              | none => .error (.here .badCodeEscape (more.length + 6))
              | some low =>
                  if isLowHalf low then
                    .ok (Char.ofNat (0x10000 + (high - 0xd800) * 0x400 + (low - 0xdc00)), e :: more)
                  else
                    .ok (characterOf high, next :: rest)
          | _, _ => .ok (characterOf high, next :: rest)
  | _ => .error (.here .badCodeEscape (t.length + 1))

/-- The character a one-letter escape stands for. -/
def letterEscape? : Char → Option Char
  | '"' => some '"'
  | '\\' => some '\\'
  | '/' => some '/'
  | 'b' => some '\x08'
  | 'f' => some '\x0c'
  | 'n' => some '\n'
  | 'r' => some '\r'
  | 't' => some '\t'
  | _ => none

/-- The characters of a text up to its closing quote; `opening` characters were
    left at the opening one. -/
def readText (opening : Nat) : Nat → Text → Except Stop (Text × Text)
  | 0, t => .error (.here .unterminatedText t.length)
  | fuel + 1, t =>
      match t with
      | [] => .error (.here .unterminatedText opening)
      | '"' :: rest => .ok ([], rest)
      | '\\' :: [] => .error (.here .unterminatedText opening)
      | '\\' :: 'u' :: rest => do
          let (c, rest) ← codeEscape rest
          let (cs, rest) ← readText opening fuel rest
          return (c :: cs, rest)
      | '\\' :: e :: rest =>
          match letterEscape? e with
          | none => .error (.here .badEscape (rest.length + 2))
          | some c => do
              let (cs, rest) ← readText opening fuel rest
              return (c :: cs, rest)
      | c :: rest =>
          if c.toNat ≤ 0x1f then .error (.here .controlCharacter (rest.length + 1))
          else do
            let (cs, rest) ← readText opening fuel rest
            return (c :: cs, rest)

/-- The number digits stand for. -/
def digitsValue (digits : Text) : Nat :=
  digits.foldl (fun n c => n * 10 + (c.toNat - 48)) 0

/-- The digits of the whole part; it has no zero in front unless it is zero. -/
def wholeDigits (t : Text) : Text :=
  match t with
  | '0' :: _ => ['0']
  | _ => t.takeWhile Text.isDigit

/-- The digits behind a point, if at least one follows it. -/
def fractionDigits (t : Text) : Text :=
  match t with
  | '.' :: rest => rest.takeWhile Text.isDigit
  | _ => []

/-- The exponent and what is left behind it, if at least one digit follows the
    mark and its sign. -/
def readExponent? (t : Text) : Option (Int × Text) :=
  match t with
  | mark :: rest =>
      if mark = 'e' ∨ mark = 'E' then
        let (negative, digits) := match rest with
          | '-' :: more => (true, more)
          | '+' :: more => (false, more)
          | _ => (false, rest)
        match digits.takeWhile Text.isDigit with
        | [] => none
        | ds =>
            let n : Int := digitsValue ds
            some (if negative then -n else n, digits.dropWhile Text.isDigit)
      else none
  | [] => none

/-- A number; without a point and an exponent it is whole. -/
def readNumber (t : Text) : Except Stop (Value × Text) :=
  let (negative, body) := match t with
    | '-' :: rest => (true, rest)
    | _ => (false, t)
  match wholeDigits body with
  | [] => .error (.here .expectedValue t.length)
  | whole =>
      let rest := body.drop whole.length
      let fraction := fractionDigits rest
      let rest := if fraction.isEmpty then rest else rest.drop (fraction.length + 1)
      match fraction, readExponent? rest with
      | [], none =>
          if digitLimit < whole.length then .error (.tooManyDigits whole.length)
          else
            let n : Int := digitsValue whole
            .ok (.int (if negative then -n else n), rest)
      | _, exponent =>
          let (shift, rest) := exponent.getD (0, rest)
          .ok (.float (.ofDecimal negative (digitsValue (whole ++ fraction))
            (shift - fraction.length)), rest)

/-- The words that stand for a value. -/
def words : List (Text × Value) :=
  [(['n', 'u', 'l', 'l'], .null),
   (['t', 'r', 'u', 'e'], .bool true),
   (['f', 'a', 'l', 's', 'e'], .bool false),
   (['N', 'a', 'N'], .float .nan),
   (['I', 'n', 'f', 'i', 'n', 'i', 't', 'y'], .float (.infinite false)),
   (['-', 'I', 'n', 'f', 'i', 'n', 'i', 't', 'y'], .float (.infinite true))]

/-- The word at the front of a text and what is left behind it. -/
def readWord? (t : Text) : Option (Value × Text) :=
  words.findSome? fun (word, value) =>
    if word.isPrefixOf t then some (value, t.drop word.length) else none

mutual

/-- One value from the front of a text that does not begin with white space;
    lists and objects may still stand `depth` deep in it. -/
def readValue : Nat → Nat → Text → Except Stop (Value × Text)
  | 0, _, t => .error (.here .expectedValue t.length)
  | fuel + 1, depth, t =>
      match t, depth with
      | '"' :: rest, _ => do
          let (cs, rest) ← readText t.length t.length rest
          return (.text (Text.toString cs), rest)
      | '\x7b' :: _, 0 => .error (.tooDeep .object)
      | '\x7b' :: rest, depth + 1 =>
          match skipBlank rest with
          | '\x7d' :: rest => .ok (.object [], rest)
          | rest => do
              let (members, rest) ← readMembers fuel depth [] rest
              return (.object members, rest)
      | '[' :: _, 0 => .error (.tooDeep .list)
      | '[' :: rest, depth + 1 =>
          match skipBlank rest with
          | ']' :: rest => .ok (.list [], rest)
          | rest => do
              let (items, rest) ← readItems fuel depth rest
              return (.list items, rest)
      | _, _ =>
          match readWord? t with
          | some found => .ok found
          | none => readNumber t

/-- The items of a list from the next one to the closing bracket. -/
def readItems : Nat → Nat → Text → Except Stop (List Value × Text)
  | 0, _, t => .error (.here .expectedValue t.length)
  | fuel + 1, depth, t => do
      let (x, rest) ← readValue fuel depth t
      match skipBlank rest with
      | ']' :: rest => return ([x], rest)
      | ',' :: rest => do
          let (xs, rest) ← readItems fuel depth (skipBlank rest)
          return (x :: xs, rest)
      | rest => .error (.here .expectedComma rest.length)

/-- The members of an object from the next name to the closing brace, assigned
    after the members that came before. -/
def readMembers : Nat → Nat → Members → Text → Except Stop (Members × Text)
  | 0, _, _, t => .error (.here .expectedName t.length)
  | fuel + 1, depth, before, t =>
      match t with
      | '"' :: rest => do
          let (name, rest) ← readText t.length t.length rest
          match skipBlank rest with
          | ':' :: rest => do
              let (x, rest) ← readValue fuel depth (skipBlank rest)
              let members := Table.put (Text.toString name) x before
              match skipBlank rest with
              | '\x7d' :: rest => return (members, rest)
              | ',' :: rest => readMembers fuel depth members (skipBlank rest)
              | rest => .error (.here .expectedComma rest.length)
          | rest => .error (.here .expectedColon rest.length)
      | _ => .error (.here .expectedName t.length)

end

/-- A stop in a text, told by line, column and position. -/
def Stop.toError (t : Text) : Stop → ReadError
  | here cause left =>
      let before := t.take (t.length - left)
      .malformed cause (before.count '\n' + 1)
        ((before.reverse.takeWhile fun c => c ≠ '\n').length + 1) before.length
  | tooManyDigits count => .tooManyDigits count
  | tooDeep opened => .tooDeep opened

/-- The value a whole text stands for, white space around it allowed. -/
def readWhole (t : Text) : Except Stop Value :=
  match t with
  | '\ufeff' :: _ => .error (.here .byteOrderMark t.length)
  | _ => do
      let (value, rest) ← readValue (2 * t.length + 2) depthLimit (skipBlank t)
      match skipBlank rest with
      | [] => return value
      | rest => .error (.here .extraData rest.length)

/-- Reading a whole text. -/
def read (t : Text) : Except ReadError Value :=
  (readWhole t).mapError (Stop.toError t)

end Value

end ManagerSignup
