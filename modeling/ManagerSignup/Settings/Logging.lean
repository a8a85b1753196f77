import ManagerSignup.Text.Case

/-!
# Logging Set-up

Who listens to the journal, and from which level on.

Setting up happens once. The first call attaches an output and sets the level of
the general journal; later calls find the output and leave everything as it is.
The level is given by name in any case. A name that means nothing stands for the
usual level, but two names mean something that is no level, and they are
refused.

Error reports have a journal of their own, which passes nothing on. It writes to
a file that is replaced when it grows too large, and shows what matters on the
console. If the file cannot be opened the console has to do.

## Main definitions

* `Output`: Something that receives entries.
* `RootLog`: The general journal.
* `RootLog.setUp`: Setting up the general journal.
* `errorOutputs`: The outputs of the journal of error reports.
-/

namespace ManagerSignup

/-- Something that receives entries from a level on. -/
inductive Output where
  /-- The console. -/
  | console (level : Nat)
  /-- A file that is replaced when it reaches a size, some old ones kept. -/
  | rotatingFile (level size kept : Nat)
  deriving DecidableEq, Repr

namespace Output

/-- What an output is called. -/
def name : Output → String
  | console _ => "StreamHandler"
  | rotatingFile _ _ _ => "RotatingFileHandler"

/-- The level from which an output receives entries. -/
def level : Output → Nat
  | console l => l
  | rotatingFile l _ _ => l

end Output

/-- The general journal: its level and its outputs. -/
structure RootLog where
  level : Nat
  outputs : List Output
  deriving DecidableEq, Repr

/-- What a name in capitals stands for. -/
inductive LevelName where
  | level (n : Nat)
  /-- A text that is no level. -/
  | text (shown : String)
  /-- Something else that is no level. -/
  | thing (shown : String)
  deriving DecidableEq, Repr

/-- The names that mean something. -/
def levelNames : List (String × LevelName) :=
  [("CRITICAL", .level 50), ("FATAL", .level 50), ("ERROR", .level 40), ("WARNING", .level 30),
   ("WARN", .level 30), ("INFO", .level 20), ("DEBUG", .level 10), ("NOTSET", .level 0),
   ("BASIC_FORMAT", .text "%(levelname)s:%(name)s:%(message)s"),
   ("_STYLES", .thing
      ("\x7b'%': (<class 'logging.PercentStyle'>, '%(levelname)s:%(name)s:%(message)s'), " ++
       "'\x7b': (<class 'logging.StrFormatStyle'>, " ++
       "'\x7blevelname\x7d:\x7bname\x7d:\x7bmessage\x7d'), " ++
       "'$': (<class 'logging.StringTemplateStyle'>, " ++
       "'$\x7blevelname\x7d:$\x7bname\x7d:$\x7bmessage\x7d')\x7d"))]

/-- The level that is used if none is given. -/
def usualLevelName : String := "INFO"

/-- What a given name stands for; a name that means nothing stands for the usual
    level. -/
def levelNamed (name : Text) : LevelName :=
  (levelNames.lookup (Text.toString (Text.upper name))).getD (.level 20)

/-- A name that stands for something that is no level. -/
inductive LevelFault where
  | unknown (shown : String)
  | notALevel (shown : String)
  deriving DecidableEq, Repr

/-- The fault in words. -/
def LevelFault.message : LevelFault → String
  | unknown shown => "Unknown level: '" ++ shown ++ "'"
  | notALevel shown => "Level not an integer or a valid string: " ++ shown

namespace RootLog

/-- The general journal before it is set up. -/
def initial : RootLog :=
  { level := 30, outputs := [] }

/-- Setting up the general journal with a level given by name; no name and the
    empty one stand for the usual level. -/
def setUp (log : RootLog) (name : Option Text) : Except LevelFault RootLog :=
  if log.outputs.isEmpty then
    let given := match name with
      | none => Text.ofString usualLevelName
      | some [] => Text.ofString usualLevelName
      | some t => t
    match levelNamed given with
    | .level n => .ok { level := n, outputs := [.console 0] }
    | .text shown => .error (.unknown shown)
    | .thing shown => .error (.notALevel shown)
  else
    .ok log

end RootLog

/-- The journal of error reports: its outputs, and the warnings given while it
    was set up. -/
structure ErrorLog where
  outputs : List Output
  warnings : List String
  deriving DecidableEq, Repr

namespace ErrorLog

/-- The level of the journal of error reports. -/
def level : Nat := 10

/-- The journal of error reports passes nothing on. -/
def passesOn : Bool := false

/-- The journal of error reports before it is set up. -/
def initial : ErrorLog :=
  { outputs := [], warnings := [] }

/-- The file is replaced at five mebibytes, and five old ones are kept. -/
def file : Output :=
  .rotatingFile 0 (5 * 1024 * 1024) 5

/-- The console shows what is at least a warning. -/
def console : Output :=
  .console 30

/-- Setting up the journal of error reports; `writable` says whether the file
    can be opened. -/
def setUp (log : ErrorLog) (writable : Bool) : ErrorLog :=
  if !log.outputs.isEmpty then log
  else if writable then { log with outputs := [file, console] }
  else
    { outputs := [console]
      warnings := log.warnings ++ ["Error log file unavailable"] }

end ErrorLog

end ManagerSignup
