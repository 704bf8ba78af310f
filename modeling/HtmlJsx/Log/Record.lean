import HtmlJsx.Text.Case
import HtmlJsx.Data.Value
import HtmlJsx.Fault

/-!
# Log records

A record has a level, the name of the part that made it, and a message.
Levels are integers, of which six have names.
-/

namespace HtmlJsx

/-- The level of a log record. -/
abbrev LogLevel := Int

namespace LogLevel

/-- The level of records about the course of the work. -/
def debug : LogLevel := 10

/-- The level of records about what has been done. -/
def info : LogLevel := 20

/-- The level of records about what may be wrong. -/
def warning : LogLevel := 30

/-- The names of the levels that have one. -/
def names : List (Text × LogLevel) :=
  [("CRITICAL".toList, 50), ("ERROR".toList, 40), ("WARNING".toList, 30), ("INFO".toList, 20),
    ("DEBUG".toList, 10), ("NOTSET".toList, 0)]

/-- The name of a level as it is written. -/
def display (level : LogLevel) : Text :=
  match names.find? fun entry => entry.2 == level with
  | some (name, _) => name
  | none => "Level ".toList ++ (toString level).toList

/-- Other names of levels. -/
def synonyms : List (Text × LogLevel) :=
  [("FATAL".toList, 50), ("WARN".toList, 30)]

/-- Words that name something other than a level, and the fault of taking them for one. -/
def notLevels : List (Text × Fault) :=
  [("BASIC_FORMAT".toList, .value), ("_STYLES".toList, .kind)]

/--
The level that a value asks for: a number, a truth value as a number, a name
in any case, or the level of warnings.
-/
def ofValue : Value → Except Fault LogLevel
  | .int level => .ok level
  | .bool truth => .ok (if truth then 1 else 0)
  | value =>
    let name := Text.upper value.plain
    match (names ++ synonyms).lookup name, notLevels.lookup name with
    | some level, _ => .ok level
    | none, some fault => .error fault
    | none, none => .ok warning

end LogLevel

/-- A log record. -/
structure LogRecord where
  /-- The part that made the record; the empty name stands for the root of all parts. -/
  source : Text
  level : LogLevel
  message : Text
  deriving Repr

end HtmlJsx
