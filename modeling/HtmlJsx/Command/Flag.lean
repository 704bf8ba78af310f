import HtmlJsx.Backend
import HtmlJsx.Text.Digit
import HtmlJsx.Text.Quoted

/-!
# Flags

The flags of the command and the words of a command line.  A long flag may
be shortened as long as one flag only begins that way.  A word that looks
like a negative number, or that holds a space, is no flag.
-/

namespace HtmlJsx

/-- A flag of the command. -/
inductive Flag where
  | help
  | out
  | indent
  | tabs
  | backend
  | config
  | noConfig
  | rich
  | forceRich
  | logLevel
  | logFile
  | trace
  deriving Repr, DecidableEq

namespace Flag

/-- The spellings of the flags in the order in which they are listed. -/
def spellings : List (Text × Flag) :=
  [("-h".toList, help), ("--help".toList, help), ("--out".toList, out), ("-o".toList, out),
    ("--indent".toList, indent), ("--tabs".toList, tabs), ("--parser".toList, backend),
    ("--config".toList, config), ("--no-config".toList, noConfig), ("--rich".toList, rich),
    ("--force-rich".toList, forceRich), ("--log-level".toList, logLevel),
    ("--log-file".toList, logFile), ("--trace".toList, trace)]

/-- The name of a flag in messages: all its spellings. -/
def title (flag : Flag) : Text :=
  Text.join ['/'] ((spellings.filter fun entry => entry.2 == flag).map (·.1))

/-- Whether a flag needs a value. -/
def takesValue : Flag → Bool
  | .out => true
  | .indent => true
  | .backend => true
  | .config => true
  | .logLevel => true
  | .logFile => true
  | _ => false

/-- The values that a flag accepts, if it accepts some only. -/
def choices : Flag → List Text
  | .backend => Backend.all.map Backend.name
  | .logLevel =>
    ["DEBUG".toList, "INFO".toList, "WARNING".toList, "ERROR".toList, "CRITICAL".toList]
  | _ => []

end Flag

/-- A word of a command line. -/
inductive Word where
  /-- A value or an input. -/
  | operand
  /-- The mark after which no word is a flag. -/
  | separator
  /-- A flag in one of its spellings, with a value that may be attached to it. -/
  | named (flag : Flag) (isShort : Bool) (attached : Option Text)
  /-- A word that looks like a flag and is none. -/
  | unknown
  deriving Repr, DecidableEq

/-- Why a command line does not fit. -/
inductive UsageProblem where
  | ambiguous (word : Text) (candidates : List Text)
  | needsValue (flag : Flag)
  | takesNoValue (flag : Flag) (value : Text)
  | badInteger (flag : Flag) (value : Text)
  | badChoice (flag : Flag) (value : Text)
  | conflict (flag other : Flag)
  | unrecognized (words : List Text)
  deriving Repr, DecidableEq

namespace UsageProblem

/-- A message about a flag. -/
def about (flag : Flag) (message : Text) : Text :=
  "argument ".toList ++ flag.title ++ [':', ' '] ++ message

/-- The message of a usage problem. -/
def message : UsageProblem → Text
  | .ambiguous word candidates =>
    "ambiguous option: ".toList ++ word ++ " could match ".toList ++ Text.join [',', ' '] candidates
  | .needsValue flag => about flag "expected one argument".toList
  | .takesNoValue flag value =>
    about flag ("ignored explicit argument ".toList ++ Text.quoted value)
  | .badInteger flag value => about flag ("invalid int value: ".toList ++ Text.quoted value)
  | .badChoice flag value =>
    about flag ("invalid choice: ".toList ++ Text.quoted value ++ " (choose from ".toList ++
      Text.join [',', ' '] (flag.choices.map Text.quoted) ++ [')'])
  | .conflict flag other => about flag ("not allowed with argument ".toList ++ other.title)
  | .unrecognized words => "unrecognized arguments: ".toList ++ Text.join [' '] words

end UsageProblem

namespace Word

/-- Whether a text is a number after a minus sign, as in `-5`, `-1.5` or `-.5`. -/
def isNegativeNumber : Text → Bool
  | '-' :: rest =>
    let isDigit (c : Char) : Bool := (Text.digitValue? c).isSome
    let line := if rest.getLast? == some '\n' then rest.dropLast else rest
    match line.dropWhile isDigit with
    | [] => !line.isEmpty
    | '.' :: fraction => !fraction.isEmpty && fraction.all isDigit
    | _ => false
  | _ => false

/-- The flags that begin with what stands before an equals sign. -/
def longCandidates (word : Text) : List (Text × Flag × Option Text) :=
  let (start, attached) :=
    match Text.cut '=' word with
    | some (start, attached) => (start, some attached)
    | none => (word, none)
  (Flag.spellings.filter fun entry => start.isPrefixOf entry.1).map fun (spelling, flag) =>
    (spelling, flag, attached)

/-- A short flag with something attached, or the start of a spelling. -/
def shortCandidates (word : Text) : List (Text × Flag × Option Text) :=
  Flag.spellings.filterMap fun (spelling, flag) =>
    if spelling = word.take 2 then some (spelling, flag, some (word.drop 2))
    else if word.isPrefixOf spelling then some (spelling, flag, none)
    else none

/-- Whether a spelling has one dash only. -/
def isShort (spelling : Text) : Bool :=
  spelling.drop 1 |>.head? |>.all (· != '-')

/-- A flag in a spelling. -/
def ofSpelling (spelling : Text) (flag : Flag) (attached : Option Text) : Word :=
  .named flag (isShort spelling) attached

/-- The flag before an equals sign, if it is spelled out. -/
def assigned? (word : Text) : Option Word := do
  let (start, attached) ← Text.cut '=' word
  let flag ← Flag.spellings.lookup start
  return ofSpelling start flag (some attached)

/-- What a word that begins with a dash is, if it is no flag spelled out. -/
def guess (word : Text) : Except UsageProblem Word :=
  let candidates := if isShort word then shortCandidates word else longCandidates word
  match candidates with
  | [(spelling, flag, attached)] => .ok (ofSpelling spelling flag attached)
  | [] =>
    if isNegativeNumber word || word.contains ' ' then .ok .operand else .ok .unknown
  | _ => .error (.ambiguous word (candidates.map (·.1)))

/-- What a word is, outside the words after a separator. -/
def classify (word : Text) : Except UsageProblem Word :=
  match word with
  | '-' :: _ :: _ =>
    match Flag.spellings.lookup word, assigned? word with
    | some flag, _ => .ok (ofSpelling word flag none)
    | none, some found => .ok found
    | none, none => guess word
  | _ => .ok .operand

/-- The spelling of a separator. -/
def separatorText : Text := ['-', '-']

/-- What the words of a command line are. -/
def classifyAll : List Text → Except UsageProblem (List (Text × Word))
  | [] => .ok []
  | word :: rest =>
    if word = separatorText then
      .ok ((word, .separator) :: rest.map fun word => (word, .operand))
    else do
      let found ← classify word
      return (word, found) :: (← classifyAll rest)

end Word

end HtmlJsx
