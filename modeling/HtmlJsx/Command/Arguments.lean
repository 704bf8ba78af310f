import HtmlJsx.Command.Flag
import HtmlJsx.Files.Path
import HtmlJsx.Log.Record
import HtmlJsx.Number.Numeral
import HtmlJsx.Settings.Merge

/-!
# Command lines

The words of a command line are consumed from left to right.  The first
word that is neither a flag nor the value of one is the input; further such
words, and words that only look like flags, are left over.  The request for
help is granted where it stands, before anything is said about words left
over.
-/

namespace HtmlJsx

/-- Where a command line asks the result to go. -/
inductive Destination where
  /-- The standard output. -/
  | standard
  | file (path : Path)
  /-- A file that is asked for and not named. -/
  | unnamed
  deriving Repr

/-- The path of a file that is named. -/
def Destination.path? : Destination → Option Path
  | .file path => some path
  | _ => none

/-- Whether the result goes to a file that is named. -/
def Destination.isFile (destination : Destination) : Bool :=
  destination.path?.isSome

/-- What a command line asks for. -/
structure Arguments where
  /-- The input file, a dash for the standard input. -/
  input : Text := ['-']
  out : Destination := .standard
  options : OptionFlags := {}
  config : Option Text := none
  noConfig : Bool := false
  rich : Bool := false
  forceRich : Bool := false
  /-- The level of the records that are kept, unless the flag is given without one. -/
  logLevel : Option LogLevel := some LogLevel.warning
  logFile : Option Text := none
  trace : Bool := false
  deriving Repr

/-- A command line asks for help or for a run. -/
inductive Request where
  | help
  | run (arguments : Arguments)

namespace Arguments

/-- A command line that is being read. -/
structure Progress where
  arguments : Arguments := {}
  /-- Whether the input has been settled. -/
  inputTaken : Bool := false
  /-- The words that are left over. -/
  extras : List Text := []

/-- A value that must be one of the choices of a flag. -/
def chosen (flag : Flag) (value : Text) : Except UsageProblem Text :=
  if flag.choices.contains value then .ok value else .error (.badChoice flag value)

/-- Take up a value of the flag for the indent unit, which excludes tabs. -/
def takeIndent (arguments : Arguments) (value : Value) : Except UsageProblem Arguments :=
  if arguments.options.tabs then .error (.conflict .indent .tabs)
  else .ok { arguments with options := { arguments.options with indent := some value } }

/-- Take up a flag whose value is the separator, which stands for no value. -/
def takeBare (arguments : Arguments) : Flag → Except UsageProblem Arguments
  | .out => .ok { arguments with out := .unnamed }
  | .indent => arguments.takeIndent (.list [])
  | .backend => .ok { arguments with options := { arguments.options with backend := none } }
  | .config => .ok { arguments with config := none }
  | .logLevel => .ok { arguments with logLevel := none }
  | .logFile => .ok { arguments with logFile := none }
  | _ => .ok arguments

/-- Take up a flag with its value. -/
def takeValue (arguments : Arguments) (flag : Flag) (value : Text) :
    Except UsageProblem Arguments :=
  match flag with
  | .help => .ok arguments
  | .out => .ok { arguments with out := .file (Path.ofText value) }
  | .indent =>
    match Numeral.value? value with
    | none => .error (.badInteger .indent value)
    | some count => arguments.takeIndent (.int count)
  | .tabs =>
    if arguments.options.indent.isSome then .error (.conflict .tabs .indent)
    else .ok { arguments with options := { arguments.options with tabs := true } }
  | .backend => do
    let name ← chosen .backend value
    return { arguments with options := { arguments.options with backend := Backend.ofName? name } }
  | .config => .ok { arguments with config := some value }
  | .noConfig => .ok { arguments with noConfig := true }
  | .rich => .ok { arguments with rich := true }
  | .forceRich => .ok { arguments with forceRich := true }
  | .logLevel => do
    let name ← chosen .logLevel value
    return { arguments with logLevel := LogLevel.names.lookup name }
  | .logFile => .ok { arguments with logFile := some value }
  | .trace => .ok { arguments with trace := true }

/-- Take up a flag. -/
def take (arguments : Arguments) (flag : Flag) (value : Text) : Except UsageProblem Arguments :=
  if flag.takesValue && value == Word.separatorText then arguments.takeBare flag
  else arguments.takeValue flag value

/-- The level of the records that are kept. -/
def level (arguments : Arguments) : Except Fault LogLevel :=
  match arguments.trace, arguments.logLevel with
  | true, _ => .ok LogLevel.debug
  | false, some level => .ok level
  | false, none => .error .member

/-- Take up flags in their order; none if one of them asks for help. -/
def takeAll (arguments : Arguments) :
    List (Flag × Text) → Except UsageProblem (Option Arguments)
  | [] => .ok (some arguments)
  | (.help, _) :: _ => .ok none
  | (flag, value) :: rest => do
    let next ← arguments.take flag value
    next.takeAll rest

/-- A flag to which nothing is attached takes its value from the next word. -/
def bareFlag (flag : Flag) (rest : List (Text × Word)) :
    Except UsageProblem (List (Flag × Text) × List (Text × Word)) :=
  if flag.takesValue then
    match rest with
    | (value, .operand) :: after => .ok ([(flag, value)], after)
    | _ => .error (.needsValue flag)
  else
    .ok ([(flag, [])], rest)

/--
A flag with something attached: its value, or, after a short flag without
one, further short flags.
-/
def attachedFlag (isShort : Bool) (rest : List (Text × Word)) :
    Flag → Text → Except UsageProblem (List (Flag × Text) × List (Text × Word))
  | flag, attached =>
    if flag.takesValue then
      .ok ([(flag, attached)], rest)
    else if isShort then
      match attached with
      | [] => .error (.takesNoValue flag attached)
      | c :: more =>
        match Flag.spellings.lookup ['-', c] with
        | none => .error (.takesNoValue flag attached)
        | some next => do
          let (flags, after) ←
            if more.isEmpty then bareFlag next rest else attachedFlag isShort rest next more
          return ((flag, []) :: flags, after)
    else
      .error (.takesNoValue flag attached)

/-- The flags that a word stands for, and the words after them. -/
def flagsOf (flag : Flag) (isShort : Bool) (attached : Option Text) (rest : List (Text × Word)) :
    Except UsageProblem (List (Flag × Text) × List (Text × Word)) :=
  match attached with
  | none => bareFlag flag rest
  | some attached => attachedFlag isShort rest flag attached

/-- Whether a word is a flag or looks like one. -/
def isFlagWord : Word → Bool
  | .named _ _ _ => true
  | .unknown => true
  | _ => false

/-- Whether a word is a separator. -/
def isSeparator (entry : Text × Word) : Bool :=
  entry.2 == .separator

/-- The words after the last flag: the input, if it is not settled, and what is left over. -/
def finish (progress : Progress) (words : List (Text × Word)) : Progress :=
  if progress.inputTaken then
    { progress with extras := progress.extras ++ words.map (·.1) }
  else
    match words.dropWhile isSeparator with
    | [] => { progress with inputTaken := true }
    | (input, _) :: rest =>
      { arguments := { progress.arguments with input }
        inputTaken := true
        extras := progress.extras ++ (rest.dropWhile isSeparator).map (·.1) }

/-- Consume words; none if they ask for help.  The fuel bounds their number. -/
def consume : (fuel : Nat) → Progress → List (Text × Word) →
    Except UsageProblem (Option Progress)
  | 0, progress, words => .ok (some (finish progress words))
  | fuel + 1, progress, words =>
    if !words.any fun entry => isFlagWord entry.2 then
      .ok (some (finish progress words))
    else
      match words with
      | [] => .ok (some progress)
      | (text, word) :: rest =>
        match word with
        | .named flag isShort attached => do
          let (flags, after) ← flagsOf flag isShort attached rest
          match ← progress.arguments.takeAll flags with
          | none => return none
          | some arguments => consume fuel { progress with arguments } after
        | .unknown => consume fuel { progress with extras := progress.extras ++ [text] } rest
        | _ =>
          if progress.inputTaken then
            consume fuel { progress with extras := progress.extras ++ [text] } rest
          else
            consume fuel
              { progress with
                arguments := { progress.arguments with input := text }, inputTaken := true } rest

/-- Read a command line. -/
def parse (words : List Text) : Except UsageProblem Request := do
  let classified ← Word.classifyAll words
  match ← consume words.length {} classified with
  | none => return .help
  | some progress =>
    if progress.extras.isEmpty then return .run progress.arguments
    else throw (.unrecognized progress.extras)

end Arguments

end HtmlJsx
