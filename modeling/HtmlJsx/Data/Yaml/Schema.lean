import HtmlJsx.Data.Toml.Scalar
import HtmlJsx.Data.Value
import HtmlJsx.Data.Yaml.Cursor
import HtmlJsx.Number.Numeral

/-!
# The meaning of YAML scalars

A plain scalar is a truth value, a number, a moment, nothing, or a text,
depending on its form; its first character decides which forms are tried.
Tags name these kinds and octets, and a scalar with a tag is read as the kind
it names.
-/

namespace HtmlJsx.Yaml

/-- The tag of a kind that every document knows. -/
def coreTag (kind : String) : Text :=
  ("tag:yaml.org,2002:" ++ kind).toList

/-! ## Forms -/

/-- The spellings of truth values. -/
def truthWords : List (Text × Bool) :=
  [("yes".toList, true), ("no".toList, false), ("true".toList, true), ("false".toList, false),
    ("on".toList, true), ("off".toList, false)]

/-- Whether a text is a word in lower case, in upper case, or with a capital. -/
def isWordForm (word text : Text) : Bool :=
  text == word || text == Text.upper word ||
    text == Text.upper (word.take 1) ++ word.drop 1

/-- Whether a text is the spelling of a truth value. -/
def isTruthForm (text : Text) : Bool :=
  truthWords.any fun entry => isWordForm entry.1 text

/-- Whether a text is a spelling of nothing. -/
def isNullForm (text : Text) : Bool :=
  text.isEmpty || text == ['~'] || isWordForm "null".toList text

/-- Whether a character is a digit or an underscore. -/
def isDigitOrLine (c : Char) : Bool := c.isDigit || c == '_'

/-- A text without a leading sign. -/
def dropSign : Text → Text
  | c :: rest => if c == '-' || c == '+' then rest else c :: rest
  | [] => []

/-- Whether a text is one or two digits of which the first of two is below six. -/
def isSixtieth : Text → Bool
  | [a] => a.isDigit
  | [a, b] => a.isDigit && a.toNat < 54 && b.isDigit
  | _ => false

/-- Whether a text begins with a digit and holds digits and underscores only. -/
def isDigitForm : Text → Bool
  | c :: rest => c.isDigit && rest.all isDigitOrLine
  | [] => false

/-- Whether parts of a number in base sixty follow its first part. -/
def areSixtieths (parts : List Text) : Bool :=
  !parts.isEmpty && parts.all isSixtieth

/-- Whether a text is an integer in one of its forms. -/
def isIntegerForm (text : Text) : Bool :=
  match dropSign text with
  | ['0'] => true
  | '0' :: 'b' :: digits => !digits.isEmpty && digits.all fun c => c == '0' || c == '1' || c == '_'
  | '0' :: 'x' :: digits => !digits.isEmpty && digits.all fun c => Text.isHexDigit c || c == '_'
  | '0' :: digits => !digits.isEmpty && digits.all fun c => Spelling.isDigitIn 8 c || c == '_'
  | unsigned =>
    match Text.pieces ':' unsigned with
    | first :: parts => isDigitForm first && (parts.isEmpty || areSixtieths parts)
    | [] => false

/-- Whether a text is empty or an exponent, which has a sign. -/
def isExponentForm : Text → Bool
  | [] => true
  | mark :: sign :: digits =>
    (mark == 'e' || mark == 'E') && (sign == '-' || sign == '+') && !digits.isEmpty &&
      digits.all Char.isDigit
  | _ => false

/-- Whether what follows a point is a fraction with an optional exponent. -/
def isFractionForm (text : Text) : Bool :=
  isExponentForm (text.dropWhile isDigitOrLine)

/-- Whether a text is a number with a point in one of its forms. -/
def isFloatForm (text : Text) : Bool :=
  let unsigned := dropSign text
  (match Text.cut '.' unsigned with
    | some ([], fraction) =>
      (unsigned.length = text.length && (fraction.head?.any Char.isDigit) &&
        isFractionForm fraction) ||
        isWordForm "inf".toList fraction ||
        (unsigned.length = text.length &&
          (fraction == "nan".toList || fraction == "NaN".toList || fraction == "NAN".toList))
    | some (whole, fraction) =>
      match Text.pieces ':' whole with
      | [_] => isDigitForm whole && isFractionForm fraction
      | first :: parts => isDigitForm first && areSixtieths parts && fraction.all isDigitOrLine
      | [] => false
    | none => false)

/-! ## Moments -/

/-- The parts of a moment as they are written. -/
structure MomentParts where
  year : Nat
  month : Nat
  day : Nat
  clock : Option (Nat × Nat × Nat × Nat × Option (Option (Bool × Nat × Nat))) := none

/-- A number of one or two digits. -/
def shortNumber? (text : Text) : Option (Nat × Text) :=
  let digits := (text.take 2).takeWhile Char.isDigit
  if digits.isEmpty then none else some (Binary64.readDigits 10 digits, text.drop digits.length)

/-- Whether a character may stand between a date and a time. -/
def isPartGap (c : Char) : Bool := c == ' ' || c == '\t'

/-- The zone after a time: none, the universal one, or an offset. -/
def zone? (text : Text) : Option (Option (Option (Bool × Nat × Nat))) :=
  match text.dropWhile isPartGap with
  | [] => if text.isEmpty then some none else none
  | ['Z'] => some (some none)
  | sign :: rest =>
    if sign == '-' || sign == '+' then do
      let (hours, rest) ← shortNumber? rest
      match rest with
      | [] => return some (some (sign == '-', hours, 0))
      | ':' :: rest =>
        let (minutes, rest) ← Toml.fixedNumber? 2 0 99 rest
        if rest.isEmpty then return some (some (sign == '-', hours, minutes)) else none
      | _ => none
    else
      none

/-- The time after a date. -/
def clock? (text : Text) : Option (Nat × Nat × Nat × Nat × Option (Option (Bool × Nat × Nat))) := do
  let (hour, text) ← shortNumber? text
  let (minute, text) ← Toml.fixedNumber? 2 0 99 (← Toml.mark? ':' text)
  let (second, text) ← Toml.fixedNumber? 2 0 99 (← Toml.mark? ':' text)
  let (fraction, text) := match text with
    | '.' :: rest => (rest.takeWhile Char.isDigit, rest.dropWhile Char.isDigit)
    | _ => ([], text)
  let microsecond := Binary64.readDigits 10 ((fraction ++ "000000".toList).take 6)
  return (hour, minute, second, microsecond, ← zone? text)

/-- The parts of a moment; a date alone must be written with all its digits. -/
def momentParts? (strict : Bool) (text : Text) : Option MomentParts := do
  let (year, rest) ← Toml.fixedNumber? 4 0 9999 text
  let (month, rest) ← shortNumber? (← Toml.mark? '-' rest)
  let (day, rest) ← shortNumber? (← Toml.mark? '-' rest)
  match rest with
  | [] => if strict && text.length != 10 then none else return { year, month, day }
  | c :: more =>
    if c == 'T' || c == 't' then
      return { year, month, day, clock := some (← clock? more) }
    else if isPartGap c then
      return { year, month, day, clock := some (← clock? (more.dropWhile isPartGap)) }
    else
      none

/-- The moment that parts make. -/
def moment (parts : MomentParts) : Except Failure Moment :=
  let date : Date := ⟨parts.year, parts.month, parts.day⟩
  let impossible : Except Failure Moment := .error (.fault .value)
  match parts.clock with
  | none => if date.isValid then .ok (.date date) else impossible
  | some (hour, minute, second, microsecond, zone) =>
    let time : ClockTime := ⟨hour, minute, second, microsecond⟩
    let offset : Option Int := zone.map fun
      | none => 0
      | some (negative, hours, minutes) =>
        let size : Int := (hours * 60 + minutes) * 60
        if negative then -size else size
    if date.isValid && time.isValid && (offset.all fun offset => offset.natAbs < 86400) then
      .ok (.dateTime date time offset)
    else
      impossible

/-! ## Tags and values -/

/-- A text without a line break at its end, unless it is nothing else. -/
def dropFinalBreak (text : Text) : Text :=
  if 1 < text.length ∧ text.getLast? = some '\n' then text.dropLast else text

/-- The tag of a plain scalar; a line break at its end does not count. -/
def plainTag (text : Text) : Text :=
  let content := dropFinalBreak text
  let first := content.head?
  let startsNumber := first.any fun c => c.isDigit || c == '-' || c == '+'
  if isTruthForm content then coreTag "bool"
  else if (startsNumber || first == some '.') && isFloatForm content then coreTag "float"
  else if startsNumber && isIntegerForm content then coreTag "int"
  else if content == ['<', '<'] then coreTag "merge"
  else if isNullForm content then coreTag "null"
  else if (momentParts? true content).isSome then coreTag "timestamp"
  else if content == ['='] then coreTag "value"
  else if content == ['!'] || content == ['&'] || content == ['*'] then coreTag "yaml"
  else coreTag "str"

/-- A number that is read, or the fault that it is none. -/
def numberOr {α : Type} (number : Option α) : Except Failure α :=
  match number with
  | some number => .ok number
  | none => .error (.fault .value)

/-- The integer of parts in base sixty. -/
def sixtiethsValue : Int → List Text → Except Failure Int
  | total, [] => .ok total
  | total, part :: parts => do
    let digit ← numberOr (Numeral.value? part)
    sixtiethsValue (total * 60 + digit) parts

/-- The integer that a scalar denotes. -/
def integer (content : Text) : Except Failure Int := do
  let spelled := content.filter (· != '_')
  let negative := spelled.head? == some '-'
  let size ← match dropSign spelled with
    | [] => .error (.fault .position)
    | ['0'] => .ok 0
    | '0' :: 'b' :: digits => numberOr (Numeral.valueIn? 2 digits)
    | '0' :: 'x' :: digits => numberOr (Numeral.valueIn? 16 digits)
    | '0' :: digits => numberOr (Numeral.valueIn? 8 ('0' :: digits))
    | unsigned => sixtiethsValue 0 (Text.pieces ':' unsigned)
  return if negative then -size else size

/-- The number of parts in base sixty, the last part first. -/
def sixtiethsNumber : (base : Nat) → Binary64 → List Binary64 → Except Failure Binary64
  | _, total, [] => .ok total
  | base, total, digit :: digits =>
    if (Binary64.ofNat false base).isFinite then
      sixtiethsNumber (base * 60) (total.add (digit.scale base)) digits
    else
      .error (.fault .range)

/-- The number that a scalar denotes. -/
def float (content : Text) : Except Failure Binary64 := do
  let spelled := Text.lower (content.filter (· != '_'))
  let negative := spelled.head? == some '-'
  let unsigned := dropSign spelled
  let size ←
    if spelled.isEmpty then .error (.fault .position)
    else if unsigned == ".inf".toList then .ok (Binary64.infinite false)
    else if unsigned == ".nan".toList then .ok .nan
    else if unsigned.contains ':' then do
      let digits ← numberOr ((Text.pieces ':' unsigned).mapM Numeral.binary?)
      sixtiethsNumber 1 (.zero false) digits.reverse
    else numberOr (Numeral.binary? unsigned)
  return if negative then size.negate else size

/-- The tags of scalars. -/
def scalarTags : List Text :=
  ["str", "null", "bool", "int", "float", "timestamp", "binary"].map coreTag

/-- The value of a scalar with a tag. -/
def taggedValue (tag content : Text) : Except Failure Value :=
  if tag = coreTag "str" then
    .ok (.text content)
  else if tag = coreTag "null" then
    .ok .null
  else if tag = coreTag "bool" then
    match truthWords.lookup (Text.lower content) with
    | some truth => .ok (.bool truth)
    | none => .error (.fault .key)
  else if tag = coreTag "int" then do
    return .int (← integer content)
  else if tag = coreTag "float" then do
    return .float (← float content)
  else if tag = coreTag "timestamp" then
    match momentParts? false (dropFinalBreak content) with
    | some parts => do return .moment (← moment parts)
    | none => .error (.fault .member)
  else if tag = coreTag "binary" then
    match Octets.decode? content with
    | some octets => if content.all fun c => c.toNat < 128 then .ok (.octets octets) else malformed
    | none => malformed
  else
    malformed

end HtmlJsx.Yaml
