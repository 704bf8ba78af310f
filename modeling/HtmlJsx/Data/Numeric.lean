import HtmlJsx.Data.Value
import HtmlJsx.Number.Spelling

/-!
# Numeric values

Numbers are numeric as they are; a text is numeric if it spells an integer.
-/

namespace HtmlJsx.Value

/-- Whether a value is numeric; truth values are not. -/
def isNumeric : Value → Except NumberFault Bool
  | .int _ => .ok true
  | .float _ => .ok true
  | .text content => Spelling.isInteger content
  | _ => .ok false

end HtmlJsx.Value
