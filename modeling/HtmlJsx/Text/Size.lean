import HtmlJsx.Fault
import HtmlJsx.Text.Basic

/-!
# The size of texts

The characters of a text are counted and held in memory, and both have
limits.
-/

namespace HtmlJsx.Text

/-- One more than the largest number of characters that can be counted. -/
def countLimit : Int := 9223372036854775808

/-- A number of characters that no memory holds. -/
def memoryLimit : Int := 140737488355328

/-- Why copies of a unit make no text, if they make none. -/
def copiesFault? (count : Int) (unit : Text) : Option Fault :=
  let size := count * unit.length
  if countLimit ≤ count ∨ countLimit ≤ size then some .range
  else if memoryLimit ≤ size then some .memory
  else none

end HtmlJsx.Text
