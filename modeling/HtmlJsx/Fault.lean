/-!
# Faults

Operations can fail in ways that are not reported as problems of the input.
Such a failure is named by its kind.
-/

namespace HtmlJsx

/-- A failed operation that is not reported as a problem of the input. -/
inductive Fault where
  /-- A value outside the accepted ones. -/
  | value
  /-- A number beyond the representable ones. -/
  | range
  /-- A text that no memory holds. -/
  | memory
  /-- A value of the wrong kind, or arguments that do not fit. -/
  | kind
  /-- A part that a value does not have. -/
  | member
  /-- A key that a map does not have. -/
  | key
  /-- A position that a sequence does not have. -/
  | position
  /-- Octets that are not text. -/
  | encoding
  /-- A change of something that cannot change. -/
  | frozen
  /-- A description that refers back to itself without end. -/
  | endless
  deriving Repr, DecidableEq

end HtmlJsx
