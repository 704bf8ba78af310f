import HtmlJsx.Problem

/-!
# Exit codes

How a run of the command ends.
-/

namespace HtmlJsx

/-- How a run ends. -/
inductive ExitCode where
  | success
  | failure
  | usage
  | dependency
  | validation
  | file
  | parsing
  deriving Repr, DecidableEq

namespace ExitCode

/-- The number of an exit code. -/
def number : ExitCode → Nat
  | .success => 0
  | .failure => 1
  | .usage => 2
  | .dependency => 2
  | .validation => 3
  | .file => 4
  | .parsing => 6

/-- The exit code of a problem with the settings. -/
def ofSettings : Concern → ExitCode
  | .configuration _ => .file
  | .validation _ _ => .validation
  | .dependency _ _ => .dependency
  | _ => .failure

/-- The exit code of a problem with the conversion. -/
def ofConversion : Concern → ExitCode
  | .dependency _ _ => .dependency
  | .parsing _ => .parsing
  | _ => .failure

end ExitCode

end HtmlJsx
