import HtmlJsx.Text.Quoted

/-!
# File errors

An operation on a file fails because of what stands at its path, or because
the system refuses a file that is there.
-/

namespace HtmlJsx

/-- Why the system refuses to open a file that is there. -/
structure Refusal where
  number : Nat
  words : String
  deriving Repr, DecidableEq

/-- The refusal of a file that may not be opened. -/
def Refusal.permission : Refusal := ⟨13, "Permission denied"⟩

/-- Why an operation on a file or folder fails. -/
inductive FileError where
  | missing
  | exists
  | notAFolder
  | isAFolder
  | refused (refusal : Refusal)
  deriving Repr, DecidableEq

namespace FileError

/-- The number and the words of a file error. -/
def description : FileError → String
  | .missing => "[Errno 2] No such file or directory"
  | .exists => "[Errno 17] File exists"
  | .notAFolder => "[Errno 20] Not a directory"
  | .isAFolder => "[Errno 21] Is a directory"
  | .refused refusal => "[Errno " ++ toString refusal.number ++ "] " ++ refusal.words

/-- The message of a file error about a path. -/
def message (error : FileError) (path : Text) : Text :=
  error.description.toList ++ [':', ' '] ++ Text.quoted path

end FileError

end HtmlJsx
