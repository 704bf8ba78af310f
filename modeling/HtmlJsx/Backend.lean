import HtmlJsx.Text.Basic

/-!
# Backends

A backend is a way to read markup.  The built-in one reads a fragment as it
stands; the two others read a whole document and take its body.
-/

namespace HtmlJsx

/-- A way to read markup. -/
inductive Backend where
  | builtIn
  | lxml
  | html5lib
  deriving Repr, DecidableEq, Inhabited

namespace Backend

/-- All backends in the order in which they are listed. -/
def all : List Backend := [.builtIn, .lxml, .html5lib]

/-- The name of a backend in options and messages. -/
def name : Backend → Text
  | .builtIn => "html.parser".toList
  | .lxml => "lxml".toList
  | .html5lib => "html5lib".toList

/-- The backend with a name. -/
def ofName? (name : Text) : Option Backend :=
  all.find? (·.name == name)

/-- The names of all backends, separated by commas. -/
def choices : Text :=
  Text.join [',', ' '] (all.map name)

/-- The packages that provide the backends which are not built in. -/
def packages : List (Text × Text) :=
  [("lxml".toList, "lxml".toList), ("html5lib".toList, "html5lib".toList)]

/-- The package that provides a backend, its own name if none is known. -/
def package (backend : Backend) : Text :=
  (packages.lookup backend.name).getD backend.name

end Backend

end HtmlJsx
