import HtmlJsx.Dom.Fragment
import HtmlJsx.Jsx.Canvas
import HtmlJsx.Settings.Options

/-!
# Converting fragments

A fragment is trimmed, freed of its script blocks, read, and drawn.  If
there is one top-level element, it alone is drawn; otherwise the container
is drawn around all nodes.  Drawing takes place as if the result stood three
levels deep, and that indentation is taken away at the end.
-/

namespace HtmlJsx.Conversion

/-- The start of a script block. -/
def scriptStart : Text := "<script".toList

/-- The end of a script block. -/
def scriptEnd : Text := "</script>".toList

/-- What follows the first script end in a text. -/
def afterScript? : Text → Option Text
  | [] => none
  | c :: rest =>
    match Text.afterWord? scriptEnd (c :: rest) with
    | some after => some after
    | none => afterScript? rest

/-- The length of the script block that a text begins with, zero if it begins with none. -/
def scriptLength (text : Text) : Nat :=
  match (Text.afterWord? scriptStart text).bind afterScript? with
  | some after => text.length - after.length
  | none => 0

/-- Remove the script blocks of a text, passing over characters that belong to one. -/
def removeScriptsFrom : (skip : Nat) → Text → Text
  | _, [] => []
  | skip + 1, _ :: rest => removeScriptsFrom skip rest
  | 0, c :: rest =>
    match scriptLength (c :: rest) with
    | 0 => c :: removeScriptsFrom 0 rest
    | length + 1 => removeScriptsFrom length rest

/-- Remove the script blocks of a text. -/
def removeScripts (text : Text) : Text :=
  removeScriptsFrom 0 text

/-- The part of a fragment that is converted. -/
def clean (html : Text) : Text :=
  removeScripts (Text.trim html)

/-- The markup that is read for a fragment. -/
def markup (html : Text) : Text :=
  '\n' :: clean html ++ ['\n']

/-- Whether a node is text that is not blank. -/
def isVisibleText : Node → Bool
  | .text content => !content.isBlank
  | _ => false

/-- Whether nodes can stand without a container: at most one element and no visible text. -/
def hasOneTopLevel (nodes : List Node) : Bool :=
  (nodes.filter Node.isElement).length ≤ 1 && !nodes.any isVisibleText

/-- How many levels deep a fragment is drawn. -/
def bodyLevels : Nat := 3

/-- Take the indentation of the place where the fragment was drawn away. -/
def unindent (unit text : Text) : Text :=
  Text.replace ('\n' :: Text.copies bodyLevels unit) ['\n'] text

/-- The final text of an output. -/
def finish (unit output : Text) : Text :=
  unindent unit (Text.trim output ++ ['\n'])

/-- Draw a container on a canvas that is empty otherwise. -/
def drawContainer (unit : Text) (container : Node) (canvas : Canvas) :
    Except Interruption Canvas :=
  if hasOneTopLevel container.children then
    canvas.drawChildren unit container
  else
    (canvas.write (Text.copies bodyLevels unit)).deeper.drawNode unit none container

/-- Draw a container and give the output its final form. -/
def render (unit : Text) (container : Node) : Except Interruption Canvas := do
  let drawn ← drawContainer unit container {}
  return drawn.setOutput (finish unit drawn.output)

/-- Convert a fragment with a given way of reading markup. -/
def convertWith (read : Text → Except Problem Node) (options : Options) (html : Text) :
    Except Interruption Canvas := do
  let container ← Canvas.orStop {} (read (markup html))
  render options.indent container

/-- Convert a fragment. -/
def convert (options : Options) (html : Text) : Except Interruption Canvas :=
  convertWith (Fragment.read options.backend) options html

end HtmlJsx.Conversion
