import HtmlJsx.Text.Case

/-!
# Element names

Markup ignores the case of element names and readers lower it, while JSX
distinguishes case.  The table gives the names that SVG writes in camel case
back their spelling.
-/

namespace HtmlJsx.ElementName

/-- Lower-case element names and their JSX spellings. -/
def spellings : List (String × String) :=
  [ ("a", "a"), ("altglyph", "altGlyph"), ("altglyphdef", "altGlyphDef"),
    ("altglyphitem", "altGlyphItem"), ("animate", "animate"), ("animatecolor", "animateColor"),
    ("animatemotion", "animateMotion"), ("animatetransform", "animateTransform"),
    ("audio", "audio"), ("canvas", "canvas"), ("circle", "circle"), ("clippath", "clipPath"),
    ("color-profile", "colorProfile"), ("cursor", "cursor"), ("defs", "defs"), ("desc", "desc"),
    ("discard", "discard"), ("ellipse", "ellipse"), ("feblend", "feBlend"),
    ("fecolormatrix", "feColorMatrix"), ("fecomponenttransfer", "feComponentTransfer"),
    ("fecomposite", "feComposite"), ("feconvolvematrix", "feConvolveMatrix"),
    ("fediffuselighting", "feDiffuseLighting"), ("fedisplacementmap", "feDisplacementMap"),
    ("fedistantlight", "feDistantLight"), ("fedropshadow", "feDropShadow"),
    ("feflood", "feFlood"), ("fefunca", "feFuncA"), ("fefuncb", "feFuncB"),
    ("fefuncg", "feFuncG"), ("fefuncr", "feFuncR"), ("fegaussianblur", "feGaussianBlur"),
    ("feimage", "feImage"), ("femerge", "feMerge"), ("femergenode", "feMergeNode"),
    ("femorphology", "feMorphology"), ("feoffset", "feOffset"),
    ("fepointlight", "fePointLight"), ("fespecularlighting", "feSpecularLighting"),
    ("fespotlight", "feSpotLight"), ("fetile", "feTile"), ("feturbulence", "feTurbulence"),
    ("filter", "filter"), ("font", "font"), ("font-face", "fontFace"),
    ("font-face-format", "fontFaceFormat"), ("font-face-name", "fontFaceName"),
    ("font-face-src", "fontFaceSrc"), ("font-face-uri", "fontFaceUri"),
    ("foreignobject", "foreignObject"), ("g", "g"), ("glyph", "glyph"),
    ("glyphref", "glyphRef"), ("hatch", "hatch"), ("hatchpath", "hatchpath"),
    ("hkern", "hkern"), ("iframe", "iframe"), ("image", "image"), ("line", "line"),
    ("lineargradient", "linearGradient"), ("marker", "marker"), ("mask", "mask"),
    ("mesh", "mesh"), ("meshgradient", "meshgradient"), ("meshpatch", "meshpatch"),
    ("meshrow", "meshrow"), ("metadata", "metadata"), ("missing-glyph", "missingGlyph"),
    ("mpath", "mpath"), ("path", "path"), ("pattern", "pattern"), ("polygon", "polygon"),
    ("polyline", "polyline"), ("radialgradient", "radialGradient"), ("rect", "rect"),
    ("script", "script"), ("set", "set"), ("solidcolor", "solidcolor"), ("stop", "stop"),
    ("style", "style"), ("svg", "svg"), ("switch", "switch"), ("symbol", "symbol"),
    ("text", "text"), ("textpath", "textPath"), ("title", "title"), ("tref", "tref"),
    ("tspan", "tspan"), ("unknown", "unknown"), ("use", "use"), ("video", "video"),
    ("view", "view"), ("vkern", "vkern") ]

/-- The spellings as texts. -/
def table : List (Text × Text) :=
  spellings.map fun (name, spelling) => (name.toList, spelling.toList)

/-- The JSX spelling of an element name: by the table, otherwise in lower case. -/
def toJsx (name : Text) : Text :=
  (table.lookup (Text.lower name)).getD (Text.lower name)

end HtmlJsx.ElementName
