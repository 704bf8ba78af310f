import HtmlJsx.Text.Case

/-!
# Property descriptors

A descriptor lists the property names that a JSX element knows and, for
those whose attribute is spelled differently in markup, the spelling.  The
two descriptors of this file cover the attributes of HTML and of SVG.
-/

namespace HtmlJsx

/-- A named group of JSX properties with the markup spellings that differ from them. -/
structure PropertyGroup where
  name : Text
  properties : List Text
  spellings : List (Text × Text) := []
  deriving Repr, DecidableEq

/-- The attribute name of a property in markup, in lower case. -/
def PropertyGroup.attributeName (group : PropertyGroup) (property : Text) : Text :=
  Text.lower ((group.spellings.lookup property).getD property)

namespace PropertyGroup

/-- A group given by string literals. -/
def ofStrings (name : String) (properties : List String) (spellings : List (String × String)) :
    PropertyGroup where
  name := name.toList
  properties := properties.map String.toList
  spellings := spellings.map fun (property, spelling) => (property.toList, spelling.toList)

/-- The properties of HTML elements. -/
def htmlProperties : List String :=
  [ "accept", "acceptCharset", "accessKey", "action", "allowFullScreen", "allowTransparency",
    "alt", "as", "async", "autoComplete", "autoPlay", "capture", "cellPadding", "cellSpacing",
    "charSet", "challenge", "checked", "cite", "classID", "className", "cols", "colSpan",
    "content", "contentEditable", "contextMenu", "controls", "controlsList", "coords",
    "crossOrigin", "data", "dateTime", "default", "defer", "dir", "disabled", "download",
    "draggable", "encType", "form", "formAction", "formEncType", "formMethod", "formNoValidate",
    "formTarget", "frameBorder", "headers", "height", "hidden", "high", "href", "hrefLang",
    "htmlFor", "httpEquiv", "icon", "id", "inputMode", "integrity", "is", "keyParams",
    "keyType", "kind", "label", "lang", "list", "loop", "low", "manifest", "marginHeight",
    "marginWidth", "max", "maxLength", "media", "mediaGroup", "method", "min", "minLength",
    "multiple", "muted", "name", "nonce", "noValidate", "open", "optimum", "pattern",
    "placeholder", "playsInline", "poster", "preload", "profile", "radioGroup", "readOnly",
    "referrerPolicy", "rel", "required", "reversed", "role", "rows", "rowSpan", "sandbox",
    "scope", "scoped", "scrolling", "seamless", "selected", "shape", "size", "sizes", "span",
    "spellCheck", "src", "srcDoc", "srcLang", "srcSet", "start", "step", "style", "summary",
    "tabIndex", "target", "title", "type", "useMap", "value", "width", "wmode", "wrap", "about",
    "datatype", "inlist", "prefix", "property", "resource", "typeof", "vocab", "autoCapitalize",
    "autoCorrect", "autoSave", "color", "itemProp", "itemScope", "itemType", "itemID",
    "itemRef", "results", "security", "unselectable" ]

/-- The HTML properties whose attributes are spelled differently. -/
def htmlSpellings : List (String × String) :=
  [ ("acceptCharset", "accept-charset"), ("className", "class"), ("htmlFor", "for"),
    ("httpEquiv", "http-equiv") ]

/-- The properties of SVG elements. -/
def svgProperties : List String :=
  [ "accentHeight", "accumulate", "additive", "alignmentBaseline", "allowReorder", "alphabetic",
    "amplitude", "arabicForm", "ascent", "attributeName", "attributeType", "autoReverse",
    "azimuth", "baseFrequency", "baseProfile", "baselineShift", "bbox", "begin", "bias", "by",
    "calcMode", "capHeight", "clip", "clipPath", "clipRule", "clipPathUnits",
    "colorInterpolation", "colorInterpolationFilters", "colorProfile", "colorRendering",
    "contentScriptType", "contentStyleType", "cursor", "cx", "cy", "d", "decelerate", "descent",
    "diffuseConstant", "direction", "display", "divisor", "dominantBaseline", "dur", "dx", "dy",
    "edgeMode", "elevation", "enableBackground", "end", "exponent", "externalResourcesRequired",
    "fill", "fillOpacity", "fillRule", "filter", "filterRes", "filterUnits", "floodColor",
    "floodOpacity", "focusable", "fontFamily", "fontSize", "fontSizeAdjust", "fontStretch",
    "fontStyle", "fontVariant", "fontWeight", "format", "from", "fx", "fy", "g1", "g2",
    "glyphName", "glyphOrientationHorizontal", "glyphOrientationVertical", "glyphRef",
    "gradientTransform", "gradientUnits", "hanging", "horizAdvX", "horizOriginX", "ideographic",
    "imageRendering", "in", "in2", "intercept", "k", "k1", "k2", "k3", "k4", "kernelMatrix",
    "kernelUnitLength", "kerning", "keyPoints", "keySplines", "keyTimes", "lengthAdjust",
    "letterSpacing", "lightingColor", "limitingConeAngle", "local", "markerEnd", "markerMid",
    "markerStart", "markerHeight", "markerUnits", "markerWidth", "mask", "maskContentUnits",
    "maskUnits", "mathematical", "mode", "numOctaves", "offset", "opacity", "operator", "order",
    "orient", "orientation", "origin", "overflow", "overlinePosition", "overlineThickness",
    "paintOrder", "panose1", "pathLength", "patternContentUnits", "patternTransform",
    "patternUnits", "pointerEvents", "points", "pointsAtX", "pointsAtY", "pointsAtZ",
    "preserveAlpha", "preserveAspectRatio", "primitiveUnits", "r", "radius", "refX", "refY",
    "renderingIntent", "repeatCount", "repeatDur", "requiredExtensions", "requiredFeatures",
    "restart", "result", "rotate", "rx", "ry", "scale", "seed", "shapeRendering", "slope",
    "spacing", "specularConstant", "specularExponent", "speed", "spreadMethod", "startOffset",
    "stdDeviation", "stemh", "stemv", "stitchTiles", "stopColor", "stopOpacity",
    "strikethroughPosition", "strikethroughThickness", "string", "stroke", "strokeDasharray",
    "strokeDashoffset", "strokeLinecap", "strokeLinejoin", "strokeMiterlimit", "strokeOpacity",
    "strokeWidth", "surfaceScale", "systemLanguage", "tableValues", "targetX", "targetY",
    "textAnchor", "textDecoration", "textRendering", "textLength", "to", "transform", "u1",
    "u2", "underlinePosition", "underlineThickness", "unicode", "unicodeBidi", "unicodeRange",
    "unitsPerEm", "vAlphabetic", "vHanging", "vIdeographic", "vMathematical", "values",
    "vectorEffect", "version", "vertAdvY", "vertOriginX", "vertOriginY", "viewBox",
    "viewTarget", "visibility", "widths", "wordSpacing", "writingMode", "x", "xHeight", "x1",
    "x2", "xChannelSelector", "xlinkActuate", "xlinkArcrole", "xlinkHref", "xlinkRole",
    "xlinkShow", "xlinkTitle", "xlinkType", "xmlBase", "xmlns", "xmlnsXlink", "xmlLang",
    "xmlSpace", "y", "y1", "y2", "yChannelSelector", "z", "zoomAndPan" ]

/-- The SVG properties whose attributes are spelled differently. -/
def svgSpellings : List (String × String) :=
  [ ("accentHeight", "accent-height"), ("alignmentBaseline", "alignment-baseline"),
    ("allowReorder", "allowReorder"), ("arabicForm", "arabic-form"),
    ("attributeName", "attributeName"), ("attributeType", "attributeType"),
    ("autoReverse", "autoReverse"), ("baseFrequency", "baseFrequency"),
    ("baseProfile", "baseProfile"), ("baselineShift", "baseline-shift"),
    ("calcMode", "calcMode"), ("capHeight", "cap-height"), ("clipPath", "clip-path"),
    ("clipRule", "clip-rule"), ("clipPathUnits", "clipPathUnits"),
    ("colorInterpolation", "color-interpolation"),
    ("colorInterpolationFilters", "color-interpolation-filters"),
    ("colorProfile", "color-profile"), ("colorRendering", "color-rendering"),
    ("contentScriptType", "contentScriptType"), ("contentStyleType", "contentStyleType"),
    ("diffuseConstant", "diffuseConstant"), ("dominantBaseline", "dominant-baseline"),
    ("edgeMode", "edgeMode"), ("enableBackground", "enable-background"),
    ("externalResourcesRequired", "externalResourcesRequired"), ("fillOpacity", "fill-opacity"),
    ("fillRule", "fill-rule"), ("filterRes", "filterRes"), ("filterUnits", "filterUnits"),
    ("floodColor", "flood-color"), ("floodOpacity", "flood-opacity"),
    ("fontFamily", "font-family"), ("fontSize", "font-size"),
    ("fontSizeAdjust", "font-size-adjust"), ("fontStretch", "font-stretch"),
    ("fontStyle", "font-style"), ("fontVariant", "font-variant"), ("fontWeight", "font-weight"),
    ("glyphName", "glyph-name"), ("glyphOrientationHorizontal", "glyph-orientation-horizontal"),
    ("glyphOrientationVertical", "glyph-orientation-vertical"), ("glyphRef", "glyphRef"),
    ("gradientTransform", "gradientTransform"), ("gradientUnits", "gradientUnits"),
    ("horizAdvX", "horiz-adv-x"), ("horizOriginX", "horiz-origin-x"),
    ("imageRendering", "image-rendering"), ("kernelMatrix", "kernelMatrix"),
    ("kernelUnitLength", "kernelUnitLength"), ("keyPoints", "keyPoints"),
    ("keySplines", "keySplines"), ("keyTimes", "keyTimes"), ("lengthAdjust", "lengthAdjust"),
    ("letterSpacing", "letter-spacing"), ("lightingColor", "lighting-color"),
    ("limitingConeAngle", "limitingConeAngle"), ("markerEnd", "marker-end"),
    ("markerMid", "marker-mid"), ("markerStart", "marker-start"),
    ("markerHeight", "markerHeight"), ("markerUnits", "markerUnits"),
    ("markerWidth", "markerWidth"), ("maskContentUnits", "maskContentUnits"),
    ("maskUnits", "maskUnits"), ("numOctaves", "numOctaves"),
    ("overlinePosition", "overline-position"), ("overlineThickness", "overline-thickness"),
    ("paintOrder", "paint-order"), ("panose1", "panose-1"), ("pathLength", "pathLength"),
    ("patternContentUnits", "patternContentUnits"), ("patternTransform", "patternTransform"),
    ("patternUnits", "patternUnits"), ("pointerEvents", "pointer-events"),
    ("pointsAtX", "pointsAtX"), ("pointsAtY", "pointsAtY"), ("pointsAtZ", "pointsAtZ"),
    ("preserveAlpha", "preserveAlpha"), ("preserveAspectRatio", "preserveAspectRatio"),
    ("primitiveUnits", "primitiveUnits"), ("refX", "refX"), ("refY", "refY"),
    ("renderingIntent", "rendering-intent"), ("repeatCount", "repeatCount"),
    ("repeatDur", "repeatDur"), ("requiredExtensions", "requiredExtensions"),
    ("requiredFeatures", "requiredFeatures"), ("shapeRendering", "shape-rendering"),
    ("specularConstant", "specularConstant"), ("specularExponent", "specularExponent"),
    ("spreadMethod", "spreadMethod"), ("startOffset", "startOffset"),
    ("stdDeviation", "stdDeviation"), ("stitchTiles", "stitchTiles"),
    ("stopColor", "stop-color"), ("stopOpacity", "stop-opacity"),
    ("strikethroughPosition", "strikethrough-position"),
    ("strikethroughThickness", "strikethrough-thickness"),
    ("strokeDasharray", "stroke-dasharray"), ("strokeDashoffset", "stroke-dashoffset"),
    ("strokeLinecap", "stroke-linecap"), ("strokeLinejoin", "stroke-linejoin"),
    ("strokeMiterlimit", "stroke-miterlimit"), ("strokeOpacity", "stroke-opacity"),
    ("strokeWidth", "stroke-width"), ("surfaceScale", "surfaceScale"),
    ("systemLanguage", "systemLanguage"), ("tableValues", "tableValues"),
    ("targetX", "targetX"), ("targetY", "targetY"), ("textAnchor", "text-anchor"),
    ("textDecoration", "text-decoration"), ("textRendering", "text-rendering"),
    ("textLength", "textLength"), ("underlinePosition", "underline-position"),
    ("underlineThickness", "underline-thickness"), ("unicodeBidi", "unicode-bidi"),
    ("unicodeRange", "unicode-range"), ("unitsPerEm", "units-per-em"),
    ("vAlphabetic", "v-alphabetic"), ("vHanging", "v-hanging"),
    ("vIdeographic", "v-ideographic"), ("vMathematical", "v-mathematical"),
    ("vectorEffect", "vector-effect"), ("vertAdvY", "vert-adv-y"),
    ("vertOriginX", "vert-origin-x"), ("vertOriginY", "vert-origin-y"), ("viewBox", "viewBox"),
    ("viewTarget", "viewTarget"), ("wordSpacing", "word-spacing"),
    ("writingMode", "writing-mode"), ("xHeight", "x-height"),
    ("xChannelSelector", "xChannelSelector"), ("xlinkActuate", "xlink:actuate"),
    ("xlinkArcrole", "xlink:arcrole"), ("xlinkHref", "xlink:href"), ("xlinkRole", "xlink:role"),
    ("xlinkShow", "xlink:show"), ("xlinkTitle", "xlink:title"), ("xlinkType", "xlink:type"),
    ("xmlBase", "xml:base"), ("xmlnsXlink", "xmlns:xlink"), ("xmlLang", "xml:lang"),
    ("xmlSpace", "xml:space"), ("yChannelSelector", "yChannelSelector"),
    ("zoomAndPan", "zoomAndPan") ]

/-- The descriptor of HTML attributes. -/
def html : PropertyGroup :=
  ofStrings "html" htmlProperties htmlSpellings

/-- The descriptor of SVG attributes. -/
def svg : PropertyGroup :=
  ofStrings "svg" svgProperties svgSpellings

end PropertyGroup

end HtmlJsx
