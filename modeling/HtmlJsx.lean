import HtmlJsx.Backend
import HtmlJsx.Command.Arguments
import HtmlJsx.Command.ExitCode
import HtmlJsx.Command.Flag
import HtmlJsx.Command.Run
import HtmlJsx.Command.Usage
import HtmlJsx.Data.Json
import HtmlJsx.Data.Moment
import HtmlJsx.Data.Numeric
import HtmlJsx.Data.Octets
import HtmlJsx.Data.Toml.Document
import HtmlJsx.Data.Toml.Scalar
import HtmlJsx.Data.Toml.Table
import HtmlJsx.Data.Value
import HtmlJsx.Data.Yaml.Cursor
import HtmlJsx.Data.Yaml.Document
import HtmlJsx.Data.Yaml.Graph
import HtmlJsx.Data.Yaml.Layout
import HtmlJsx.Data.Yaml.Mark
import HtmlJsx.Data.Yaml.Node
import HtmlJsx.Data.Yaml.Scalar
import HtmlJsx.Data.Yaml.Schema
import HtmlJsx.Data.Yaml.Sense
import HtmlJsx.Data.Yaml.Token
import HtmlJsx.Dom.Builder
import HtmlJsx.Dom.Fragment
import HtmlJsx.Dom.Node
import HtmlJsx.Dom.Source
import HtmlJsx.Fault
import HtmlJsx.Files.FileError
import HtmlJsx.Files.Path
import HtmlJsx.Files.Utf8
import HtmlJsx.Files.Volume
import HtmlJsx.Jsx.Canvas
import HtmlJsx.Jsx.Conversion
import HtmlJsx.Jsx.Passage
import HtmlJsx.Jsx.Property
import HtmlJsx.Log.Journal
import HtmlJsx.Log.Record
import HtmlJsx.Main
import HtmlJsx.Markup.Lexer
import HtmlJsx.Markup.NamedCharacter
import HtmlJsx.Markup.Reference
import HtmlJsx.Markup.Tag
import HtmlJsx.Markup.Token
import HtmlJsx.Names.Attribute
import HtmlJsx.Names.Element
import HtmlJsx.Names.Property
import HtmlJsx.Number.Binary64
import HtmlJsx.Number.Numeral
import HtmlJsx.Number.Shortest
import HtmlJsx.Number.Spelling
import HtmlJsx.Problem
import HtmlJsx.Settings.Configuration
import HtmlJsx.Settings.Merge
import HtmlJsx.Settings.Options
import HtmlJsx.Style.Declaration
import HtmlJsx.Text.Basic
import HtmlJsx.Text.Blank
import HtmlJsx.Text.Case
import HtmlJsx.Text.CaseTable
import HtmlJsx.Text.Digit
import HtmlJsx.Text.Literal
import HtmlJsx.Text.Printable
import HtmlJsx.Text.Quoted
import HtmlJsx.Text.Size
import HtmlJsx.Proofs.Layout
import HtmlJsx.Proofs.Rendering
import HtmlJsx.Proofs.Reader.Machine
import HtmlJsx.Proofs.Reader.Passage
import HtmlJsx.Proofs.Reader.Property
import HtmlJsx.Proofs.Names
import HtmlJsx.Proofs.Structure
import HtmlJsx.Proofs.SingleRoot
import HtmlJsx.Proofs.Failure
import HtmlJsx.Proofs.Preformatted
import HtmlJsx.Proofs.ClosingTag
import HtmlJsx.Proofs.FinalForm
import HtmlJsx.Proofs.LineBreaks
import HtmlJsx.Proofs.Lexing
import HtmlJsx.Proofs.Serialization
import HtmlJsx.Proofs.RoundTrip
import HtmlJsx.Proofs.Literal
import HtmlJsx.Proofs.Meaning
import HtmlJsx.Proofs.PassageMeaning
import HtmlJsx.Proofs.AttributeValue
import HtmlJsx.Proofs.Modes
import HtmlJsx.Proofs.RawContents
import HtmlJsx.Proofs.MovedContents
import HtmlJsx.Proofs.Recovery
import HtmlJsx.Proofs.LetterCase
import HtmlJsx.Proofs.ScriptBlocks
import HtmlJsx.Proofs.Pieces
import HtmlJsx.Proofs.RawEnd
import HtmlJsx.Proofs.Canonical
import HtmlJsx.Proofs.KeptSource
import HtmlJsx.Proofs.FieldName
import HtmlJsx.Proofs.FieldValue
import HtmlJsx.Proofs.PlainText
import HtmlJsx.Proofs.StyleParsing
import HtmlJsx.Proofs.PropertyNames
import HtmlJsx.Proofs.BareNumber
import HtmlJsx.Proofs.Rounding
import HtmlJsx.Proofs.NumericLiteral
import HtmlJsx.Proofs.IntegerSpelling
import HtmlJsx.Proofs.ScriptNumber
import HtmlJsx.Proofs.FlagPrecedence
import HtmlJsx.Proofs.ConfigurationFaults
import HtmlJsx.Proofs.Separation
import HtmlJsx.Proofs.Registration
import HtmlJsx.Proofs.Location
import HtmlJsx.Proofs.Discovery
import HtmlJsx.Proofs.PureDrawing
import HtmlJsx.Proofs.Comments
