import HtmlJsx.Text.Basic

/-!
# Usage

What the command says about itself.
-/

namespace HtmlJsx.Usage

/-- The name of the command. -/
def programName : Text := "html2jsx".toList

/-- The version of the command. -/
def version : Text := "1.0.0".toList

/-- The lines of a text, each ended by a line feed. -/
def ofLines (lines : List String) : Text :=
  lines.flatMap fun line => line.toList ++ ['\n']

/-- The forms of the command line. -/
def summary : Text :=
  ofLines
    [ "usage: html2jsx [-h] [--out OUT] [--indent N | --tabs]",
      "                [--parser \x7bhtml.parser,lxml,html5lib\x7d] [--config CONFIG]",
      "                [--no-config] [--rich] [--force-rich]",
      "                [--log-level \x7bDEBUG,INFO,WARNING,ERROR,CRITICAL\x7d]",
      "                [--log-file LOG_FILE] [--trace]",
      "                [input]" ]

/-- The forms of the command line with explanations. -/
def help : Text :=
  summary ++ ofLines
    [ "",
      "Convert an HTML fragment to JSX.",
      "",
      "positional arguments:",
      "  input                 Input HTML file, or '-' to read standard input",
      "                        (default)",
      "",
      "options:",
      "  -h, --help            show this help message and exit",
      "  --out OUT, -o OUT     Write JSX to this file instead of standard output",
      "  --indent N            Indent with N spaces per level (default: 2)",
      "  --tabs                Indent with one tab per level",
      "  --parser \x7bhtml.parser,lxml,html5lib\x7d",
      "                        BeautifulSoup parser backend",
      "  --config CONFIG       Configuration file (default: $HTML2JSX_CONFIG or",
      "                        discovered)",
      "  --no-config           Ignore configuration files",
      "  --rich                Syntax-highlight the JSX when writing to a terminal",
      "  --force-rich          Use rich output even when not writing to a TTY",
      "  --log-level \x7bDEBUG,INFO,WARNING,ERROR,CRITICAL\x7d",
      "                        Logging level (default: WARNING)",
      "  --log-file LOG_FILE   Also write log messages to this file",
      "  --trace               Debug logging with timestamps and logger names" ]

/-- What is said about a command line that does not fit. -/
def refusal (message : Text) : Text :=
  summary ++ programName ++ ": error: ".toList ++ message ++ ['\n']

end HtmlJsx.Usage
