import TableGuard.Command.Line

/-!
# Help texts
-/

namespace TableGuard

def checkSummary : String :=
  "Report table dataSource variables assigned from unchecked API responses"

def fixSummary : String :=
  "Wrap unchecked API response assignments in an Array.isArray guard"

def initSummary : String := "Initialize a new .tablefixrc.json configuration file"

def helpSummary : String := "Print this message or the help of the given subcommand(s)"

def runHelp (name summary : String) : List String :=
  [ summary,
    "",
    s!"Usage: tablefix {name} [OPTIONS]",
    "",
    "Options:",
    "      --path <PATH>                Project root used to locate .tablefixrc.json [default: .]",
    "      --source-root <SOURCE_ROOT>  Directory to scan (overrides config file)",
    "  -v, --verbose                    Enable verbose output",
    "  -h, --help                       Print help" ]

def Topic.lines : Topic → List String
  | .general =>
    [ "A fast CLI tool for guarding table dataSource assignments in React projects",
      "",
      "Usage: tablefix [COMMAND]",
      "",
      "Commands:",
      s!"  check  {checkSummary}",
      s!"  fix    {fixSummary}",
      s!"  init   {initSummary}",
      s!"  help   {helpSummary}",
      "",
      "Options:",
      "  -h, --help     Print help",
      "  -V, --version  Print version" ]
  | .check => runHelp "check" checkSummary
  | .fix => runHelp "fix" fixSummary
  | .init =>
    [ initSummary,
      "",
      "Usage: tablefix init",
      "",
      "Options:",
      "  -h, --help  Print help" ]
  | .help =>
    [ helpSummary,
      "",
      "Usage: tablefix help [COMMAND]...",
      "",
      "Arguments:",
      "  [COMMAND]...  Print help for the subcommand(s)" ]

def versionLine : String := "tablefix 0.1.0"

end TableGuard
