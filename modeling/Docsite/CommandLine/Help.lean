/-
**Explanations.**

What is printed when the command line asks for help or for the version.
-/

import Docsite.CommandLine.Arguments
import Docsite.Text.Cut

namespace Docsite.Help

/-- The name and the version of the program. -/
def version : String :=
  "portico 0.1.0\n"

/-- An explanation of the program. -/
def program : List String :=
  ["Validate documentation portal configuration and links",
    "",
    "Usage: portico [OPTIONS] <COMMAND>",
    "",
    "Commands:",
    "  init    Create a starter config and docs directory",
    "  check   Validate the config and check every internal link",
    "  export  Write the validated config as JSON for the site generator",
    "  help    Print this message or the help of the given subcommand(s)",
    "",
    "Options:",
    "  -c, --config <CONFIG>  Path to the site config file (.toml, .json, .yaml) " ++
      "[default: portico.toml]",
    "  -v, --verbose          Enable verbose output",
    "  -h, --help             Print help",
    "  -V, --version          Print version"]

/-- An explanation of a command. -/
def command : CommandName → List String
  | .init =>
    ["Create a starter config and docs directory",
      "",
      "Usage: portico init [OPTIONS]",
      "",
      "Options:",
      "  -y, --yes   Overwrite existing files",
      "  -h, --help  Print help"]
  | .check =>
    ["Validate the config and check every internal link",
      "",
      "Usage: portico check [OPTIONS]",
      "",
      "Options:",
      "  -s, --site-dir <SITE_DIR>  Site directory (defaults to the config file's directory)",
      "  -h, --help                 Print help"]
  | .export =>
    ["Write the validated config as JSON for the site generator",
      "",
      "Usage: portico export [OPTIONS]",
      "",
      "Options:",
      "  -s, --site-dir <SITE_DIR>  Site directory (defaults to the config file's directory)",
      "  -o, --output <OUTPUT>      Output file (defaults to stdout)",
      "      --skip-links           Do not check links before exporting",
      "  -h, --help                 Print help"]

/-- An explanation of the command that gives explanations. -/
def help : List String :=
  ["Print this message or the help of the given subcommand(s)",
    "",
    "Usage: portico help [COMMAND]...",
    "",
    "Arguments:",
    "  [COMMAND]...  Print help for the subcommand(s)"]

/-- What is said about a command line that asks for nothing. -/
def complaint : List String :=
  ["error: the arguments cannot be understood",
    "",
    "Usage: portico [OPTIONS] <COMMAND>",
    "",
    "For more information, try '--help'."]

/-- Lines as they are printed. -/
def printed (lines : List String) : String :=
  String.join (lines.map (· ++ "\n"))

end Docsite.Help
