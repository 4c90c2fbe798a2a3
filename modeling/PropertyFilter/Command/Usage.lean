import PropertyFilter.Command.Options

/-!
# Help

The texts that explain the command line.

## Main definitions

* `usageText`: the form of a command line
* `helpText`: all options with their explanations, and examples
* `UsageError.line`: how a refused command line is reported
-/

namespace PropertyFilter.Command

/-- The name of the program. -/
def programName : String := "propfilter"

/-- Lines, each with a line break at its end. -/
def textOfLines (lines : List String) : String := String.join (lines.map (· ++ "\n"))

/-- The form of a command line. -/
def usageText : String := textOfLines [
  "usage: propfilter [-h] [-c CONFIG] [--excludes EXCLUDES] [--includes INCLUDES]",
  "                  [--validate] [--show] [-t TYPE_NAME] [-p NAME [NAME ...]]",
  "                  [-v] [--log-file LOG_FILE] [--no-color]"]

/-- What the program is for. -/
def descriptionText : String := textOfLines [
  "",
  "Inspects the property filters (excludes / includes) a JSON serializer applies when " ++
    "rendering objects.",
  ""]

/-- The options with their explanations. -/
def optionsText : String := textOfLines [
  "options:",
  "  -h, --help            show this help message and exit",
  "  -c CONFIG, --config CONFIG",
  "                        Path to a filter configuration file (.toml, .yaml,",
  "                        .yml or .json)",
  "  --excludes EXCLUDES   Comma separated property names excluded for every type",
  "                        (overrides the file)",
  "  --includes INCLUDES   Comma separated property names included for every type",
  "                        (overrides the file)",
  "  --validate            Report malformed filter entries and exit.",
  "  --show                Print the resolved filters as YAML.",
  "  -t TYPE_NAME, --type TYPE_NAME",
  "                        Simple name of the owning type for --property checks",
  "  -p NAME [NAME ...], --property NAME [NAME ...]",
  "                        Property names to check against the filters",
  "  -v, --verbose         Enable debug logging.",
  "  --log-file LOG_FILE   Write logs to this file as well.",
  "  --no-color            Disable coloured output.",
  ""]

/-- Examples of command lines. -/
def examplesText : String := textOfLines [
  "Examples:",
  "  propfilter --config filters.toml --show",
  "  propfilter --config filters.yaml --validate",
  "  propfilter --config filters.toml --type User --property password email",
  "  propfilter --excludes 'password, token' --property token"]

/-- All options with their explanations, and examples. -/
def helpText : String := usageText ++ descriptionText ++ optionsText ++ examplesText

/-- How a refused command line is reported. -/
def UsageError.line (e : UsageError) : String := programName ++ ": error: " ++ e.message ++ "\n"

end PropertyFilter.Command
