namespace LeadingComment.CommandLine

def versionText : String := "headcomment 0.1.0\n"

def usageLine : String := "Usage: headcomment [OPTIONS] [FILES]..."

def joinLines (lines : List String) : String := String.join (lines.map (· ++ "\n"))

def shortHelpText : String := joinLines [
  "Print the leading comment block of source files",
  "",
  usageLine,
  "",
  "Arguments:",
  "  [FILES]...  Files to read, processed in the order given",
  "",
  "Options:",
  "  -n, --lines <N>     Print the first N lines of each file instead of its comment [default: 0]",
  "  -c, --cat           Print each file in full",
  "  -q, --quite         Do not print the header before each file [alias: --quiet]",
  "  -e, --enum          Prefix printed lines with their line number",
  "      --lang          List the known comment styles and languages, then exit",
  "      --color <WHEN>  Control color output: auto, always, never [default: auto] "
    ++ "[possible values: auto, always, never]",
  "      --json          Output in JSON format",
  "  -h, --help          Print help (see more with '--help')",
  "  -V, --version       Print version"]

/-- Ten places stand before every text of an entry, even before an empty one. -/
def longHelpText : String := joinLines [
  "Print the leading comment block of source files",
  "",
  usageLine,
  "",
  "Arguments:",
  "  [FILES]...",
  "          Files to read, processed in the order given",
  "",
  "Options:",
  "  -n, --lines <N>",
  "          Print the first N lines of each file instead of its comment",
  "          ",
  "          [default: 0]",
  "",
  "  -c, --cat",
  "          Print each file in full",
  "",
  "  -q, --quite",
  "          Do not print the header before each file",
  "          ",
  "          [alias: --quiet]",
  "",
  "  -e, --enum",
  "          Prefix printed lines with their line number",
  "",
  "      --lang",
  "          List the known comment styles and languages, then exit",
  "",
  "      --color <WHEN>",
  "          Control color output: auto, always, never",
  "",
  "          Possible values:",
  "          - auto:   Auto-detect based on terminal and environment",
  "          - always: Always use colors",
  "          - never:  Never use colors",
  "          ",
  "          [default: auto]",
  "",
  "      --json",
  "          Output in JSON format",
  "",
  "  -h, --help",
  "          Print help (see a summary with '-h')",
  "",
  "  -V, --version",
  "          Print version"]

end LeadingComment.CommandLine
