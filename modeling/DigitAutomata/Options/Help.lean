/-! The texts that the program prints about itself. -/
namespace DigitAutomata.Options

def versionText : String := "dfa-trace 0.1.0\n"

def helpHead : String :=
  "Trace words through a deterministic finite automaton\n\nUsage: dfa-trace [OPTIONS]\n\nOptions:\n"

/-- One line for each option. -/
def shortHelp : String := helpHead ++ String.join [
  "  -f, --file <FILE>      Automaton table file (prompted for if omitted)\n",
  "  -w, --word <WORD>      Word to evaluate, e.g. 0110 (prompted for if omitted)\n",
  "  -c, --config <CONFIG>  Custom configuration file path\n",
  "  -o, --output <OUTPUT>  Output format [possible values: text, json]\n",
  "  -q, --quiet            Do not print the automaton table\n",
  "      --no-color         Disable colored output\n",
  "  -h, --help             Print help (see more with '--help')\n",
  "  -V, --version          Print version\n"]

/-- A paragraph for each option. -/
def longHelp : String := helpHead ++ String.intercalate "\n" [
  "  -f, --file <FILE>\n          Automaton table file (prompted for if omitted)\n",
  "  -w, --word <WORD>\n          Word to evaluate, e.g. 0110 (prompted for if omitted)\n",
  "  -c, --config <CONFIG>\n          Custom configuration file path\n",
  "  -o, --output <OUTPUT>\n          Output format\n\n          Possible values:\n" ++
    "          - text: Automaton table, trace and verdict for humans\n" ++
    "          - json: A single JSON document\n",
  "  -q, --quiet\n          Do not print the automaton table\n",
  "      --no-color\n          Disable colored output\n",
  "  -h, --help\n          Print help (see a summary with '-h')\n",
  "  -V, --version\n          Print version\n"]

end DigitAutomata.Options
