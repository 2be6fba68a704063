/-
  The fixed texts of the command line.

  Key definitions include:
    * `programName`
    * `version`
    * `usage`
    * `help`
-/

namespace MathScan.CommandLine

def programName : String :=
  "mathlang-scan"

def version : String :=
  "0.1.0"

def usage : String :=
  "usage: mathlang-scan [-h] " ++
    "[--numbers \x7bsingle-digit,greedy\x7d] [-v] [--version]\n" ++
    "                     [file]\n"

def help : String :=
  usage ++
    "\n" ++
    "Tokenize a MathLang program and print one token per line.\n" ++
    "\n" ++
    "positional arguments:\n" ++
    "  file                  Source file to scan. Reads standard " ++
    "input when\n" ++
    "                        omitted.\n" ++
    "\n" ++
    "options:\n" ++
    "  -h, --help            show this help message and exit\n" ++
    "  --numbers \x7bsingle-digit,greedy\x7d\n" ++
    "                        Number scanning mode (default: " ++
    "$MATHLANG_NUMERIC_MODE\n" ++
    "                        or single-digit).\n" ++
    "  -v, --verbose         Log every scanned token to stderr.\n" ++
    "  --version             show program's version number and " ++
    "exit\n"

end MathScan.CommandLine
