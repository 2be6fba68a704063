/-
  The introduction to the package, which its description
  shows in full.

  Key definitions include:
    * `readme`
-/

namespace MathScan.Package

def readmeLines : List String := [
  "# MathLang Scanner",
  "",
  "The token reader for MathLang, a small teaching language of assignments and",
  "prints:",
  "",
  "```",
  "let x = 4;",
  "print \"x is \";",
  "print x;",
  "```",
  "",
  "A parser pulls tokens from a `Scanner` one at a time until it gets `None`:",
  "",
  "```python",
  "from mathlang.lexer import Scanner",
  "",
  "scanner = Scanner('x = 5;')",
  "while (token := scanner.next()) is not None:",
  "    print(token)",
  "```",
  "",
  "There are four kinds of token: symbols (`;`, `+`, `-`, `=`), numbers, names",
  "and double-quoted strings. Numbers are one digit long (`42` scans as `4`",
  "then `2`); set `MATHLANG_NUMERIC_MODE=greedy` or pass",
  "`ScannerConfig(numeric_mode=NumericMode.GREEDY)` to scan whole digit runs.",
  "",
  "## Command line",
  "",
  "```",
  "mathlang-scan program.ml",
  "mathlang-scan --numbers greedy < program.ml",
  "```",
  "",
  "## Tests",
  "",
  "```",
  "pip install -e \".[dev]\"",
  "pytest",
  "```",
  "",
  "or `python run_tests.py`."]

def readme : String :=
  String.join (readmeLines.map (fun line => line ++ "\n"))

end MathScan.Package
