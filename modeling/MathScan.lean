import MathScan.Text.Blank
import MathScan.Text.DecimalDigit
import MathScan.Text.Case.Lower
import MathScan.Text.Case.Upper
import MathScan.Text.Quoted
import MathScan.Text.Newlines
import MathScan.Text.Utf8
import MathScan.Double.Shortest
import MathScan.Double.Reader
import MathScan.LineTable
import MathScan.Token.Builder
import MathScan.NumberMode
import MathScan.ScanError
import MathScan.Scanner.Drain
import MathScan.Scanner.Session
import MathScan.Comparison
import MathScan.Files.Lines
import MathScan.Files.Tree
import MathScan.Scanner.File
import MathScan.CommandLine.Run
import MathScan.Package.Metadata
import MathScan.Main
import MathScan.Proofs.Lines
import MathScan.Proofs.LongestMatch
import MathScan.Proofs.WellFormed
import MathScan.Proofs.Layout
import MathScan.Proofs.Front
import MathScan.Proofs.Reading
import MathScan.Proofs.Partition
import MathScan.Proofs.RoundTrip
import MathScan.Proofs.Concatenation
import MathScan.Proofs.OpenString
import MathScan.Proofs.Cursor
import MathScan.Proofs.DigitSplit
import MathScan.Proofs.Sharing
import MathScan.Proofs.Places
import MathScan.Proofs.Renaming
import MathScan.Proofs.Dump
import MathScan.Proofs.FailureOrder
import MathScan.Proofs.Encoding
import MathScan.Proofs.Quoted
import MathScan.Proofs.Log
import MathScan.Proofs.NextToken
import MathScan.Proofs.LineEnds
import MathScan.Proofs.ReadBack
import MathScan.Proofs.TokenText
import MathScan.Proofs.TokenLines
import MathScan.Proofs.Nearest
import MathScan.Proofs.WholeNumbers
import MathScan.Proofs.Progress
import MathScan.Proofs.ScannedNumbers
import MathScan.Proofs.StringRead
import MathScan.Proofs.Setting
import MathScan.Proofs.ArgumentOrder
import MathScan.Proofs.DiagnosticText
