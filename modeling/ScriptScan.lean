import ScriptScan.Journal
import ScriptScan.Main
import ScriptScan.Session
import ScriptScan.Proofs.Fits
import ScriptScan.Proofs.Lexemes
import ScriptScan.Proofs.Scan
import ScriptScan.Proofs.Slices
import ScriptScan.Proofs.Tiling
import ScriptScan.Proofs.RoundTrip
import ScriptScan.Proofs.Extension
import ScriptScan.Proofs.QuotePairing
import ScriptScan.Proofs.ShownProblems
import ScriptScan.Proofs.Caret
import ScriptScan.Proofs.Interleaving
import ScriptScan.Proofs.Neighbours
import ScriptScan.Proofs.Numbers
import ScriptScan.Proofs.Respacing
import ScriptScan.Proofs.Lines
import ScriptScan.Proofs.Transcript
import ScriptScan.Proofs.Progress
import ScriptScan.Proofs.Faults
import ScriptScan.Proofs.Records
import ScriptScan.Proofs.LineEnds
import ScriptScan.Proofs.DigitRuns
import ScriptScan.Proofs.LineLookup
import ScriptScan.Proofs.ReportLayout
import ScriptScan.Proofs.ListingReadBack
import ScriptScan.Proofs.Words
import ScriptScan.Proofs.Restart
import ScriptScan.Proofs.Messages
