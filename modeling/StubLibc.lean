import StubLibc.CommandLine.Files
import StubLibc.Knob.Cache
import StubLibc.Main
import StubLibc.Proofs.Argument.Narrowing
import StubLibc.Proofs.Format.Tiling
import StubLibc.Proofs.Knob.Resolution
import StubLibc.Proofs.Log.Interleaving
import StubLibc.Proofs.Numeral.Digits
import StubLibc.Proofs.Session.Content
import StubLibc.Proofs.Session.DiagnosticLines
import StubLibc.Proofs.Session.Diagnostics
import StubLibc.Proofs.Session.EntryPoints
import StubLibc.Proofs.Session.Environment
import StubLibc.Proofs.Session.ErrorStatus
import StubLibc.Proofs.Session.Refused
import StubLibc.Proofs.Session.Undisturbed
import StubLibc.Proofs.Trap.Ledger
import StubLibc.Session.Call
import StubLibc.Proofs.Format.Extents
import StubLibc.Proofs.Format.Integers
import StubLibc.Proofs.Format.Lockstep
import StubLibc.Proofs.Format.Significant
import StubLibc.Proofs.CString.Bounded
import StubLibc.Proofs.Format.Strings
import StubLibc.Format.Buffer
import StubLibc.Proofs.Argument.Divergence
import StubLibc.Proofs.Format.Concatenation
import StubLibc.Proofs.Format.Outcomes
import StubLibc.Proofs.Format.Boundary
import StubLibc.Proofs.Format.FirstFault
import StubLibc.Proofs.Format.LongDouble
import StubLibc.Proofs.Format.Texts
import StubLibc.Proofs.Session.Truncation
import StubLibc.Proofs.Console.Requests
import StubLibc.Proofs.Session.Unformatted
import StubLibc.Proofs.Log.Counts
import StubLibc.Proofs.Json.Grammar
import StubLibc.Proofs.Json.Passing
import StubLibc.Proofs.Json.Wanted
import StubLibc.Proofs.Json.Objects
import StubLibc.Proofs.Log.Layouts
import StubLibc.Proofs.CString.Order
import StubLibc.Proofs.CString.Window
import StubLibc.Proofs.Argument.Walk
import StubLibc.Proofs.Format.Reached
import StubLibc.Proofs.Format.Words
