import StubLibc.Diagnostic.Parse

/-!
# Checking log lines

A log line is valid when it holds one record and the record's fields fit its event: requests, traps
and skipped effects name a symbol, requests and skipped conversions carry a detail, and a family
that is stated for a known symbol is the table's.  A line that holds no record has one complaint; a
record has one for each rule it breaks, in the order of the rules.
-/

namespace StubLibc.Log

open Diagnostic (Event Record)

/-- What is wrong with a line. -/
inductive Complaint where
  | notARecord (fault : Json.Fault)
  | symbolMissing
  | detailMissing
  | familyMismatch (stated : Family) (capability : Capability)
  deriving DecidableEq, Repr

namespace Complaint

def field : Complaint → String
  | notARecord _ => "<json>"
  | symbolMissing => "symbol"
  | detailMissing => "detail"
  | familyMismatch _ _ => "api_family"

def message : Complaint → String
  | notARecord fault => "invalid record: " ++ fault.message
  | symbolMissing => "required for this event"
  | detailMissing => "required for this event"
  | familyMismatch stated capability =>
    stated.title ++ " does not match " ++ capability.symbol ++ " (" ++
      capability.family.title ++ ")"

end Complaint

/-- A complaint about the line with a number. -/
structure LineError where
  line : Nat
  complaint : Complaint
  deriving DecidableEq, Repr

def LineError.describe (error : LineError) : String :=
  "line " ++ Numeral.ofNat error.line ++ ": field '" ++ error.complaint.field ++ "': " ++
    error.complaint.message

/-- The events whose record names a symbol. -/
def needsSymbol : Event → Bool
  | .unimplemented | .skipped | .exitRequested | .commandRequested => true
  | .unknownFormatSpecifier => false

/-- The events whose record carries a detail. -/
def needsDetail : Event → Bool
  | .exitRequested | .commandRequested | .unknownFormatSpecifier => true
  | .unimplemented | .skipped => false

def symbolComplaints (record : Record) : List Complaint :=
  if needsSymbol record.event && record.symbol.getD "" == "" then [.symbolMissing] else []

def detailComplaints (record : Record) : List Complaint :=
  if needsDetail record.event && record.detail.isNone then [.detailMissing] else []

def familyComplaints (record : Record) : List Complaint :=
  match record.symbol.bind Capability.ofSymbol?, record.family with
  | some capability, some stated =>
    if stated = capability.family then [] else [.familyMismatch stated capability]
  | _, _ => []

/-- The rules that a record breaks. -/
def complaints (record : Record) : List Complaint :=
  symbolComplaints record ++ detailComplaints record ++ familyComplaints record

/-- The record of a valid line, or what is wrong with it. -/
def checkLine (text : List Char) (number : Nat) : Except (List LineError) Record :=
  match Record.parse text with
  | .error fault => .error [⟨number, .notARecord fault⟩]
  | .ok record =>
    match complaints record with
    | [] => .ok record
    | found => .error (found.map (⟨number, ·⟩))

end StubLibc.Log
