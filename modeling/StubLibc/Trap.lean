import StubLibc.Diagnostic

/-!
# Traps

Every trapped call is reported the same way: its record is written, the trap is entered in the
ledger, and only then does the process end.  `report` does this on any `Site`, a state with a sink
and a ledger, and hands what ends the process the event that was entered.  A `Reporter` is a site
that is nothing but a sink and a ledger.
-/

namespace StubLibc.Trap

open Diagnostic (Record)

/-- One trapped call. -/
structure Event where
  label : String
  /-- Absent when the capability table does not know the label. -/
  family : Option Family
  deriving DecidableEq, Repr

/-- The event of a trap under a label. -/
def Event.ofLabel (label : String) : Event where
  label := label
  family := (Record.unimplemented label).family

/-- The traps of a run, oldest first. -/
abbrev Ledger := List Event

/-- How often a label has trapped. -/
def Ledger.count (ledger : Ledger) (label : String) : Nat :=
  (ledger.filter fun event => event.label = label).length

/-- Where traps are reported. -/
structure Site (σ : Type) where
  writeLine : Bytes → σ → σ
  enter : Event → σ → σ

/-- Reports a trap under a label: its record, its event and then the end. -/
def report {σ α : Type} (site : Site σ) (halt : Event → StateM σ α) (format : LogFormat)
    (label : String) : StateM σ α := do
  modify (site.writeLine ((Record.unimplemented label).bytes format))
  let event := Event.ofLabel label
  modify (site.enter event)
  halt event

/-- Reports a trap of the capability that a symbol names; an unknown symbol reports nothing. -/
def reportSymbol {σ α : Type} (site : Site σ) (halt : Event → StateM σ α) (format : LogFormat)
    (symbol : String) : StateM σ (Except Capability.Unavailable α) :=
  match Capability.lookup symbol with
  | .error unavailable => pure (.error unavailable)
  | .ok capability => .ok <$> report site halt format capability.symbol

/-- The lines written so far, and the traps entered. -/
structure Reporter where
  sink : Bytes := []
  ledger : Ledger := []

/-- What ends the process.  It finds the sink and the ledger as they are by then. -/
abbrev Terminator (α : Type) := Event → StateM Reporter α

/-- The terminator that leaves a trap by unwinding, with the event and nothing else. -/
def unwind : Terminator Event := pure

namespace Reporter

def site : Site Reporter where
  writeLine line reporter := { reporter with sink := reporter.sink ++ line }
  enter event reporter := { reporter with ledger := reporter.ledger ++ [event] }

/-- Reports a trap that unwinds. -/
def trap (reporter : Reporter) (format : LogFormat) (label : String) : Event × Reporter :=
  report site unwind format label reporter

/-- Reports a trap that unwinds, of the capability that a symbol names. -/
def trapSymbol (reporter : Reporter) (format : LogFormat) (symbol : String) :
    Except Capability.Unavailable (Event × Reporter) :=
  let (result, after) := reportSymbol site unwind format symbol reporter
  result.map fun event => (event, after)

end Reporter

end StubLibc.Trap
