import StubLibc.Trap

/-!
# Many traps on one ledger

A trap writes its record, enters its event and only then runs what ends the process.  Where that
unwinds, the process can trap again.  Each request for a trap that finds its name adds to the ledger
the one event of that name and to the sink the one record of that event; a request for an unknown
symbol adds nothing.  Whatever was in the ledger stays there unchanged.
-/

namespace StubLibc

open Diagnostic (Record)

namespace Capability

theorem isSome_ofSymbol?_iff {symbol : String} :
    (ofSymbol? symbol).isSome = true ↔ ∃ capability : Capability, capability.symbol = symbol := by
  constructor
  · intro h
    obtain ⟨capability, hfound⟩ := Option.isSome_iff_exists.mp h
    exact ⟨capability, symbol_eq_of_ofSymbol? hfound⟩
  · rintro ⟨capability, rfl⟩
    rw [ofSymbol?_symbol, Option.isSome_some]

theorem ofSymbol?_eq_none_iff {symbol : String} :
    ofSymbol? symbol = none ↔ ∀ capability : Capability, capability.symbol ≠ symbol := by
  rw [← Option.not_isSome_iff_eq_none, isSome_ofSymbol?_iff, not_exists]

end Capability

namespace Trap

/-! ## One trap -/

theorem Ledger.count_append_singleton (ledger : Ledger) (event : Event) (label : String) :
    Ledger.count (ledger ++ [event]) label =
      ledger.count label + if label = event.label then 1 else 0 := by
  unfold Ledger.count
  rw [List.filter_append, List.length_append]
  by_cases h : label = event.label
  · simp [h]
  · simp [h, Ne.symm h]

theorem Event.family_ofLabel (label : String) :
    (Event.ofLabel label).family = (Capability.ofSymbol? label).map Capability.family := rfl

/-! ## Requests for traps -/

/-- A request for a trap: under a name of the caller's, or of the capability that the name is the
symbol of. -/
structure Step where
  bySymbol : Bool
  name : String
  format : LogFormat

namespace Step

/-- A name that is looked up is in the capability table. -/
def Finds (step : Step) : Prop :=
  step.bySymbol = true → ∃ capability : Capability, capability.symbol = step.name

instance : DecidablePred Finds := fun step ↦
  decidable_of_iff (step.bySymbol = true → (Capability.ofSymbol? step.name).isSome = true)
    (imp_congr_right fun _ ↦ Capability.isSome_ofSymbol?_iff)

/-- The line that a trap of this name puts in the sink. -/
def line (step : Step) : Bytes := (Record.unimplemented step.name).bytes step.format

def perform {α : Type} (halt : Terminator α) (step : Step) :
    StateM Reporter (Except Capability.Unavailable α) :=
  if step.bySymbol then reportSymbol Reporter.site halt step.format step.name
  else .ok <$> report Reporter.site halt step.format step.name

/-- The answer to the request: the event of the trap and the reporter after it. -/
def answer (step : Step) (before : Reporter) :
    Except Capability.Unavailable (Event × Reporter) :=
  if step.bySymbol then before.trapSymbol step.format step.name
  else .ok (before.trap step.format step.name)

/-- The request adds one event to the ledger and its record to the sink, and all of that before
the terminator runs. -/
structure Enters (step : Step) (event : Event) (before after : Reporter) : Prop where
  label : event.label = step.name
  family_of_symbol : ∀ capability : Capability, capability.symbol = step.name →
    event.family = some capability.family
  family_of_unknown : (∀ capability : Capability, capability.symbol ≠ step.name) →
    event.family = none
  family_record : event.family = (Record.unimplemented event.label).family
  ledger : after.ledger = before.ledger ++ [event]
  count : ∀ label, after.ledger.count label =
    before.ledger.count label + if label = step.name then 1 else 0
  sink : after.sink = before.sink ++ (Record.unimplemented event.label).bytes step.format
  answer : step.answer before = .ok (event, after)
  terminator : ∀ {α : Type} (halt : Terminator α),
    step.perform halt before = (.ok <$> halt event : StateM Reporter _) after

/-- The request is refused: no terminator runs, and the reporter stays as it is. -/
structure Refused (step : Step) (before after : Reporter) : Prop where
  unchanged : after = before
  answer : step.answer before = .error (.unknownSymbol step.name)
  terminator : ∀ {α : Type} (halt : Terminator α),
    step.perform halt before = (.error (.unknownSymbol step.name), before)

variable {step : Step}

/-- A name that is found traps as itself, whichever way it was given. -/
theorem perform_of_finds {α : Type} (h : step.Finds) (halt : Terminator α) :
    step.perform halt = .ok <$> report Reporter.site halt step.format step.name := by
  unfold perform
  split
  · next hsymbol =>
    obtain ⟨capability, hname⟩ := h hsymbol
    rw [← hname, reportSymbol, Capability.lookup, Capability.ofSymbol?_symbol]
  · rfl

/-- The answer to a request is what it comes to where it unwinds. -/
theorem answer_eq (step : Step) (before : Reporter) :
    step.answer before =
      (step.perform unwind before).1.map fun event ↦ (event, (step.perform unwind before).2) := by
  unfold answer perform
  split <;> rfl

theorem lookup_of_not_finds (h : ¬ step.Finds) :
    step.bySymbol = true ∧
      Capability.lookup step.name = .error (.unknownSymbol step.name) := by
  rw [Finds, Classical.not_imp, not_exists] at h
  refine ⟨h.1, ?_⟩
  rw [Capability.lookup, Capability.ofSymbol?_eq_none_iff.mpr h.2]

/-- A step that finds its name enters one event. -/
theorem enters_of_finds (h : step.Finds) (before : Reporter) :
    step.Enters (Event.ofLabel step.name) before (step.perform unwind before).2 := by
  have hperform {α : Type} (halt : Terminator α) :
      step.perform halt before = (.ok <$> halt (Event.ofLabel step.name) : StateM Reporter _)
        (before.trap step.format step.name).2 := by
    rw [perform_of_finds h]
    rfl
  have hafter : (step.perform unwind before).2 = (before.trap step.format step.name).2 := by
    rw [hperform]
    rfl
  rw [hafter]
  exact {
    label := rfl
    family_of_symbol := by
      intro capability hname
      rw [Event.family_ofLabel, ← hname, Capability.ofSymbol?_symbol, Option.map_some]
    family_of_unknown := by
      intro hunknown
      rw [Event.family_ofLabel, Capability.ofSymbol?_eq_none_iff.mpr hunknown, Option.map_none]
    family_record := rfl
    ledger := rfl
    count := Ledger.count_append_singleton before.ledger (Event.ofLabel step.name)
    sink := rfl
    answer := by
      rw [answer_eq, hperform]
      rfl
    terminator := hperform }

theorem refused_of_not_finds (h : ¬ step.Finds) (before : Reporter) :
    step.Refused before (step.perform unwind before).2 := by
  obtain ⟨hsymbol, hlookup⟩ := lookup_of_not_finds h
  have hperform {α : Type} (halt : Terminator α) :
      step.perform halt before = (.error (.unknownSymbol step.name), before) := by
    rw [perform, if_pos hsymbol, reportSymbol, hlookup]
    rfl
  exact {
    unchanged := by rw [hperform]
    answer := by
      rw [answer_eq, hperform]
      rfl
    terminator := hperform }

end Step

/-! ## Runs -/

/-- The reporter after steps that all end by unwinding. -/
def Reporter.afterSteps (start : Reporter) (steps : List Step) : Reporter :=
  steps.foldl (fun reporter step ↦ (step.perform unwind reporter).2) start

theorem Reporter.afterSteps_take_succ (start : Reporter) {steps : List Step} {i : Nat}
    (hi : i < steps.length) :
    start.afterSteps (steps.take (i + 1)) =
      (steps[i].perform unwind (start.afterSteps (steps.take i))).2 := by
  unfold afterSteps
  rw [List.take_succ_eq_append_getElem hi, List.foldl_append]
  rfl

/-- A run adds to the sink and to the ledger what its steps add, in order. -/
theorem Reporter.afterSteps_eq (steps : List Step) (start : Reporter) :
    start.afterSteps steps =
      { sink := start.sink ++ (steps.filter (·.Finds)).flatMap Step.line
        ledger :=
          start.ledger ++ (steps.filter (·.Finds)).map fun step ↦ Event.ofLabel step.name } := by
  induction steps generalizing start with
  | nil => simp [afterSteps]
  | cons step rest ih =>
    have hrest : start.afterSteps (step :: rest) = (step.perform unwind start).2.afterSteps rest :=
      rfl
    rw [hrest, ih]
    by_cases h : step.Finds
    · have henters := Step.enters_of_finds h start
      simp [h, henters.sink, henters.ledger, Step.line, Event.ofLabel]
    · have hrefused := Step.refused_of_not_finds h start
      simp [h, hrefused.unchanged]

/-- A run of steps enters the events of those that find their names, in order, and writes their
records.  Each step enters its own event or, where its name is unknown, does nothing. -/
theorem Reporter.afterSteps_enters (steps : List Step) (start : Reporter) :
    (start.afterSteps steps).ledger =
        start.ledger ++ (steps.filter (·.Finds)).map (fun step ↦ Event.ofLabel step.name) ∧
      (start.afterSteps steps).sink = start.sink ++ (steps.filter (·.Finds)).flatMap Step.line ∧
      ∀ (i : Nat) (hi : i < steps.length),
        let before := start.afterSteps (steps.take i)
        let after := start.afterSteps (steps.take (i + 1))
        (steps[i].Finds → steps[i].Enters (Event.ofLabel steps[i].name) before after) ∧
          (¬ steps[i].Finds → steps[i].Refused before after) := by
  have hrun := start.afterSteps_eq steps
  refine ⟨congrArg ledger hrun, congrArg sink hrun, ?_⟩
  intro i hi before after
  have hafter : after = (steps[i].perform unwind before).2 := start.afterSteps_take_succ hi
  rw [hafter]
  exact ⟨fun h ↦ Step.enters_of_finds h before, fun h ↦ Step.refused_of_not_finds h before⟩

/-- A symbol, an unknown symbol, a label of the caller's, and a label that is a symbol. -/
theorem Reporter.afterSteps_enters_mixed :
    let steps : List Step :=
      [⟨true, "fopen", .text⟩, ⟨true, "probe", .jsonl⟩, ⟨false, "probe", .jsonl⟩,
        ⟨false, "free", .text⟩]
    let start : Reporter := {}
    (start.afterSteps steps).ledger =
        [⟨"fopen", some .stdio⟩, ⟨"probe", none⟩, ⟨"free", some .malloc⟩] ∧
      steps[0].Enters ⟨"fopen", some .stdio⟩ start (start.afterSteps (steps.take 1)) ∧
      steps[1].Refused (start.afterSteps (steps.take 1)) (start.afterSteps (steps.take 2)) := by
  intro steps start
  obtain ⟨hledger, -, hsteps⟩ := start.afterSteps_enters steps
  have hfound : steps[0].Finds := by decide +kernel
  have hunknown : ¬ steps[1].Finds := by decide +kernel
  refine ⟨hledger.trans (by decide +kernel), ?_, (hsteps 1 (by decide)).2 hunknown⟩
  have hfamily : Event.ofLabel "fopen" = ⟨"fopen", some .stdio⟩ := by decide +kernel
  exact hfamily ▸ (hsteps 0 (by decide)).1 hfound

end Trap

end StubLibc
