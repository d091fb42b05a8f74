import StubLibc.Log.Check
import StubLibc.Proofs.Diagnostic.RoundTrip
import StubLibc.Proofs.Json.Compact

/-!
# Log lines and the rules on records

The rules on a record, said without the check that looks for them, and the two halves of the log
format as inverses: a record that is written as a log line is one line of text, and checking that
line gives back the record when the record keeps the rules, and one complaint for each rule that it
breaks when it does not.
-/

namespace StubLibc.Log

open Diagnostic (Event Record)

/-- The rules on a record, in the order of their complaints. -/
inductive Rule where
  /-- Traps, skipped effects and requests name a symbol. -/
  | symbol
  /-- Requests and skipped conversions carry a detail. -/
  | detail
  /-- A family beside a known symbol is the symbol's own. -/
  | family
  deriving DecidableEq, Repr

namespace Rule

def all : List Rule := [symbol, detail, family]

def field : Rule → String
  | symbol => "symbol"
  | detail => "detail"
  | family => "api_family"

def Holds (record : Record) : Rule → Prop
  | symbol =>
    record.event ∈ [Event.unimplemented, .skipped, .exitRequested, .commandRequested] →
      record.symbol ≠ none ∧ record.symbol ≠ some ""
  | detail =>
    record.event ∈ [Event.exitRequested, .commandRequested, .unknownFormatSpecifier] →
      record.detail ≠ none
  | family =>
    ∀ capability ∈ Capability.all, record.symbol = some capability.symbol →
      ∀ stated ∈ record.family, stated = capability.family

instance (record : Record) : DecidablePred (Holds record)
  | symbol => inferInstanceAs (Decidable (_ → _ ∧ _))
  | detail => inferInstanceAs (Decidable (_ → _))
  | family => inferInstanceAs (Decidable (∀ capability ∈ Capability.all, _ → ∀ stated ∈ _, _))

/-- The rules that a record breaks. -/
def brokenBy (record : Record) : List Rule :=
  all.filter fun rule ↦ ¬ Holds record rule

theorem mem_all (rule : Rule) : rule ∈ all := by
  cases rule <;> decide

theorem brokenBy_eq_nil_iff {record : Record} :
    brokenBy record = [] ↔ ∀ rule, Holds record rule := by
  simp only [brokenBy, List.filter_eq_nil_iff, decide_eq_true_eq, Classical.not_not]
  constructor
  · intro h rule
    exact h rule (mem_all rule)
  · intro h rule _
    exact h rule

end Rule

/-! ## One complaint for each broken rule -/

theorem holds_symbol_iff (record : Record) :
    Rule.Holds record .symbol ↔
      (needsSymbol record.event && record.symbol.getD "" == "") = false := by
  obtain ⟨level, event, symbol, family, detail⟩ := record
  cases event <;> cases symbol <;> simp [needsSymbol, Rule.Holds]

theorem field_symbolComplaints (record : Record) :
    (symbolComplaints record).map Complaint.field =
      if Rule.Holds record .symbol then [] else [Rule.symbol.field] := by
  simp only [holds_symbol_iff]
  unfold symbolComplaints
  cases needsSymbol record.event && record.symbol.getD "" == "" <;> rfl

theorem field_detailComplaints (record : Record) :
    (detailComplaints record).map Complaint.field =
      if Rule.Holds record .detail then [] else [Rule.detail.field] := by
  obtain ⟨level, event, symbol, family, detail⟩ := record
  cases event <;> cases detail <;> rfl

/-- Only the family of the capability that the symbol names can break the rule. -/
theorem holds_family_iff (record : Record) :
    Rule.Holds record .family ↔
      ∀ capability ∈ record.symbol.bind Capability.ofSymbol?,
        ∀ stated ∈ record.family, stated = capability.family := by
  constructor
  · intro h capability hcapability
    obtain ⟨symbol, hsymbol, hfind⟩ := Option.bind_eq_some_iff.mp hcapability
    apply h capability capability.mem_all
    rw [hsymbol, Capability.symbol_eq_of_ofSymbol? hfind]
  · intro h capability _ hsymbol
    apply h capability
    rw [hsymbol, Option.mem_def, Option.bind_some, Capability.ofSymbol?_symbol]

theorem field_familyComplaints (record : Record) :
    (familyComplaints record).map Complaint.field =
      if Rule.Holds record .family then [] else [Rule.family.field] := by
  simp only [holds_family_iff]
  unfold familyComplaints
  cases record.symbol.bind Capability.ofSymbol? with
  | none => simp
  | some capability =>
    cases record.family with
    | none => simp
    | some stated =>
      by_cases hstated : stated = capability.family
      · simp [hstated]
      · simp [hstated, Complaint.field, Rule.field]

/-- The fields that a record is complained about. -/
theorem field_complaints (record : Record) :
    (complaints record).map Complaint.field = (Rule.brokenBy record).map Rule.field :=
  calc
    (complaints record).map Complaint.field =
        (symbolComplaints record).map Complaint.field ++
          (detailComplaints record).map Complaint.field ++
          (familyComplaints record).map Complaint.field := by
      rw [complaints, List.map_append, List.map_append]
    _ = (if Rule.Holds record .symbol then [] else [Rule.symbol.field]) ++
          (if Rule.Holds record .detail then [] else [Rule.detail.field]) ++
          (if Rule.Holds record .family then [] else [Rule.family.field]) := by
      rw [field_symbolComplaints, field_detailComplaints, field_familyComplaints]
    _ = (Rule.brokenBy record).map Rule.field := by
      simp only [Rule.brokenBy, Rule.all, List.filter_cons, List.filter_nil, decide_not,
        Bool.not_eq_true', decide_eq_false_iff_not]
      split <;> split <;> split <;> rfl

/-! ## Checking a line with a record -/

variable {record : Record} {text : List Char}

theorem complaints_eq_nil_iff :
    complaints record = [] ↔ ∀ rule, Rule.Holds record rule :=
  calc
    complaints record = [] ↔ (complaints record).map Complaint.field = [] :=
      List.map_eq_nil_iff.symm
    _ ↔ (Rule.brokenBy record).map Rule.field = [] := by rw [field_complaints]
    _ ↔ Rule.brokenBy record = [] := List.map_eq_nil_iff
    _ ↔ ∀ rule, Rule.Holds record rule := Rule.brokenBy_eq_nil_iff

theorem checkLine_eq_ok_iff (hparse : Record.parse text = .ok record) (number : Nat) :
    checkLine text number = .ok record ↔ ∀ rule, Rule.Holds record rule := by
  rw [← complaints_eq_nil_iff, checkLine, hparse]
  dsimp only
  cases complaints record with
  | nil => exact iff_of_true rfl rfl
  | cons complaint more =>
    apply iff_of_false
    · intro h
      cases h
    · exact List.cons_ne_nil complaint more

/-- A record that breaks rules has one complaint for each of them, in their order. -/
theorem checkLine_eq_error (hparse : Record.parse text = .ok record)
    (hbroken : ∃ rule, ¬ Rule.Holds record rule) (number : Nat) :
    ∃ errors, checkLine text number = .error errors ∧
      errors.map (fun error ↦ (error.line, error.complaint.field)) =
        (Rule.brokenBy record).map fun rule ↦ (number, rule.field) := by
  have hfields := field_complaints record
  rw [checkLine, hparse]
  dsimp only
  cases hfound : complaints record with
  | nil =>
    obtain ⟨rule, hrule⟩ := hbroken
    exact absurd (complaints_eq_nil_iff.mp hfound rule) hrule
  | cons complaint more =>
    refine ⟨_, rfl, ?_⟩
    rw [hfound] at hfields
    calc
      ((complaint :: more).map (LineError.mk number)).map
          (fun error ↦ (error.line, error.complaint.field)) =
        ((complaint :: more).map Complaint.field).map (Prod.mk number) := by
          rw [List.map_map, List.map_map]
          rfl
      _ = ((Rule.brokenBy record).map Rule.field).map (Prod.mk number) := by rw [hfields]
      _ = (Rule.brokenBy record).map fun rule ↦ (number, rule.field) := List.map_map

end StubLibc.Log

namespace StubLibc.Diagnostic.Record

/-! ## Written lines -/

theorem bytes_jsonl (record : Record) :
    record.bytes .jsonl = Bytes.ofText (String.ofList record.document.compact) ++ [0x0A] := by
  have hend : Bytes.ofText "\n" = [0x0A] := by decide
  calc
    record.bytes .jsonl = Bytes.ofText (String.ofList (record.document.compact ++ ['\n'])) := rfl
    _ = Bytes.ofText (String.ofList record.document.compact ++ "\n") := by
      rw [String.ofList_append]
    _ = Bytes.ofText (String.ofList record.document.compact) ++ [0x0A] := by
      rw [Bytes.ofText_append, hend]

/-- Every record is written as one line, and checking the line gives back the record or one
complaint for each rule that the record breaks. -/
theorem bytes_checkLine (record : Record) (number : Nat) :
    ∃ text : List Char,
      record.bytes .jsonl = Bytes.ofText (String.ofList text) ++ [0x0A] ∧
      (∀ byte ∈ Bytes.ofText (String.ofList text), 0x20 ≤ byte) ∧
      (Log.checkLine text number = .ok record ↔ ∀ rule, Log.Rule.Holds record rule) ∧
      ((∃ rule, ¬ Log.Rule.Holds record rule) →
        ∃ errors, Log.checkLine text number = .error errors ∧
          errors.map (fun error ↦ (error.line, error.complaint.field)) =
            (Log.Rule.brokenBy record).map fun rule ↦ (number, rule.field)) := by
  have hparse := parse_document record
  refine ⟨record.document.compact, bytes_jsonl record, ?_, ?_, ?_⟩
  · intro byte hbyte
    exact (Json.Document.noControl_compact record.document).le_of_mem_ofText hbyte
  · exact Log.checkLine_eq_ok_iff hparse number
  · intro hbroken
    exact Log.checkLine_eq_error hparse hbroken number

end StubLibc.Diagnostic.Record
