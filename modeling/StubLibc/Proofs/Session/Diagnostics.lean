import StubLibc.Proofs.Log.Rules
import StubLibc.Proofs.Session.Occasions

/-!
# The library's own records and the check of logs

Every record that a call puts in a log keeps the rules that logs are checked against, whatever
bytes the call was given, except one: the record of a trap under an empty label names no symbol.
-/

namespace StubLibc

open Console (Descriptor)
open Diagnostic (Event Record)

/-! ## Labels -/

theorem Utf8.units_cons_ne_nil (byte : UInt8) (bytes : Bytes) : units (byte :: bytes) ≠ [] := by
  unfold units
  repeat' split
  all_goals exact List.cons_ne_nil _ _

theorem Utf8.decodeLossy_eq_empty_iff {bytes : Bytes} : decodeLossy bytes = "" ↔ bytes = [] := by
  cases bytes with
  | nil => exact iff_of_true rfl rfl
  | cons byte rest =>
    apply iff_of_false
    · intro h
      have hlist := congrArg String.toList h
      rw [decodeLossy, String.toList_ofList] at hlist
      exact units_cons_ne_nil byte rest (List.map_eq_nil_iff.mp hlist)
    · exact List.cons_ne_nil byte rest

/-- Only an empty string is shown as nothing. -/
theorem CString.display_eq_empty_iff {pointer : Pointer} :
    display pointer = "" ↔ bytes? pointer = some [] := by
  unfold display
  cases bytes? pointer with
  | none => exact iff_of_false (by decide) (fun h ↦ nomatch h)
  | some text => rw [Utf8.decodeLossy_eq_empty_iff, Option.some.injEq]

theorem Capability.symbol_ne_empty (capability : Capability) : capability.symbol ≠ "" := by
  cases capability <;> decide

theorem Capability.symbol_injective {first second : Capability}
    (h : first.symbol = second.symbol) : first = second := by
  have hfirst := ofSymbol?_symbol first
  rw [h, ofSymbol?_symbol, Option.some.injEq] at hfirst
  exact hfirst.symm

/-! ## The records of the library -/

namespace Log.Rule

variable {record : Record} {capability : Capability}

theorem holds_symbol_of_ne_empty {symbol : String} (hsymbol : record.symbol = some symbol)
    (hne : symbol ≠ "") : Holds record .symbol := by
  intro _
  rw [hsymbol]
  exact ⟨Option.some_ne_none symbol, fun h ↦ hne (Option.some.inj h)⟩

theorem holds_detail_of_some {detail : String} (hdetail : record.detail = some detail) :
    Holds record .detail := by
  intro _
  rw [hdetail]
  exact Option.some_ne_none detail

/-- The rule on families is kept by a record that takes both fields from one capability. -/
theorem holds_family_of_capability (hsymbol : record.symbol = some capability.symbol)
    (hfamily : record.family = some capability.family) : Holds record .family := by
  intro other _ hother stated hstated
  rw [hsymbol, Option.some.injEq] at hother
  rw [hfamily, Option.mem_def, Option.some.injEq] at hstated
  rw [← hstated, Capability.symbol_injective hother]

end Log.Rule

namespace Diagnostic.Record

open Log (Rule)

theorem holds_skipped (capability : Capability) (detail : String) :
    ∀ rule, Rule.Holds (skipped capability detail) rule
  | .symbol => Rule.holds_symbol_of_ne_empty rfl capability.symbol_ne_empty
  | .detail => Rule.holds_detail_of_some rfl
  | .family => Rule.holds_family_of_capability rfl rfl

theorem holds_request {capability : Capability} (hfamily : capability.family = .process)
    (event : Event) (detail : String) :
    ∀ rule, Rule.Holds (request capability event detail) rule
  | .symbol => Rule.holds_symbol_of_ne_empty rfl capability.symbol_ne_empty
  | .detail => Rule.holds_detail_of_some rfl
  | .family => Rule.holds_family_of_capability rfl (congrArg some hfamily.symm)

theorem holds_unknownSpecifier (byte : UInt8) : ∀ rule, Rule.Holds (unknownSpecifier byte) rule
  | .symbol => by
    have hevent : Event.unknownFormatSpecifier ∉
        [Event.unimplemented, .skipped, .exitRequested, .commandRequested] := by decide
    exact fun hmem ↦ absurd hmem hevent
  | .detail => Rule.holds_detail_of_some rfl
  | .family => fun _ _ hsymbol ↦ absurd hsymbol (Option.some_ne_none _).symm

/-- The record of a trap keeps the rules exactly when the label is not empty. -/
theorem holds_unimplemented_iff {label : String} :
    (∀ rule, Rule.Holds (unimplemented label) rule) ↔ label ≠ "" := by
  constructor
  · intro h hempty
    have hsymbol := (h .symbol (List.mem_cons_self ..)).2
    exact hsymbol (congrArg some hempty)
  · rintro hne (_ | _ | _)
    · exact Rule.holds_symbol_of_ne_empty rfl hne
    · have hevent : Event.unimplemented ∉
          [Event.exitRequested, .commandRequested, .unknownFormatSpecifier] := by decide
      exact fun hmem ↦ absurd hmem hevent
    · intro capability _ hsymbol stated hstated
      have hlabel : label = capability.symbol := Option.some.inj hsymbol
      rw [unimplemented, hlabel, Capability.ofSymbol?_symbol, Option.mem_def, Option.map_some,
        Option.some.injEq] at hstated
      exact hstated.symm

end Diagnostic.Record

namespace Call

open Log (Rule)

/-- The records among offers keep the rules. -/
def OffersHold (offers : List Offer) : Prop :=
  ∀ record ∈ Offer.records offers, ∀ rule, Rule.Holds record rule

/-- A trap under a label that is an empty string. -/
def IsUnlabelledTrap (call : Call) : Prop :=
  ∃ label, call = unimplemented label ∧ CString.bytes? label = some []

/-- The records that a call offers keep the rules unless it traps under an empty label. -/
theorem offersHold_iff (call : Call) (settings : Settings) :
    OffersHold (call.offers settings) ↔ ¬ call.IsUnlabelledTrap := by
  constructor
  · rintro hholds ⟨label, rfl, hempty⟩
    have hlabel := Record.holds_unimplemented_iff.mp (hholds _ List.mem_cons_self)
    exact hlabel (CString.display_eq_empty_iff.mpr hempty)
  · intro hlabelled record hrecord
    obtain ⟨offer, hoffer, hsome⟩ := List.mem_filterMap.mp hrecord
    cases offer with
    | output stream bytes => cases hsome
    | diagnostic other =>
      cases hsome
      obtain ⟨occasion, hmade, rfl⟩ := offersMade call settings record hoffer
      cases hmade with
      | trapped _ => exact Record.holds_unimplemented_iff.mpr (Capability.symbol_ne_empty _)
      | unimplemented label =>
        apply Record.holds_unimplemented_iff.mpr
        exact fun hempty ↦ hlabelled ⟨label, rfl, CString.display_eq_empty_iff.mp hempty⟩
      | directory path mode => exact Record.holds_skipped _ _
      | exitRequested status => exact Record.holds_request rfl _ _
      | commandRequested command => exact Record.holds_request rfl _ _
      | readOver _ conversion => exact Record.holds_unknownSpecifier _

end Call

/-! ## Runs -/

namespace Session

/-- What an open error stream holds after a call beyond what it held before. -/
theorem stderr_ofCall {before : Session} (hroom : before.stderr.room = none) (call : Call) :
    (Step.ofCall call before).stderr =
      Offer.payload before.settings.log .stderr (call.offers before.settings) := by
  let added := Offer.payload before.settings.log .stderr (call.offers before.settings)
  have hcontent : (call.step before).session.stderr.content = before.stderr.content ++ added := by
    rw [(took_step call before).stderr, Descriptor.content_accept_of_open hroom]
  calc
    (Step.ofCall call before).stderr =
        (call.step before).session.stderr.content.drop before.stderr.content.length := by
      rw [Step.stderr, Step.after_ofCall, Step.before_ofCall]
    _ = (before.stderr.content ++ added).drop before.stderr.content.length := by rw [hcontent]
    _ = added := List.drop_left

/-- In a run that logs to an open error stream in the JSON form, each step adds to the stream just
what its call offers; every record among the offers is a line whose check gives the record back,
unless the step is a trap under an empty label. -/
theorem run_records_check_iff {calls : List Call} {session : Session}
    (hlog : session.settings.log = .jsonl) (hroom : session.stderr.room = none) {i : Nat}
    {step : Step} (hstep : (run calls session).1[i]? = some step) :
    ∃ call, calls[i]? = some call ∧
      step.stderr = Offer.payload .jsonl .stderr (call.offers session.settings) ∧
      ((∀ record ∈ Offer.records (call.offers session.settings), ∀ number,
          record.bytes .jsonl =
              Bytes.ofText (String.ofList record.document.compact) ++ [0x0A] ∧
            Log.checkLine record.document.compact number = .ok record) ↔
        ¬ call.IsUnlabelledTrap) := by
  have hkeeps : ∀ (call : Call) (before : Session),
      before.settings = session.settings ∧ before.stderr.room = none →
        (call.step before).session.settings = session.settings ∧
          (call.step before).session.stderr.room = none := by
    rintro call before ⟨hsettings, hopen⟩
    have htook := took_step call before
    refine ⟨htook.settings.trans hsettings, ?_⟩
    rw [htook.stderr, Descriptor.accept, hopen, Option.map_none]
  obtain ⟨call, before, hcall, ⟨hsettings, hopen⟩, rfl⟩ :=
    exists_call_of_run hkeeps ⟨rfl, hroom⟩ hstep
  refine ⟨call, hcall, ?_, ?_⟩
  · rw [stderr_ofCall hopen, hsettings, hlog]
  · rw [← Call.offersHold_iff call session.settings]
    constructor
    · intro h record hrecord
      exact (Log.checkLine_eq_ok_iff record.parse_document 1).mp (h record hrecord 1).2
    · intro h record hrecord number
      exact ⟨record.bytes_jsonl,
        (Log.checkLine_eq_ok_iff record.parse_document number).mpr (h record hrecord)⟩

/-- A trap under an empty label puts a line in the log that the check refuses. -/
theorem run_record_not_checked :
    ∃ step,
      (run [.unimplemented (CString.pointerTo [])] { settings := { log := .jsonl } }).1[0]? =
          some step ∧
        step.stderr = (Record.unimplemented "").bytes .jsonl ∧
        Log.checkLine (Record.unimplemented "").document.compact 1 =
          .error [⟨1, .symbolMissing⟩] := by
  refine ⟨_, run_cons_zero _ _ _, ?_, ?_⟩
  · have hlabel : CString.display (CString.pointerTo []) = "" :=
      CString.display_eq_empty_iff.mpr rfl
    rw [stderr_ofCall rfl, Call.offers, hlabel]
    exact Offer.payload_diagnostic _ _
  · have hcomplaints : Log.complaints (Record.unimplemented "") = [.symbolMissing] := by decide
    rw [Log.checkLine, Record.parse_document]
    dsimp only
    rw [hcomplaints]
    rfl

/-- The two records of an exit are what it writes, and the check accepts both. -/
theorem run_records_checked :
    ∃ step,
      (run [.exit 3] { settings := { log := .jsonl } }).1[0]? = some step ∧
        step.stderr =
          Offer.payload .jsonl .stderr ((Call.exit 3).offers { log := .jsonl }) ∧
        ∀ record ∈ Offer.records ((Call.exit 3).offers { log := .jsonl }), ∀ number,
          Log.checkLine record.document.compact number = .ok record := by
  have hstep := run_cons_zero (.exit 3) [] { settings := { log := .jsonl } }
  obtain ⟨call, hcall, hstderr, hchecked⟩ := run_records_check_iff rfl rfl hstep
  cases hcall
  refine ⟨_, hstep, hstderr, ?_⟩
  intro record hrecord number
  refine (hchecked.mpr ?_ record hrecord number).2
  rintro ⟨label, hlabel, -⟩
  cases hlabel

end Session

end StubLibc
