import StubLibc.Proofs.Session.Offer
import StubLibc.Proofs.Session.Run

/-!
# Where a run ends

A call ends the process when the table has its symbol trap, when it asks for a trap itself, or
when it names a stream that its function does not know.  Each time the same is left behind: a
record on the error stream, after the record of the request where `exit` or `system` was called,
and one event in the ledger.  A run makes its calls up to the first that ends the process, and that
call decides how the run ends.
-/

namespace StubLibc

open Console (Descriptor Stream)
open Diagnostic (Record)

namespace Call

/-! ## Calls that end the process -/

/-- The symbol that is called.  The writers below the exported surface, and looks at streams and
blocks, call none. -/
def symbol? : Call → Option String
  | strcmp _ _ => some "strcmp"
  | strcasecmp _ _ => some "strcasecmp"
  | strncpy _ _ _ => some "strncpy"
  | strrchr _ _ => some "strrchr"
  | printf _ _ => some "printf"
  | vfprintf _ _ _ => some "vfprintf"
  | vsnprintf _ _ _ _ => some "vsnprintf"
  | renderCollected _ _ => none
  | fwrite _ _ _ _ => some "fwrite"
  | fflush _ => some "fflush"
  | putchar _ => some "putchar"
  | puts _ => some "puts"
  | writeStream _ _ => none
  | writeAll _ _ => none
  | mkdir _ _ => some "mkdir"
  | setErrno _ => some "__errno_location"
  | streams => none
  | malloc _ _ => some "malloc"
  | calloc _ _ _ => some "calloc"
  | realloc _ _ => some "realloc"
  | free _ => some "free"
  | poke _ _ => none
  | peek _ _ => none
  | exit _ => some "exit"
  | system _ => some "system"
  | unimplemented _ => some "unimplemented"
  | stub function _ => some function.name

/-- What the table has for the symbol that is called. -/
def capability? (call : Call) : Option Capability := call.symbol?.bind Capability.ofSymbol?

/-- The handle by which a call names a stream, and the handles that its function knows. -/
def handles? : Call → Option (Nat × List Nat)
  | vfprintf handle _ _ => some (handle, [1, 2])
  | fwrite _ _ _ handle => some (handle, [1, 2])
  | fflush handle => some (handle, [0, 1, 2])
  | _ => none

/-- The call does not return. -/
def EndsProcess (call : Call) : Prop :=
  (∃ capability ∈ call.capability?, capability.disposition = .trap) ∨
    call.symbol? = some "unimplemented" ∨
    ∃ named ∈ call.handles?, named.1 ∉ named.2

instance (call : Call) : Decidable call.EndsProcess :=
  inferInstanceAs (Decidable (_ ∨ _ ∨ _))

/-- The name of the trap that a call ends in, if it does: the label that a trap was asked for
under, or the symbol that is called. -/
def label? : Call → Option String
  | unimplemented label => some (CString.display label)
  | call => call.symbol?

/-- What a call says was asked of it before it ends the process. -/
def request? : Call → Option Record
  | exit status => some (Record.request .exit .exitRequested (Numeral.ofInt status.toInt))
  | system command => some (Record.request .system .commandRequested (CString.display command))
  | _ => none

theorem exists_of_trap {capability : Capability} (htrap : capability.disposition = .trap)
    (hexit : capability ≠ .exit) (hsystem : capability ≠ .system) :
    ∃ call : Call, call.symbol? = some capability.symbol :=
  ⟨stub _ (Stub.mem_all_of_trap htrap hexit hsystem), rfl⟩

/-- Every function of the table can be called. -/
theorem exists_of_capability (capability : Capability) :
    ∃ call : Call, call.symbol? = some capability.symbol := by
  cases capability with
  | strcmp => exact ⟨strcmp none none, rfl⟩
  | strcasecmp => exact ⟨strcasecmp none none, rfl⟩
  | strncpy => exact ⟨strncpy none none 0, rfl⟩
  | strrchr => exact ⟨strrchr none 0, rfl⟩
  | fwrite => exact ⟨fwrite none 0 0 0, rfl⟩
  | fflush => exact ⟨fflush 0, rfl⟩
  | putchar => exact ⟨putchar 0, rfl⟩
  | puts => exact ⟨puts none, rfl⟩
  | printf => exact ⟨printf none ⟨[], []⟩, rfl⟩
  | vfprintf => exact ⟨vfprintf 0 none ⟨[], []⟩, rfl⟩
  | vsnprintf => exact ⟨vsnprintf none 0 none ⟨[], []⟩, rfl⟩
  | exit => exact ⟨exit 0, rfl⟩
  | system => exact ⟨system none, rfl⟩
  | unimplemented => exact ⟨unimplemented none, rfl⟩
  | malloc => exact ⟨malloc "" 0, rfl⟩
  | calloc => exact ⟨calloc "" 0 0, rfl⟩
  | realloc => exact ⟨realloc "" 0, rfl⟩
  | free => exact ⟨free "", rfl⟩
  | mkdir => exact ⟨mkdir none 0, rfl⟩
  | errnoLocation => exact ⟨setErrno 0, rfl⟩
  | _ => exact exists_of_trap rfl (by decide) (by decide)

/-- The table has what it says of a capability under its symbol. -/
theorem capability?_of_symbol? {call : Call} {capability : Capability}
    (h : call.symbol? = some capability.symbol) : call.capability? = some capability := by
  rw [capability?, h, Option.bind_some, Capability.ofSymbol?_symbol]

end Call

namespace Console.Stream

theorem ofHandle?_eq_none_iff {handle : Nat} : ofHandle? handle = none ↔ handle ∉ [0, 1, 2] := by
  unfold ofHandle?
  split <;> simp_all

theorem outputOfHandle?_eq_none_iff {handle : Nat} :
    outputOfHandle? handle = none ↔ handle ∉ [1, 2] := by
  unfold outputOfHandle? ofHandle?
  split <;> simp_all [isWritable]

end Console.Stream

namespace Offer

/-- Records are for the error stream. -/
theorem payload_diagnostics (log : LogFormat) (stream : Stream) (records : List Record) :
    payload log stream (records.map diagnostic) =
      if stream = .stderr then records.flatMap (Record.bytes log) else [] := by
  rw [payload, List.flatMap_map]
  split
  · next hstream => simp only [bytesFor, hstream, if_true]
  · next hstream =>
    rw [List.flatMap_eq_nil_iff]
    intro record _
    exact if_neg hstream

end Offer

namespace Call

open Console.Stream

variable {call : Call}

theorem capability?_stub {function : Stub} (h : function ∈ Stub.all) :
    (stub function h).capability? = some function.traps :=
  capability?_of_symbol? (congrArg some (Stub.agrees_of_mem_all h).1)

/-- A provided function with a handle ends the process when it does not know the handle. -/
theorem endsProcess_iff_of_handles? (capability : Capability) {handle : Nat} {known : List Nat}
    (hsymbol : call.symbol? = some capability.symbol)
    (hprovided : capability.disposition = .provided) (hname : capability.symbol ≠ "unimplemented")
    (hhandles : call.handles? = some (handle, known)) : call.EndsProcess ↔ handle ∉ known := by
  constructor
  · rintro (⟨other, hother, htrap⟩ | hother | ⟨named, hnamed, hmisses⟩)
    · rw [capability?_of_symbol? hsymbol] at hother
      cases hother
      rw [hprovided] at htrap
      cases htrap
    · rw [hsymbol, Option.some.injEq] at hother
      exact absurd hother hname
    · rw [hhandles] at hnamed
      cases hnamed
      exact hmisses
  · exact fun hmisses ↦ .inr (.inr ⟨(handle, known), hhandles, hmisses⟩)

theorem endsProcess_vfprintf_iff {handle : Nat} {format : Pointer} {args : Format.VaList} :
    (vfprintf handle format args).EndsProcess ↔ outputOfHandle? handle = none :=
  (endsProcess_iff_of_handles? .vfprintf rfl rfl (by decide) rfl).trans
    outputOfHandle?_eq_none_iff.symm

theorem endsProcess_fwrite_iff {memory : Pointer} {size count handle : Nat} :
    (fwrite memory size count handle).EndsProcess ↔ outputOfHandle? handle = none :=
  (endsProcess_iff_of_handles? .fwrite rfl rfl (by decide) rfl).trans
    outputOfHandle?_eq_none_iff.symm

theorem endsProcess_fflush_iff {handle : Nat} :
    (fflush handle).EndsProcess ↔ ofHandle? handle = none :=
  (endsProcess_iff_of_handles? .fflush rfl rfl (by decide) rfl).trans
    ofHandle?_eq_none_iff.symm

/-- A call that ends the process makes its request, if it has one, and traps under its label. -/
theorem step_of_endsProcess (h : call.EndsProcess) (session : Session) :
    ∃ label ∈ call.label?,
      call.step session = .ofTrap label (call.request?.elim session session.diagnose) := by
  cases call with
  | vfprintf handle format args =>
    refine ⟨_, rfl, ?_⟩
    rw [step, endsProcess_vfprintf_iff.mp h]
    rfl
  | fwrite memory size count handle =>
    refine ⟨_, rfl, ?_⟩
    rw [step, endsProcess_fwrite_iff.mp h]
    rfl
  | fflush handle =>
    refine ⟨_, rfl, ?_⟩
    rw [step, endsProcess_fflush_iff.mp h]
    rfl
  | exit status => exact ⟨_, rfl, rfl⟩
  | system command => exact ⟨_, rfl, rfl⟩
  | unimplemented label => exact ⟨_, rfl, rfl⟩
  | stub function hstub =>
    refine ⟨_, rfl, ?_⟩
    rw [(Stub.agrees_of_mem_all hstub).1]
    rfl
  | _ => exact absurd h (of_decide_eq_false rfl)

/-- Any other call returns. -/
theorem step_of_not_endsProcess (h : ¬ call.EndsProcess) (session : Session) :
    ∃ reply after, call.step session = .returned reply after := by
  cases call with
  | vfprintf handle format args =>
    obtain ⟨stream, hstream⟩ := Option.ne_none_iff_exists'.mp (mt endsProcess_vfprintf_iff.mpr h)
    rw [step, hstream]
    exact ⟨_, _, rfl⟩
  | fwrite memory size count handle =>
    obtain ⟨stream, hstream⟩ := Option.ne_none_iff_exists'.mp (mt endsProcess_fwrite_iff.mpr h)
    rw [step, hstream]
    exact ⟨_, _, rfl⟩
  | fflush handle =>
    obtain ⟨stream, hstream⟩ := Option.ne_none_iff_exists'.mp (mt endsProcess_fflush_iff.mpr h)
    rw [step, hstream]
    exact ⟨_, _, rfl⟩
  | exit status => exact absurd (.inl ⟨.exit, capability?_of_symbol? rfl, rfl⟩) h
  | system command => exact absurd (.inl ⟨.system, capability?_of_symbol? rfl, rfl⟩) h
  | unimplemented label => exact absurd (.inr (.inl rfl)) h
  | stub function hstub =>
    exact absurd (.inl ⟨_, capability?_stub hstub, (Stub.agrees_of_mem_all hstub).2⟩) h
  | _ => exact ⟨_, _, rfl⟩

end Call

/-! ## What a trap leaves behind -/

namespace Session

/-- A process has said what was asked of it, if something was, and trapped under a label. -/
structure Trapped (log : LogFormat) (request? : Option Record) (label : String)
    (before after : Session) : Prop where
  stdout : after.stdout = before.stdout
  stderr : after.stderr = before.stderr.accept
    ((request?.toList ++ [Record.unimplemented label]).flatMap (Record.bytes log))
  ledger : after.ledger = before.ledger ++ [⟨label, (Record.unimplemented label).family⟩]

theorem ledger_accept (stream : Stream) (bytes : Bytes) (session : Session) :
    (session.accept stream bytes).ledger = session.ledger := by
  cases stream <;> rfl

/-- Diagnostics are no traps. -/
theorem ledger_diagnose (record : Record) (session : Session) :
    (session.diagnose record).ledger = session.ledger := by
  have hstderr : Stream.stderr.isWritable = true := rfl
  rw [diagnose]
  by_cases hrefuses : (session.output .stderr).Refuses (record.bytes session.settings.log)
  · rw [writeStream_of_refuses hstderr hrefuses]
    rfl
  · rw [writeStream_of_not_refuses hstderr hrefuses]
    exact ledger_accept _ _ _

theorem ledger_elim_diagnose (request? : Option Record) (session : Session) :
    (request?.elim session session.diagnose).ledger = session.ledger := by
  cases request? with
  | none => rfl
  | some record => exact ledger_diagnose record session

theorem took_elim_diagnose (request? : Option Record) (session : Session) :
    Took (request?.toList.map Offer.diagnostic) session
      (request?.elim session session.diagnose) := by
  cases request? with
  | none => exact .refl session
  | some record => exact took_diagnose record session

theorem trapped_trap (request? : Option Record) (label : String) (session : Session) :
    Trapped session.settings.log request? label session
      ((request?.elim session session.diagnose).trap label).2 := by
  have hoffers : request?.toList.map Offer.diagnostic ++ Call.trapOffers label =
      (request?.toList ++ [Record.unimplemented label]).map Offer.diagnostic := by
    rw [List.map_append]
    rfl
  have htook := (took_elim_diagnose request? session).trans (took_trap label _)
  rw [hoffers] at htook
  refine ⟨?_, ?_, ?_⟩
  · rw [htook.stdout, Offer.payload_diagnostics, if_neg (by decide), Descriptor.accept_nil]
  · rw [htook.stderr, Offer.payload_diagnostics, if_pos rfl]
  · calc
      ((request?.elim session session.diagnose).trap label).2.ledger =
          ((request?.elim session session.diagnose).diagnose (Record.unimplemented label)).ledger ++
            [Trap.Event.ofLabel label] := rfl
      _ = session.ledger ++ [Trap.Event.ofLabel label] := by
        rw [ledger_diagnose, ledger_elim_diagnose]

/-- A trap halts the process in the configured way. -/
theorem ofTrap_eq (label : String) (session : Session) :
    Outcome.ofTrap label session = .halted session.settings.trap.halt (session.trap label).2 :=
  calc
    Outcome.ofTrap label session =
        .halted (session.diagnose (Record.unimplemented label)).settings.trap.halt
          (session.trap label).2 := rfl
    _ = .halted session.settings.trap.halt (session.trap label).2 := by
      rw [(took_diagnose _ session).settings]

/-- A call that ends the process halts it and leaves its trap behind. -/
theorem step_halts {call : Call} (h : call.EndsProcess) (session : Session) :
    ∃ after, call.step session = .halted session.settings.trap.halt after ∧
      ∃ label ∈ call.label?,
        Trapped session.settings.log call.request? label session after := by
  obtain ⟨label, hlabel, hstep⟩ := Call.step_of_endsProcess h session
  refine ⟨_, ?_, label, hlabel, trapped_trap call.request? label session⟩
  rw [hstep, ofTrap_eq, (took_elim_diagnose _ session).settings]

/-! ## Runs -/

/-- A step is without an answer just when its call ends the process. -/
theorem Step.reply_ofCall_eq_none_iff {call : Call} {before : Session} :
    (Step.ofCall call before).reply = none ↔ call.EndsProcess := by
  by_cases hends : call.EndsProcess
  · obtain ⟨after, hstep, -⟩ := step_halts hends before
    rw [Step.ofCall, hstep]
    exact iff_of_true rfl hends
  · obtain ⟨reply, after, hstep⟩ := Call.step_of_not_endsProcess hends before
    rw [Step.ofCall, hstep]
    exact iff_of_false (Option.some_ne_none reply) hends

theorem run_cons_of_endsProcess {call : Call} (h : call.EndsProcess) (rest : List Call)
    (session : Session) :
    run (call :: rest) session =
      ([Step.ofCall call session], .halted session.settings.trap.halt) := by
  obtain ⟨after, hstep, -⟩ := step_halts h session
  rw [run, Step.ofCall, hstep]

theorem run_cons_of_not_endsProcess {call : Call} (h : ¬ call.EndsProcess) (rest : List Call)
    (session : Session) :
    run (call :: rest) session =
      (Step.ofCall call session :: (run rest (call.step session).session).1,
        (run rest (call.step session).session).2) := by
  obtain ⟨reply, after, hstep⟩ := Call.step_of_not_endsProcess h session
  rw [run, Step.ofCall, hstep]
  rfl

/-- A run makes the calls up to the first that ends the process. -/
theorem length_run (calls : List Call) (session : Session) :
    (run calls session).1.length =
      min calls.length (calls.findIdx (fun call ↦ decide call.EndsProcess) + 1) := by
  induction calls generalizing session with
  | nil => rfl
  | cons call rest ih =>
    by_cases hends : call.EndsProcess
    · rw [run_cons_of_endsProcess hends, List.findIdx_cons, decide_eq_true hends]
      simp
    · rw [run_cons_of_not_endsProcess hends, List.findIdx_cons, decide_eq_false hends]
      simp [ih]

/-- A run is halted in the configured way when one of its calls ends the process. -/
theorem run_ending (calls : List Call) (session : Session) :
    (run calls session).2 =
      if ∃ call ∈ calls, call.EndsProcess then .halted session.settings.trap.halt else .done := by
  induction calls generalizing session with
  | nil => simp [run]
  | cons call rest ih =>
    by_cases hends : call.EndsProcess
    · rw [run_cons_of_endsProcess hends, if_pos ⟨call, List.mem_cons_self .., hends⟩]
    · rw [run_cons_of_not_endsProcess hends, ih, (took_step call session).settings]
      simp [hends]

/-- Under any environment and from any state, a run makes the calls up to the first that ends the
process.  That is a call of a symbol that the table has trap, of `unimplemented`, or of a function
that does not know the stream named; it does not return, writes nothing to standard output and the
records of its request and its trap to the error stream, and enters the trap in the ledger.  The
process then ends by the abort signal, or with status 134 if the environment asks for an exit.
Every function of the table can be called. -/
theorem run_ends_at_trap :
    (∀ capability : Capability, ∃ call : Call, call.symbol? = some capability.symbol) ∧
    ∀ (read : String → Option String) (calls : List Call) (start : Session),
      let session := { start with settings := Settings.ofEnvironment read }
      let steps := (run calls session).1
      steps.length = min calls.length (calls.findIdx (fun call ↦ decide call.EndsProcess) + 1) ∧
        (run calls session).2 =
          (if ∃ call ∈ calls, call.EndsProcess then
            .halted (if Knob.trap.resolve (read "DOOMLIBC_TRAP") = .exit then .exit 134
              else .signal 6)
          else .done) ∧
        ∀ (i : Nat) (step : Step), steps[i]? = some step → ∃ call : Call, calls[i]? = some call ∧
          (step.reply = none ↔ call.EndsProcess) ∧
          (call.EndsProcess → ∃ label ∈ call.label?,
            Trapped (Knob.log.resolve (read "DOOMLIBC_LOG")) call.request? label step.before
              step.after) := by
  refine ⟨Call.exists_of_capability, fun read calls start ↦ ?_⟩
  intro session steps
  have hhalt : session.settings.trap.halt =
      if Knob.trap.resolve (read "DOOMLIBC_TRAP") = .exit then .exit 134 else .signal 6 := by
    change (Knob.trap.resolve (read "DOOMLIBC_TRAP")).halt = _
    cases Knob.trap.resolve (read "DOOMLIBC_TRAP") <;> rfl
  have hkeeps : ∀ (call : Call) (before : Session), before.settings = session.settings →
      (call.step before).session.settings = session.settings :=
    fun call before hsettings ↦ (took_step call before).settings.trans hsettings
  refine ⟨length_run calls session, ?_, ?_⟩
  · rw [run_ending, hhalt]
  · intro i step hstep
    obtain ⟨call, before, hcall, hsettings, rfl⟩ := exists_call_of_run hkeeps rfl hstep
    refine ⟨call, hcall, Step.reply_ofCall_eq_none_iff, fun hends ↦ ?_⟩
    obtain ⟨after, hafter, label, hlabel, htrapped⟩ := step_halts hends before
    refine ⟨label, hlabel, ?_⟩
    rw [hsettings] at htrapped
    rw [Step.before_ofCall, Step.after_ofCall, hafter]
    exact htrapped

/-- A run that is asked to exit does so, not with the status it asks for, and goes no further. -/
theorem run_ends_at_exit :
    let read := fun name ↦ if name = "DOOMLIBC_TRAP" then some " EXIT" else none
    let line := Call.puts (CString.pointerTo (Bytes.ofAscii ['h', 'i']))
    let outcome := run [line, .exit 3, line] { settings := Settings.ofEnvironment read }
    outcome.1.length = 2 ∧ outcome.2 = .halted (.exit 134) ∧
      ∃ step, outcome.1[1]? = some step ∧ step.reply = none ∧
        Trapped .text (some (Record.request .exit .exitRequested "3")) "exit" step.before
          step.after := by
  intro read line outcome
  have hexit : (Call.exit 3).EndsProcess := by decide
  have hread : Knob.trap.resolve (read "DOOMLIBC_TRAP") = .exit := by decide +kernel
  have hlog : Knob.log.resolve (read "DOOMLIBC_LOG") = .text := by decide +kernel
  have hrequest : (Call.exit 3).request? = some (Record.request .exit .exitRequested "3") := by
    decide +kernel
  obtain ⟨hlength, hending, hsteps⟩ := run_ends_at_trap.2 read [line, .exit 3, line] {}
  have hlast : [line, .exit 3, line].findIdx (fun call ↦ decide call.EndsProcess) = 1 := by decide
  have htwo : outcome.1.length = 2 := by
    rw [hlength, hlast]
    rfl
  have hstatus : outcome.2 = .halted (.exit 134) := by
    rw [hending, if_pos ⟨_, by simp, hexit⟩, if_pos hread]
  have hstep : outcome.1[1]? = some outcome.1[1] := List.getElem?_eq_getElem (by rw [htwo]; decide)
  obtain ⟨call, hcall, hreply, htrap⟩ := hsteps 1 _ hstep
  cases hcall
  obtain ⟨label, hlabel, htrapped⟩ := htrap hexit
  cases hlabel
  rw [hlog, hrequest] at htrapped
  exact ⟨htwo, hstatus, _, hstep, hreply.mpr hexit, htrapped⟩

end Session

end StubLibc
