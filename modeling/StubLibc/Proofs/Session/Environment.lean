import StubLibc.Proofs.Knob.Lookup
import StubLibc.Proofs.Session.Diagnostics
import StubLibc.Proofs.Session.Visible

/-!
# What the environment decides

The knobs are looked up while a program runs, each at the first call that needs it, and which call
that is depends on the other knobs.  Still a run is the run under the settings that the environment
selects, and two environments give runs that differ in three things only: the form of the records,
whether directories are announced, and how a trap ends the process.
-/

namespace StubLibc

open Diagnostic (Record)

/-! ## Directories -/

namespace Offer

/-- The offer is made under a policy on directories; the policy is asked only about directories. -/
def isShown (policy : MkdirPolicy) : Offer → Bool
  | output _ _ => true
  | diagnostic record => record.event != .skipped || policy == .notice

end Offer

namespace Call

variable {call : Call} {record : Record}

/-- The record of a directory that was not created is made by `mkdir`, and by nothing else. -/
theorem mem_offers_skipped_iff :
    (.diagnostic record ∈ call.offers {} ∧ record.event = .skipped) ↔
      ∃ path mode, call = mkdir path mode ∧
        record = Record.skipped .mkdir (Mkdir.shownPath (CString.bytes? path)) := by
  constructor
  · rintro ⟨hoffered, hevent⟩
    obtain ⟨occasion, hmade, rfl⟩ := offersMade call {} record hoffered
    cases hmade with
    | directory path mode => exact ⟨path, mode, rfl, rfl⟩
    | _ => cases hevent
  · rintro ⟨path, mode, rfl, rfl⟩
    exact ⟨List.mem_cons_self, rfl⟩

theorem offers_eq_of_ne_mkdir (h : ∀ path mode, call ≠ mkdir path mode) (settings : Settings) :
    call.offers settings = call.offers {} := by
  cases call with
  | mkdir path mode => exact absurd rfl (h path mode)
  | _ => rfl

/-- The settings only hide the records of directories. -/
theorem offers_eq_filter (call : Call) (settings : Settings) :
    call.offers settings = (call.offers {}).filter (Offer.isShown settings.mkdir) := by
  by_cases hcall : ∃ path mode, call = mkdir path mode
  · obtain ⟨path, mode, rfl⟩ := hcall
    rw [offers, offers]
    unfold Mkdir.plan
    cases settings.mkdir <;> rfl
  · have hother : ∀ path mode, call ≠ mkdir path mode :=
      fun path mode h ↦ hcall ⟨path, mode, h⟩
    rw [offers_eq_of_ne_mkdir hother, eq_comm, List.filter_eq_self]
    intro offer hoffer
    cases offer with
    | output stream bytes => rfl
    | diagnostic record =>
      have hevent : record.event ≠ .skipped := by
        intro h
        obtain ⟨path, mode, hmkdir, -⟩ := mem_offers_skipped_iff.mp ⟨hoffer, h⟩
        exact hother path mode hmkdir
      rw [Offer.isShown, bne_iff_ne.mpr hevent, Bool.true_or]

/-- The calls that are made: those up to the first that ends the process. -/
def made (calls : List Call) : List Call :=
  calls.take (calls.findIdx (fun call ↦ decide call.EndsProcess) + 1)

theorem made_cons_of_endsProcess (h : call.EndsProcess) (rest : List Call) :
    made (call :: rest) = [call] := by
  rw [made, List.findIdx_cons, decide_eq_true h]
  rfl

theorem made_cons_of_not_endsProcess (h : ¬ call.EndsProcess) (rest : List Call) :
    made (call :: rest) = call :: made rest := by
  rw [made, List.findIdx_cons, decide_eq_false h]
  rfl

end Call

/-! ## Runs that look their knobs up -/

namespace Session

/-- An environment, and the knobs that each call looks up. -/
structure Conditions where
  environment : Knob.Environment
  lookUps : Knob.Caches → Session → Call → List Knob.Name

/-- Runs a program whose knobs are looked up on the way.  A call goes by what look-ups give when it
is made. -/
def runUnder (conditions : Conditions) : List Call → Knob.Caches → Session → List Step × End
  | [], _, _ => ([], .done)
  | call :: rest, caches, session =>
    let before := { session with settings := caches.settings conditions.environment }
    match call.step before with
    | .returned reply after =>
      let names := conditions.lookUps caches before call
      let caches := Knob.Caches.lookUpAll conditions.environment names caches
      let (steps, ending) := runUnder conditions rest caches after
      (⟨some reply, before, after⟩ :: steps, ending)
    | .halted halt after => ([⟨none, before, after⟩], .halted halt)

variable {session : Session}

theorem runUnder_eq_run (conditions : Conditions) (calls : List Call) {caches : Knob.Caches}
    {settings : Settings} (hcaches : caches.settings conditions.environment = settings)
    (session : Session) :
    runUnder conditions calls caches session =
      run calls { session with settings := settings } := by
  induction calls generalizing caches session with
  | nil => rfl
  | cons call rest ih =>
    rw [runUnder, run, hcaches]
    dsimp only
    cases hstep : call.step { session with settings := settings } with
    | halted halt after => rfl
    | returned reply after =>
      have hkept : after.settings = settings := by
        have htook := took_step call { session with settings := settings }
        rw [hstep] at htook
        exact htook.settings
      dsimp only
      rw [ih ((Knob.Caches.settings_lookUpAll _ _ caches).trans hcaches), ← hkept]

/-- On an open error stream each call of a run leaves what it offers, in the form of the run and
without what the policy hides. -/
theorem map_stderr_run (calls : List Call) (h : session.IsOpen) :
    (run calls session).1.map Step.stderr =
      (Call.made calls).map fun call ↦
        Offer.payload session.settings.log .stderr
          ((call.offers {}).filter (Offer.isShown session.settings.mkdir)) := by
  induction calls generalizing session with
  | nil => rfl
  | cons call rest ih =>
    have hfirst := stderr_ofCall h.stderr call
    rw [Call.offers_eq_filter] at hfirst
    by_cases hends : call.EndsProcess
    · rw [run_cons_of_endsProcess hends, Call.made_cons_of_endsProcess hends, List.map_singleton,
        List.map_singleton, hfirst]
    · have hsettings := (took_step call session).settings
      rw [run_cons_of_not_endsProcess hends, Call.made_cons_of_not_endsProcess hends,
        List.map_cons, List.map_cons, hfirst, ih (h.step call), hsettings]

/-- Two runs of a program from one session, whose descriptors take everything, may be under any
environments and look their knobs up whenever they do: step by step they give the same answers and
leave the same session but for its settings and its error stream.  On the error stream each step
leaves the same program bytes and records, in the form that its environment selects, without the
records of directories if its environment has them hidden; these are the announcements of `mkdir`.
If a call ends the process, it is the same in both, and the environment selects how it ends. -/
theorem runUnder_agree (calls : List Call) {start : Session} (hstart : start.IsOpen)
    (first second : Conditions) :
    (runUnder first calls {} start).1.map Step.visible =
        (runUnder second calls {} start).1.map Step.visible ∧
      (∀ conditions : Conditions,
        let settings := Settings.ofEnvironment conditions.environment
        let outcome := runUnder conditions calls {} start
        (outcome.1.map Step.stderr =
          (Call.made calls).map fun call ↦
            Offer.payload settings.log .stderr
              ((call.offers {}).filter (Offer.isShown settings.mkdir))) ∧
        outcome.2 =
          if ∃ call ∈ calls, call.EndsProcess then .halted settings.trap.halt else .done) ∧
      ∀ (call : Call) (record : Record),
        (.diagnostic record ∈ call.offers {} ∧ record.event = .skipped) ↔
          ∃ path mode, call = .mkdir path mode ∧
            record = Record.skipped .mkdir (Mkdir.shownPath (CString.bytes? path)) := by
  have hrun (conditions : Conditions) : runUnder conditions calls {} start =
      run calls { start with settings := Settings.ofEnvironment conditions.environment } :=
    runUnder_eq_run conditions calls (Knob.Caches.settings_fresh conditions.environment) start
  have hopen (settings : Settings) : IsOpen { start with settings := settings } :=
    ⟨hstart.stdout, hstart.stderr⟩
  refine ⟨?_, ?_, fun call record ↦ Call.mem_offers_skipped_iff⟩
  · calc
      _ = (run calls start.visible).1.map Step.visible := by
        rw [hrun, map_visible_run calls (hopen _)]
        rfl
      _ = _ := by
        rw [hrun, map_visible_run calls (hopen _)]
        rfl
  · intro conditions settings outcome
    constructor
    · exact (congrArg (fun outcome ↦ outcome.1.map Step.stderr) (hrun conditions)).trans
        (map_stderr_run calls (hopen settings))
    · exact (congrArg Prod.snd (hrun conditions)).trans (run_ending calls _)

/-- A directory and an exit in an empty environment, and where directories are hidden, records are
in the JSON form and a trap ends the process with a status. -/
theorem runUnder_agree_exit :
    let path := CString.pointerTo (Bytes.ofAscii ['/', 't', 'm', 'p', '/', 'x'])
    let calls := [.mkdir path 493, .exit 3]
    let first : Conditions := ⟨fun _ ↦ none, fun _ _ _ ↦ []⟩
    let second : Conditions :=
      ⟨fun name ↦
        if name = "DOOMLIBC_MKDIR" then some "quiet"
        else if name = "DOOMLIBC_LOG" then some "jsonl"
        else some "exit",
        fun _ _ _ ↦ [.log, .trap]⟩
    let left := runUnder first calls {} {}
    let right := runUnder second calls {} {}
    left.1.map Step.visible = right.1.map Step.visible ∧
      left.1.map Step.stderr =
        [Bytes.ofText "TODO: mkdir /tmp/x\n", Bytes.ofText "exit: 3\nunimplemented: exit\n"] ∧
      right.1.map Step.stderr =
        [[], (Record.request .exit .exitRequested "3").bytes .jsonl ++
          (Record.unimplemented "exit").bytes .jsonl] ∧
      left.2 = .halted (.signal 6) ∧ right.2 = .halted (.exit 134) := by
  intro path calls first second left right
  have hopen : IsOpen {} := ⟨rfl, rfl⟩
  obtain ⟨hvisible, hdecided, -⟩ := runUnder_agree calls hopen first second
  obtain ⟨hleft, hleftEnd⟩ := hdecided first
  obtain ⟨hright, hrightEnd⟩ := hdecided second
  refine ⟨hvisible, hleft.trans ?_, hright.trans ?_, hleftEnd.trans ?_, hrightEnd.trans ?_⟩
  · decide +kernel
  · decide +kernel
  · decide +kernel
  · decide +kernel

end Session

end StubLibc
