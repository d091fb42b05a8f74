import StubLibc.Session.Call

/-!
# Runs and their steps

A run makes the calls of a program one after the other, so what holds at its start and survives
every call holds before each of its steps.
-/

namespace StubLibc.Session

/-- What one call does. -/
def Step.ofCall (call : Call) (before : Session) : Step :=
  match call.step before with
  | .returned reply after => ⟨some reply, before, after⟩
  | .halted _ after => ⟨none, before, after⟩

@[simp]
theorem Step.before_ofCall (call : Call) (before : Session) :
    (Step.ofCall call before).before = before := by
  unfold Step.ofCall
  split <;> rfl

@[simp]
theorem Step.after_ofCall (call : Call) (before : Session) :
    (Step.ofCall call before).after = (call.step before).session := by
  unfold Step.ofCall
  split
  · next hstep => rw [hstep, Outcome.session]
  · next hstep => rw [hstep, Outcome.session]

/-- A run starts with its first call. -/
theorem run_cons_zero (call : Call) (rest : List Call) (session : Session) :
    (run (call :: rest) session).1[0]? = some (Step.ofCall call session) := by
  rw [run, Step.ofCall]
  cases call.step session with
  | returned reply after => rfl
  | halted halt after => rfl

/-- A later step of a run is a step of the rest of the program, from where the first call left
off. -/
theorem run_cons_succ {call : Call} {rest : List Call} {session : Session} {i : Nat} {step : Step}
    (h : (run (call :: rest) session).1[i + 1]? = some step) :
    (run rest (call.step session).session).1[i]? = some step := by
  rw [run] at h
  cases hcall : call.step session with
  | returned reply after =>
    rw [hcall] at h
    exact h
  | halted halt after =>
    rw [hcall] at h
    cases h

/-- Every step of a run is a call of its program, made in a session that kept what every call
keeps. -/
theorem exists_call_of_run {P : Session → Prop}
    (hkeeps : ∀ (call : Call) (session : Session), P session → P (call.step session).session)
    {calls : List Call} {session : Session} (hstart : P session) {i : Nat} {step : Step}
    (h : (run calls session).1[i]? = some step) :
    ∃ call before, calls[i]? = some call ∧ P before ∧ step = Step.ofCall call before := by
  induction calls generalizing session i with
  | nil => cases h
  | cons call rest ih =>
    cases i with
    | zero =>
      rw [run_cons_zero, Option.some.injEq] at h
      exact ⟨call, session, rfl, hstart, h.symm⟩
    | succ i => exact ih (hkeeps call session hstart) (run_cons_succ h)

end StubLibc.Session
