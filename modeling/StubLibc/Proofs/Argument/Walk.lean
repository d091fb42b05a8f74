import StubLibc.Proofs.Argument.Drain

/-!
# Walking an argument list

Calls on a cursor come one after the other, and each asks for the next argument as a class, or
whatever it is.  The call with number `index` looks at the argument with that number and at no
other: it gives the data of the argument if the class fits, or says which class it found, and moves
on in both cases.  Calls behind the last argument report the end, where the cursor stays.  What has
been fetched and what is left therefore always add up to the whole list.
-/

namespace StubLibc

/-- The arguments are the same, or integers of the same 64 bits. -/
inductive Arg.SameData : Arg → Arg → Prop
  | refl (arg : Arg) : SameData arg arg
  | toUint {value : Int64} {word : UInt64} (h : value.toBitVec = word.toBitVec) :
    SameData (.int value) (.uint word)
  | toInt {value : Int64} {word : UInt64} (h : value.toBitVec = word.toBitVec) :
    SameData (.uint word) (.int value)

/-- An argument has one reading as each class. -/
theorem Arg.SameData.eq_of_kind_eq {arg value other : Arg} (hvalue : arg.SameData value)
    (hother : arg.SameData other) (hkind : value.kind = other.kind) : value = other := by
  cases hvalue with
  | refl =>
    cases hother with
    | refl => rfl
    | toUint => cases hkind
    | toInt => cases hkind
  | toUint hvalue =>
    cases hother with
    | refl => cases hkind
    | toUint hother => rw [UInt64.toBitVec_inj.mp (hvalue.symm.trans hother)]
  | toInt hvalue =>
    cases hother with
    | refl => cases hkind
    | toInt hother => rw [Int64.toBitVec_inj.mp (hvalue.trans hother.symm)]

namespace Cursor

/-- A call on a cursor. -/
inductive Call where
  /-- The next argument, whatever it is. -/
  | any
  /-- The next argument as one class. -/
  | typed (kind : ArgKind)
  deriving DecidableEq, Repr

/-- A fetch whose values are arguments again. -/
def tagged {α : Type} (tag : α → Arg) (fetch : Cursor → Except ArgFault α × Cursor)
    (cursor : Cursor) : Except ArgFault Arg × Cursor :=
  ((fetch cursor).1.map tag, (fetch cursor).2)

def Call.perform : Call → Cursor → Except ArgFault Arg × Cursor
  | any => next
  | typed .int => tagged .int nextInt
  | typed .uint => tagged .uint nextUint
  | typed .double => tagged .double nextDouble
  | typed .ptr => tagged .ptr nextPtr
  | typed .str => tagged .str nextStr

/-- The outcomes of calls that are made in order, and the cursor behind them. -/
def walk : List Call → Cursor → List (Except ArgFault Arg) × Cursor
  | [], cursor => ([], cursor)
  | call :: more, cursor =>
    let (outcome, after) := call.perform cursor
    let (outcomes, stop) := walk more after
    (outcome :: outcomes, stop)

/-- What a call makes of the argument that it looks at, the one with number `index`. -/
inductive Call.Answers (index : Nat) (arg : Arg) : Call → Except ArgFault Arg → Prop
  | any : Answers index arg .any (.ok arg)
  | value {kind : ArgKind} {value : Arg} (hfits : kind.fits arg.kind = true)
    (hkind : value.kind = kind) (hdata : arg.SameData value) :
    Answers index arg (.typed kind) (.ok value)
  | mismatch {kind : ArgKind} (hunfit : kind.fits arg.kind = false) :
    Answers index arg (.typed kind) (.error (.kindMismatch index kind arg.kind))

variable {args : List Arg} {arg : Arg} {index : Nat} {call : Call}

/-- A call makes one thing of an argument. -/
theorem Call.Answers.eq {outcome other : Except ArgFault Arg} (h : call.Answers index arg outcome)
    (hother : call.Answers index arg other) : outcome = other := by
  cases h with
  | any =>
    cases hother with
    | any => rfl
  | value hfits hkind hdata =>
    cases hother with
    | value _ hotherKind hotherData =>
      rw [hdata.eq_of_kind_eq hotherData (hkind.trans hotherKind.symm)]
    | mismatch hunfit =>
      rw [hfits] at hunfit
      cases hunfit
  | mismatch hunfit =>
    cases hother with
    | value hfits =>
      rw [hfits] at hunfit
      cases hunfit
    | mismatch => rfl

/-! ## One call -/

theorem Call.perform_nil (call : Call) (position : Nat) :
    call.perform ⟨position, []⟩ = (.error (.exhausted position position), ⟨position, []⟩) := by
  cases call with
  | any => rfl
  | typed kind => cases kind <;> rfl

/-- A typed fetch answers where its reading succeeds for the arguments that fit, with their data. -/
theorem exists_answers_of_nextAs {α : Type} {kind : ArgKind} {read? : Arg → Option α}
    {tag : α → Arg} (hfits : (read? arg).isSome = kind.fits arg.kind)
    (hdata : ∀ value ∈ read? arg, (tag value).kind = kind ∧ arg.SameData (tag value))
    (position : Nat) (rest : List Arg) :
    ∃ outcome, tagged tag (nextAs kind read?) ⟨position, arg :: rest⟩ =
        (outcome, ⟨position + 1, rest⟩) ∧
      (Call.typed kind).Answers position arg outcome := by
  rw [tagged, nextAs, next_cons]
  dsimp only
  cases hread : read? arg with
  | none =>
    rw [hread] at hfits
    exact ⟨_, rfl, .mismatch hfits.symm⟩
  | some value =>
    rw [hread] at hfits
    obtain ⟨hkind, hsame⟩ := hdata value hread
    exact ⟨_, rfl, .value hfits.symm hkind hsame⟩

/-- A call in front of an argument answers and moves on. -/
theorem Call.exists_answers_of_cons (call : Call) (position : Nat) (arg : Arg) (rest : List Arg) :
    ∃ outcome, call.perform ⟨position, arg :: rest⟩ = (outcome, ⟨position + 1, rest⟩) ∧
      call.Answers position arg outcome := by
  cases call with
  | any => exact ⟨_, rfl, .any⟩
  | typed kind =>
    cases kind with
    | int =>
      apply exists_answers_of_nextAs arg.isSome_asInt?
      intro value hvalue
      cases arg <;> cases hvalue
      · exact ⟨rfl, .refl _⟩
      · exact ⟨rfl, .toInt rfl⟩
    | uint =>
      apply exists_answers_of_nextAs arg.isSome_asUint?
      intro value hvalue
      cases arg <;> cases hvalue
      · exact ⟨rfl, .toUint rfl⟩
      · exact ⟨rfl, .refl _⟩
    | double =>
      apply exists_answers_of_nextAs arg.isSome_asDouble?
      intro value hvalue
      cases arg <;> cases hvalue
      exact ⟨rfl, .refl _⟩
    | ptr =>
      apply exists_answers_of_nextAs arg.isSome_asPtr?
      intro value hvalue
      cases arg <;> cases hvalue
      exact ⟨rfl, .refl _⟩
    | str =>
      apply exists_answers_of_nextAs arg.isSome_asStr?
      intro value hvalue
      cases arg <;> cases hvalue
      exact ⟨rfl, .refl _⟩

/-! ## Calls in order -/

/-- The cursor over `args` behind `count` calls. -/
def reached (args : List Arg) (count : Nat) : Cursor :=
  ⟨min count args.length, args.drop count⟩

theorem reached_zero (args : List Arg) : reached args 0 = ofArgs args := by
  rw [reached, Nat.zero_min]
  rfl

theorem reached_of_getElem? (h : args[index]? = some arg) :
    reached args index = ⟨index, arg :: args.drop (index + 1)⟩ := by
  obtain ⟨hlt, harg⟩ := List.getElem?_eq_some_iff.mp h
  rw [reached, List.drop_eq_getElem_cons hlt, harg, Nat.min_eq_left (Nat.le_of_lt hlt)]

theorem reached_of_length_le (h : args.length ≤ index) :
    reached args index = ⟨args.length, []⟩ := by
  rw [reached, List.drop_of_length_le h, Nat.min_eq_right h]

theorem position_add_remaining_reached (args : List Arg) (count : Nat) :
    (reached args count).position + (reached args count).remaining = args.length := by
  rw [reached, remaining, List.length_drop]
  dsimp only
  omega

/-- Call number `index` over `args` has this outcome. -/
structure Call.Gives (call : Call) (args : List Arg) (index : Nat)
    (outcome : Except ArgFault Arg) : Prop where
  answers : ∀ arg, args[index]? = some arg → call.Answers index arg outcome
  exhausted : args.length ≤ index → outcome = .error (.exhausted args.length args.length)

/-- A call looks at the argument with its number. -/
theorem Call.exists_gives (call : Call) (args : List Arg) (index : Nat) :
    ∃ outcome, call.perform (reached args index) = (outcome, reached args (index + 1)) ∧
      call.Gives args index outcome := by
  rcases Nat.lt_or_ge index args.length with hlt | hge
  · have harg := List.getElem?_eq_getElem hlt
    obtain ⟨outcome, hperform, hanswers⟩ :=
      call.exists_answers_of_cons index args[index] (args.drop (index + 1))
    refine ⟨outcome, ?_, fun arg hother ↦ ?_, fun hge ↦ absurd hlt (Nat.not_lt.mpr hge)⟩
    · rw [reached_of_getElem? harg, hperform, reached, Nat.min_eq_left hlt]
    · rw [harg, Option.some.injEq] at hother
      exact hother ▸ hanswers
  · refine ⟨.error (.exhausted args.length args.length), ?_, fun arg harg ↦ ?_, fun _ ↦ rfl⟩
    · rw [reached_of_length_le hge, call.perform_nil,
        reached_of_length_le (Nat.le_succ_of_le hge)]
    · rw [List.getElem?_eq_none hge] at harg
      cases harg

/-- Calls made behind `count` others look at the arguments from there on. -/
theorem walk_reached (args : List Arg) (calls : List Call) (count : Nat) :
    (walk calls (reached args count)).2 = reached args (count + calls.length) ∧
      (walk calls (reached args count)).1.length = calls.length ∧
      ∀ index (call : Call), calls[index]? = some call →
        ∃ outcome, (walk calls (reached args count)).1[index]? = some outcome ∧
          call.Gives args (count + index) outcome := by
  induction calls generalizing count with
  | nil => exact ⟨rfl, rfl, fun index call hcall ↦ nomatch hcall⟩
  | cons call more ih =>
    obtain ⟨outcome, hperform, hgives⟩ := call.exists_gives args count
    obtain ⟨hstop, hlength, houtcomes⟩ := ih (count + 1)
    rw [walk, hperform]
    dsimp only
    refine ⟨?_, ?_, fun index asked hasked ↦ ?_⟩
    · rw [hstop, List.length_cons, Nat.add_assoc, Nat.add_comm 1]
    · rw [List.length_cons, hlength, List.length_cons]
    · cases index with
      | zero =>
        cases hasked
        exact ⟨outcome, rfl, hgives⟩
      | succ index =>
        obtain ⟨later, hlater, hgivesLater⟩ := houtcomes index asked hasked
        refine ⟨later, hlater, ?_⟩
        rwa [Nat.add_assoc, Nat.add_comm 1] at hgivesLater

/-- Calls made from the start look at the arguments one after the other. -/
theorem walk_ofArgs (args : List Arg) (calls : List Call) :
    (walk calls (ofArgs args)).2 = reached args calls.length ∧
      (walk calls (ofArgs args)).1.length = calls.length ∧
      ∀ index (call : Call), calls[index]? = some call →
        ∃ outcome, (walk calls (ofArgs args)).1[index]? = some outcome ∧
          call.Gives args index outcome := by
  simpa only [reached_zero, Nat.zero_add] using walk_reached args calls 0

/-- Behind any calls the cursor has fetched as many arguments as there were calls, or all of them,
and the rest is left, which is what the end of the walk counts.  Each call gives what it makes of
the argument with its number, whatever the other arguments and calls are, or reports the end where
there is no such argument. -/
theorem walk_visits_each_once (args : List Arg) (calls : List Call) :
    let outcomes := (walk calls (ofArgs args)).1
    let stop := (walk calls (ofArgs args)).2
    stop.position = min calls.length args.length ∧
      stop.position + stop.remaining = args.length ∧ stop.finish = stop.remaining ∧
      outcomes.length = calls.length ∧
      (∀ index (call : Call), calls[index]? = some call →
        ∃ outcome, outcomes[index]? = some outcome ∧ call.Gives args index outcome) ∧
      ∀ index others otherCalls, index < args.length → others[index]? = args[index]? →
        otherCalls[index]? = calls[index]? →
        (walk otherCalls (ofArgs others)).1[index]? = outcomes[index]? := by
  obtain ⟨hstop, hlength, houtcomes⟩ := walk_ofArgs args calls
  dsimp only
  rw [hstop]
  refine ⟨rfl, position_add_remaining_reached args calls.length, rfl, hlength, houtcomes, ?_⟩
  intro index others otherCalls hlt hothers hotherCalls
  obtain ⟨-, hotherLength, hotherOutcomes⟩ := walk_ofArgs others otherCalls
  cases hcall : calls[index]? with
  | none =>
    -- Neither walk has come this far.
    rw [hcall] at hotherCalls
    rw [List.getElem?_eq_none_iff] at hcall hotherCalls
    rw [List.getElem?_eq_none (hotherLength ▸ hotherCalls),
      List.getElem?_eq_none (hlength ▸ hcall)]
  | some call =>
    have harg := List.getElem?_eq_getElem hlt
    obtain ⟨outcome, houtcome, hgives⟩ := houtcomes index call hcall
    obtain ⟨other, hother, hotherGives⟩ :=
      hotherOutcomes index call (hotherCalls.trans hcall)
    have hanswers := hgives.answers _ harg
    have hotherAnswers := hotherGives.answers _ (hothers.trans harg)
    rw [houtcome, hother, hotherAnswers.eq hanswers]

-- A double that is asked for as a string is passed over, and the end is reported twice.
example : walk [.typed .int, .typed .str, .any, .typed .ptr]
      (ofArgs [.uint 0xFFFFFFFFFFFFFFFF, .double 0]) =
    ([.ok (.int (-1)), .error (.kindMismatch 1 .str .double), .error (.exhausted 2 2),
      .error (.exhausted 2 2)], ⟨2, []⟩) := rfl

end Cursor

end StubLibc
