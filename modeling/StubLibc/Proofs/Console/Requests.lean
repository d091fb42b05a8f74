import StubLibc.Proofs.Console.Delivery

/-!
# The writes of a delivery

A delivery makes one write after the other, each for what the writes before it left.  On any device
that takes the beginning of what it is asked for, as many bytes as it answers, it puts down a prefix
of its bytes, each byte once and in order.  It stops before the end only at a write that takes
nothing, and makes no other write after that one.

The writes themselves show on a device that keeps a record of them.
-/

namespace StubLibc.Console

variable {σ : Type} {write : Bytes → σ → Int × σ} {received : σ → Bytes}

/-- A device that takes the beginning of what it is asked for, as many bytes as it answers, and
nothing where its answer is not positive. -/
structure Accepts (write : Bytes → σ → Int × σ) (received : σ → Bytes) : Prop where
  answer_le_length : ∀ bytes device, bytes ≠ [] → (write bytes device).1 ≤ bytes.length
  received_write : ∀ bytes device, bytes ≠ [] →
    received (write bytes device).2 = received device ++ bytes.take (write bytes device).1.toNat

/-- One write: what a device was asked for, and its answer. -/
structure Request where
  bytes : Bytes
  answer : Int
  deriving DecidableEq, Repr

/-- The bytes that a write put down. -/
def Request.taken (request : Request) : Bytes := request.bytes.take request.answer.toNat

/-- A device with a record of the writes that are made to it. -/
def logged (write : Bytes → σ → Int × σ) (bytes : Bytes) (device : σ × List Request) :
    Int × (σ × List Request) :=
  let (answer, after) := write bytes device.1
  (answer, (after, device.2 ++ [⟨bytes, answer⟩]))

/-! ## Records -/

/-- The record of a delivery that puts down `count` bytes: every write is for what the writes before
it left, and the one that takes nothing is the last. -/
inductive Serves : Bytes → List Request → Nat → Prop
  | done : Serves [] [] 0
  | refused {bytes : Bytes} {answer : Int} (hbytes : bytes ≠ []) (hanswer : answer ≤ 0) :
    Serves bytes [⟨bytes, answer⟩] 0
  | more {bytes : Bytes} {answer : Int} {requests : List Request} {count : Nat}
    (hanswer : 0 < answer) (hlength : answer ≤ bytes.length)
    (hrest : Serves (bytes.drop answer.toNat) requests count) :
    Serves bytes (⟨bytes, answer⟩ :: requests) (answer.toNat + count)

namespace Serves

variable {bytes : Bytes} {requests : List Request} {count : Nat}

theorem count_le (h : Serves bytes requests count) : count ≤ bytes.length := by
  induction h with
  | done => exact Nat.le_refl 0
  | refused => exact Nat.zero_le _
  | more hanswer hlength _ ih =>
    rw [List.length_drop] at ih
    omega

/-- There are no more writes than bytes. -/
theorem length_le (h : Serves bytes requests count) : requests.length ≤ bytes.length := by
  induction h with
  | done => exact Nat.le_refl 0
  | refused hbytes => exact List.length_pos_iff.mpr hbytes
  | more hanswer hlength _ ih =>
    rw [List.length_drop] at ih
    rw [List.length_cons]
    omega

/-- What the writes put down, one after the other, is a prefix of the bytes. -/
theorem flatMap_taken (h : Serves bytes requests count) :
    requests.flatMap Request.taken = bytes.take count := by
  induction h with
  | done => rfl
  | refused hbytes hanswer => simp [Request.taken, Int.toNat_of_nonpos hanswer]
  | more hanswer hlength _ ih => rw [List.flatMap_cons, ih, Request.taken, ← List.take_add]

/-- Either all bytes are put down, or the last write takes nothing.  Every other write takes
something. -/
theorem whole_or_refused (h : Serves bytes requests count) :
    (count = bytes.length ∧ ∀ request ∈ requests, 0 < request.answer) ∨
      count < bytes.length ∧ ∃ made last, requests = made ++ [last] ∧ last.answer ≤ 0 ∧
        ∀ request ∈ made, 0 < request.answer := by
  induction h with
  | done => exact .inl ⟨rfl, fun _ hmem ↦ (nomatch hmem)⟩
  | refused hbytes hanswer =>
    exact .inr ⟨List.length_pos_iff.mpr hbytes, [], _, rfl, hanswer, fun _ hmem ↦ (nomatch hmem)⟩
  | @more bytes answer requests count hanswer hlength hrest ih =>
    rw [List.length_drop] at ih
    rcases ih with ⟨hwhole, hmade⟩ | ⟨hshort, made, last, rfl, hlast, hmade⟩
    · exact .inl ⟨by omega, List.forall_mem_cons.mpr ⟨hanswer, hmade⟩⟩
    · exact .inr ⟨by omega, ⟨bytes, answer⟩ :: made, last, rfl, hlast,
        List.forall_mem_cons.mpr ⟨hanswer, hmade⟩⟩

end Serves

/-! ## Deliveries -/

/-- A device with a record does what the device does, and its record is that of the delivery. -/
theorem deliver_logged (hwrite : Accepts write received) (bytes : Bytes) (device : σ)
    (log : List Request) :
    ∃ requests, Serves bytes requests (deliver write bytes device).1 ∧
      deliver (logged write) bytes (device, log) =
        ((deliver write bytes device).1, ((deliver write bytes device).2, log ++ requests)) := by
  fun_induction deliver write bytes device generalizing log with
  | case1 device =>
    refine ⟨[], .done, ?_⟩
    rw [deliver, dif_pos rfl, List.append_nil]
  | case2 bytes device hbytes answer after hanswer hrefused =>
    refine ⟨[⟨bytes, answer⟩], .refused hbytes hrefused, ?_⟩
    rw [deliver, dif_neg hbytes, logged, hanswer]
    exact dif_pos hrefused
  | case3 bytes device hbytes answer between hanswer hrefused more after hmore ih =>
    obtain ⟨requests, hserves, hrest⟩ := ih (log ++ [⟨bytes, answer⟩])
    have hlength := hwrite.answer_le_length bytes device hbytes
    rw [hanswer] at hlength
    rw [hmore] at hserves hrest
    refine ⟨⟨bytes, answer⟩ :: requests, .more (Int.not_le.mp hrefused) hlength hserves, ?_⟩
    rw [deliver, dif_neg hbytes, logged, hanswer]
    dsimp only
    rw [dif_neg hrefused, hrest, List.append_assoc, List.singleton_append]

/-- A device holds what it held before, and then as much of the bytes as the delivery says. -/
theorem received_deliver (hwrite : Accepts write received) (bytes : Bytes) (device : σ) :
    received (deliver write bytes device).2 =
      received device ++ bytes.take (deliver write bytes device).1 := by
  fun_induction deliver write bytes device with
  | case1 device => rw [List.take_nil, List.append_nil]
  | case2 bytes device hbytes answer after hanswer hrefused =>
    have hreceived := hwrite.received_write bytes device hbytes
    rwa [hanswer, Int.toNat_of_nonpos hrefused] at hreceived
  | case3 bytes device hbytes answer between hanswer hrefused more after hmore ih =>
    have hreceived := hwrite.received_write bytes device hbytes
    rw [hanswer] at hreceived
    rw [hmore, hreceived] at ih
    rw [ih, List.append_assoc, ← List.take_add]

/-! ## Devices -/

/-- A device whose answers are laid out in advance, beside what it received; a write that has no
answer left is refused. -/
def scripted (bytes : Bytes) (device : List Int × Bytes) : Int × (List Int × Bytes) :=
  match device with
  | ([], received) => (-1, ([], received))
  | (answer :: answers, received) =>
    let taken := min answer bytes.length
    (taken, (answers, received ++ bytes.take taken.toNat))

theorem accepts_scripted : Accepts scripted Prod.snd where
  answer_le_length := by
    rintro bytes ⟨answers, received⟩ -
    cases answers with
    | nil =>
      dsimp only [scripted]
      omega
    | cons answer answers => exact Int.min_le_right answer bytes.length
  received_write := by
    rintro bytes ⟨answers, received⟩ -
    cases answers with
    | nil => exact (List.append_nil received).symm
    | cons answer answers => rfl

/-! ## Answers -/

/-- The answer, and the error status, are those of what arrived. -/
theorem writeAll_of_deliver {bytes : Bytes} {device after : σ} {count : Nat}
    (h : deliver write bytes device = (count, after)) (errno : Int32) :
    writeAll write bytes device errno =
      (if count = 0 ∧ bytes ≠ [] then -1 else ↑count,
        if count = 0 ∧ bytes ≠ [] then Errno.io else errno, after) := by
  rw [writeAll, h]
  dsimp only
  split
  · rfl
  · rfl

/-- On every device that takes the beginning of what it is asked for, a delivery ends, after no more
writes than there are bytes.  What arrives is a prefix of the bytes.  The answer is its length, and
the error status stays, unless there were bytes and none arrived; then the answer is `-1` and the
status is an output error.  The prefix is all of the bytes, or else the last write took nothing, and
it was the first that did. -/
theorem writeAll_delivers_prefix (hwrite : Accepts write received) (bytes : Bytes) (device : σ)
    (errno : Int32) :
    ∃ answer code count after requests,
      writeAll write bytes device errno = (answer, code, after) ∧
      writeAll (logged write) bytes (device, []) errno = (answer, code, (after, requests)) ∧
      requests.length ≤ bytes.length ∧ count ≤ bytes.length ∧
      received after = received device ++ bytes.take count ∧
      requests.flatMap Request.taken = bytes.take count ∧
      (0 < count ∨ bytes = [] → answer = count ∧ code = errno) ∧
      (count = 0 → bytes ≠ [] → answer = -1 ∧ code = Errno.io) ∧
      ((count = bytes.length ∧ ∀ request ∈ requests, 0 < request.answer) ∨
        count < bytes.length ∧ ∃ made last, requests = made ++ [last] ∧ last.answer ≤ 0 ∧
          ∀ request ∈ made, 0 < request.answer) := by
  obtain ⟨requests, hserves, hlogged⟩ := deliver_logged hwrite bytes device []
  have hreceived := received_deliver hwrite bytes device
  rw [List.nil_append] at hlogged
  rcases hdeliver : deliver write bytes device with ⟨count, after⟩
  rw [hdeliver] at hserves hlogged hreceived
  dsimp only at hserves hlogged hreceived
  refine ⟨_, _, count, after, requests, writeAll_of_deliver hdeliver errno,
    writeAll_of_deliver hlogged errno, hserves.length_le, hserves.count_le, hreceived,
    hserves.flatMap_taken, fun htaken ↦ ?_, fun hzero hbytes ↦ ?_, hserves.whole_or_refused⟩
  · have hnot : ¬ (count = 0 ∧ bytes ≠ []) := by
      rintro ⟨hzero, hbytes⟩
      exact htaken.elim (fun hpos ↦ Nat.ne_of_gt hpos hzero) hbytes
    exact ⟨if_neg hnot, if_neg hnot⟩
  · exact ⟨if_pos ⟨hzero, hbytes⟩, if_pos ⟨hzero, hbytes⟩⟩

/-- Two bytes and one more arrive; the third write is refused, and there is no fourth. -/
theorem writeAll_delivers_prefix_scripted :
    let bytes := Bytes.ofAscii ['h', 'e', 'l', 'l', 'o']
    ∃ count requests,
      writeAll scripted bytes ([2, 1, 0, 7], []) 9 = (3, 9, ([7], Bytes.ofAscii ['h', 'e', 'l'])) ∧
      Bytes.ofAscii ['h', 'e', 'l'] = bytes.take count ∧
      requests.flatMap Request.taken = bytes.take count ∧
      count < bytes.length ∧ ∃ made last, requests = made ++ [last] ∧ last.answer ≤ 0 ∧
        ∀ request ∈ made, 0 < request.answer := by
  intro bytes
  have hrun : writeAll scripted bytes ([2, 1, 0, 7], []) 9 =
      (3, 9, ([7], Bytes.ofAscii ['h', 'e', 'l'])) := by decide +kernel
  obtain ⟨answer, code, count, after, requests, hanswer, -, -, hcount, hreceived, htaken, htotal,
      hnone, hends⟩ :=
    writeAll_delivers_prefix accepts_scripted bytes ([2, 1, 0, 7], []) 9
  cases hrun.symm.trans hanswer
  refine ⟨count, requests, hrun, hreceived, htaken, ?_⟩
  rcases hends with ⟨hwhole, -⟩ | hshort
  · exact absurd (hwhole ▸ hreceived) (by decide)
  · exact hshort

end StubLibc.Console
