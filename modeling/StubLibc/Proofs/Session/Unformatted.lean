import StubLibc.Proofs.Session.ErrorStatus

/-!
# What unformatted output reports

Blocks, lines and characters are written as they are, and the stream takes as much of them as it
has room for.  The answer tells how much that was, each call in its own way: whole items for a
block, all or nothing for a line, and the byte itself for a character.
-/

namespace StubLibc

open Console (Descriptor Stream)

namespace Session

variable {stream : Stream} {payload : Bytes} {size count taken : Nat} {session after : Session}

/-- The stream takes the first `taken` bytes of a payload, as many as it has room for, and the other
streams take nothing. -/
structure Delivers (stream : Stream) (payload : Bytes) (taken : Nat) (session after : Session) :
    Prop where
  taken_eq : taken = (session.output stream).fits payload
  content_eq : (after.output stream).content =
    (session.output stream).content ++ payload.take taken
  output_eq : ∀ other ≠ stream, after.output other = session.output other

theorem Delivers.taken_le (h : Delivers stream payload taken session after) :
    taken ≤ payload.length := by
  rw [h.taken_eq]
  exact Descriptor.fits_le_length payload (session.output stream)

/-- Nothing is delivered by doing nothing. -/
theorem delivers_nil (stream : Stream) (session : Session) :
    session.Delivers stream [] 0 session where
  taken_eq := (Descriptor.fits_nil (session.output stream)).symm
  content_eq := (List.append_nil _).symm
  output_eq _ _ := rfl

theorem output_withOutput_of_ne {other : Stream} (h : other ≠ stream) (descriptor : Descriptor)
    (session : Session) :
    (session.withOutput stream descriptor).output other = session.output other := by
  cases stream <;> cases other <;> first | rfl | exact absurd rfl h

/-- A write to a stream answers what it delivers; a refusal counts as nothing. -/
theorem exists_writeStream_delivers (hstream : stream.isWritable = true) (payload : Bytes)
    (session : Session) :
    ∃ answer after, session.writeStream stream payload = (answer, after) ∧
      session.Delivers stream payload answer.toNat after := by
  by_cases h : (session.output stream).Refuses payload
  · refine ⟨-1, session.fail Errno.io, writeStream_of_refuses hstream h, h.1.symm, ?_, ?_⟩
    · rw [output_fail]
      exact (List.append_nil _).symm
    · exact fun other _ ↦ output_fail _ _ other
  · refine ⟨_, session.accept stream payload, writeStream_of_not_refuses hstream h, rfl, ?_, ?_⟩
    · rw [output_accept hstream]
      rfl
    · exact fun other hother ↦ output_withOutput_of_ne hother _ session

/-- Whole items of a block: no more than there are, and all of them only if all bytes are. -/
theorem div_le_and_eq_iff (h : taken ≤ size * count) :
    taken / size ≤ count ∧ (0 < size → (taken / size = count ↔ taken = size * count)) := by
  refine ⟨Nat.div_le_of_le_mul h, fun hsize ↦ ⟨fun hall ↦ ?_, fun hall ↦ ?_⟩⟩
  · exact Nat.le_antisymm h (hall ▸ Nat.mul_div_le taken size)
  · rw [hall, Nat.mul_div_cancel_left count hsize]

end Session

namespace Call

variable {call : Call} {stream : Stream} {payload : Bytes} {session : Session}

/-- The call delivers a payload to a stream and answers a number, and the two agree: `agrees` is
about how many bytes the stream takes, and the answer. -/
def Reports (call : Call) (session : Session) (stream : Stream) (payload : Bytes)
    (agrees : Nat → Int → Prop) : Prop :=
  ∃ taken answer after, call.step session = .returned (.number answer) after ∧
    session.Delivers stream payload taken after ∧ agrees taken answer

/-- A call that writes its payload, and answers by the answer of the write. -/
theorem reports_of_step {agrees : Nat → Int → Prop} (answer : Int → Int)
    (hstream : stream.isWritable = true)
    (hstep : call.step session = .returned (.number (answer (session.writeStream stream payload).1))
      (session.writeStream stream payload).2)
    (hanswer : ∀ written : Int, written.toNat ≤ payload.length →
      agrees written.toNat (answer written)) :
    call.Reports session stream payload agrees := by
  obtain ⟨written, after, hwrite, hdelivers⟩ :=
    Session.exists_writeStream_delivers hstream payload session
  rw [hwrite] at hstep
  exact ⟨written.toNat, answer written, after, hstep, hdelivers,
    hanswer written hdelivers.taken_le⟩

/-! ## Blocks -/

/-- The answer for a block is how many whole items were taken. -/
def CountsItems (size count taken : Nat) (answer : Int) : Prop :=
  answer = (taken / size : Nat) ∧ answer ≤ count ∧
    (0 < size → (answer = count ↔ taken = size * count))

theorem countsItems_div {size count taken : Nat} (h : taken ≤ size * count) :
    CountsItems size count taken (taken / size : Nat) := by
  obtain ⟨hle, hall⟩ := Session.div_le_and_eq_iff h
  exact ⟨rfl, Int.ofNat_le.mpr hle, fun hsize ↦ Int.ofNat_inj.trans (hall hsize)⟩

variable {handle size count : Nat}

/-- A block of items is delivered, and answered by the whole items of it that the stream took. -/
theorem fwrite_reports (hhandle : Stream.outputOfHandle? handle = some stream)
    (hnarrow : size * count ≤ Numeral.wordMax) (block : Bytes) (session : Session) :
    (fwrite (some block) size count handle).Reports session stream (block.take (size * count))
      (CountsItems size count) := by
  by_cases hempty : size * count = 0
  · have hstep := step_fwrite_of_empty hhandle hempty (some block) session
    have hcounts := countsItems_div (Nat.zero_le (size * count))
    rw [Nat.zero_div] at hcounts
    rw [hempty, List.take_zero]
    exact ⟨0, _, session, hstep, Session.delivers_nil stream session, hcounts⟩
  · have hstep := step_fwrite_block hhandle (Nat.not_lt.mpr hnarrow) hempty block session
    let items (written : Int) : Int := (if written < 0 then 0 else written.toNat / size : Nat)
    refine reports_of_step items (Option.filter_eq_some_iff.mp hhandle).2 hstep ?_
    intro written hwritten
    have hitems : items written = (written.toNat / size : Nat) := by
      by_cases hrefused : written < 0
      · rw [Int.toNat_of_nonpos (Int.le_of_lt hrefused), Nat.zero_div]
        exact congrArg Nat.cast (if_pos hrefused)
      · exact congrArg Nat.cast (if_neg hrefused)
    rw [hitems]
    exact countsItems_div (Nat.le_trans hwritten (List.length_take_le _ block))

/-! ## Lines and characters -/

/-- The answer is `whole` for the whole payload, and the end of file for less. -/
def TellsWhole (length : Nat) (whole : Int) (taken : Nat) (answer : Int) : Prop :=
  (answer = whole ↔ taken = length) ∧ (answer ≠ whole → answer = Session.eof)

theorem tellsWhole_ite {length : Nat} {whole : Int} (hlength : 0 < length)
    (hwhole : whole ≠ Session.eof) (written : Int) :
    TellsWhole length whole written.toNat
      (if written = length then whole else Session.eof) := by
  by_cases hall : written = length
  · rw [if_pos hall, hall]
    exact ⟨iff_of_true rfl (Int.toNat_natCast length), fun h ↦ absurd rfl h⟩
  · have hshort : written.toNat ≠ length := by omega
    rw [if_neg hall]
    exact ⟨iff_of_false hwhole.symm hshort, fun _ ↦ rfl⟩

theorem puts_reports {text : Pointer} {bytes : Bytes} (h : CString.bytes? text = some bytes)
    (session : Session) :
    (puts text).Reports session .stdout (bytes ++ [0x0A]) (TellsWhole (bytes.length + 1) 0) := by
  let line := bytes ++ [0x0A]
  have hlength : line.length = bytes.length + 1 := List.length_append
  have hstep := step_puts h session
  dsimp only at hstep
  rw [hlength] at hstep
  let answer (written : Int) : Int :=
    if written = (bytes.length + 1 : Nat) then 0 else Session.eof
  exact reports_of_step answer rfl hstep fun written _ ↦
    tellsWhole_ite (Nat.succ_pos _) (by decide) written

/-- The low byte of a character. -/
theorem toNat_lowByte (c : Int32) : (c.toUInt32.toUInt8.toNat : Int) = c.toInt % 256 := by
  have hdvd : (256 : Int) ∣ ((2 ^ 32 : Nat) : Int) := by decide
  calc
    (c.toUInt32.toUInt8.toNat : Int) = (c.toBitVec.toNat : Int) % 256 := by
      rw [UInt32.toNat_toUInt8]
      rfl
    _ = (c.toBitVec.toNat : Int).bmod (2 ^ 32) % 256 := by
      rw [← Int.emod_emod_of_dvd _ hdvd, ← Int.bmod_emod, Int.emod_emod_of_dvd _ hdvd]
    _ = c.toInt % 256 := by
      rw [← BitVec.toInt_eq_toNat_bmod]
      rfl

theorem putchar_reports (c : Int32) (session : Session) :
    (putchar c).Reports session .stdout [c.toUInt32.toUInt8]
      (TellsWhole 1 c.toUInt32.toUInt8.toNat) := by
  have hbyte : (c.toUInt32.toUInt8.toNat : Int) ≠ Session.eof := by
    unfold Session.eof
    omega
  let answer (written : Int) : Int :=
    if written = (1 : Nat) then c.toUInt32.toUInt8.toNat else Session.eof
  exact reports_of_step answer rfl rfl fun written _ ↦ tellsWhole_ite Nat.one_pos hbyte written

/-! ## All calls -/

/-- What the calls for unformatted output deliver, and what they report of it.

A block of items that a word can number is delivered as far as there is room, and answered by the
whole items that were taken; the division is by a positive size.  A number of bytes that no word
holds, and a NULL block of at least one byte, are refused as invalid, and nothing is delivered.  A
line is answered by zero exactly when all of it was taken, its line feed included, and a character,
of which the low byte is written, is answered by that byte exactly when it was taken. -/
theorem unformatted_reports_delivery (session : Session) :
    (∀ handle stream, Stream.outputOfHandle? handle = some stream → ∀ size count : Nat,
      (size * count ≤ Numeral.wordMax → ∀ block : Bytes,
        (fwrite (some block) size count handle).Reports session stream
          (block.take (size * count)) (CountsItems size count)) ∧
      (∀ memory, session.writeItems? stream memory size count =
        some (session.writeItems stream memory size count)) ∧
      (∀ memory, size * count = 0 → (fwrite memory size count handle).step session =
        .returned (.number 0) session) ∧
      ∀ memory, Numeral.wordMax < size * count ∨ memory = none ∧ size * count ≠ 0 →
        (fwrite memory size count handle).step session =
          .returned (.number 0) (session.fail Errno.invalid)) ∧
    (∀ text bytes, CString.bytes? text = some bytes →
      (puts text).Reports session .stdout (bytes ++ [0x0A]) (TellsWhole (bytes.length + 1) 0)) ∧
    (puts none).step session =
      .returned (.number Session.eof) (session.fail Errno.invalid) ∧
    ∀ c : Int32, ∃ byte : UInt8, (byte.toNat : Int) = c.toInt % 256 ∧
      (putchar c).Reports session .stdout [byte] (TellsWhole 1 byte.toNat) := by
  refine ⟨fun handle stream hhandle size count ↦ ⟨?_, ?_, ?_, ?_⟩,
    fun text bytes htext ↦ puts_reports htext session, step_puts_null rfl session,
    fun c ↦ ⟨_, toNat_lowByte c, putchar_reports c session⟩⟩
  · exact fun hnarrow block ↦ fwrite_reports hhandle hnarrow block session
  · exact fun memory ↦ Session.writeItems?_eq_some stream memory size count session
  · exact fun memory hempty ↦ step_fwrite_of_empty hhandle hempty memory session
  · exact fun memory hinvalid ↦ step_fwrite_of_invalid hhandle memory hinvalid session

/-- With room for five bytes, three items of two bytes are cut in the third, a line is cut at its
line feed, and a negative character is written as its low byte. -/
theorem unformatted_reports_delivery_limited :
    let session : Session := { stdout := { room := some 5 } }
    let hello := Bytes.ofAscii ['h', 'e', 'l', 'l', 'o']
    (∃ after, (fwrite (some (hello ++ [0x21])) 2 3 1).step session =
      .returned (.number 2) after ∧ after.stdout.content = hello) ∧
    (∃ after, (puts (CString.pointerTo hello)).step session =
      .returned (.number Session.eof) after ∧ after.stdout.content = hello) ∧
    ∃ after, (putchar (-1)).step session =
      .returned (.number 255) after ∧ after.stdout.content = [0xFF] := by
  intro session hello
  obtain ⟨hfwrite, hputs, -, hputchar⟩ := unformatted_reports_delivery session
  refine ⟨?_, ?_, ?_⟩
  · obtain ⟨taken, answer, after, hstep, hdelivers, hanswer, -⟩ :=
      (hfwrite 1 .stdout rfl 2 3).1 (by decide) (hello ++ [0x21])
    have htaken : taken = 5 := hdelivers.taken_eq
    subst htaken hanswer
    exact ⟨after, hstep, hdelivers.content_eq⟩
  · obtain ⟨taken, answer, after, hstep, hdelivers, hwhole, heof⟩ :=
      hputs (CString.pointerTo hello) hello rfl
    have htaken : taken = 5 := hdelivers.taken_eq
    subst htaken
    have hshort : answer ≠ 0 := fun hzero ↦ absurd (hwhole.mp hzero) (by decide)
    cases heof hshort
    exact ⟨after, hstep, hdelivers.content_eq⟩
  · obtain ⟨byte, hbyte, taken, answer, after, hstep, hdelivers, hwhole, -⟩ := hputchar (-1)
    have hlow : byte = 0xFF := UInt8.toNat_inj.mp (Int.ofNat_inj.mp hbyte)
    subst hlow
    have htaken : taken = 1 := hdelivers.taken_eq
    subst htaken
    cases hwhole.mpr rfl
    exact ⟨after, hstep, hdelivers.content_eq⟩

end Call

end StubLibc
