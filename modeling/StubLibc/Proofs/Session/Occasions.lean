import StubLibc.Proofs.Session.Traps

/-!
# The occasions of records

There are six occasions on which the library makes a record, and each of them names the call that
gives rise to it: what a record tells of a label, a path, a status or a command is what that call
was given.
-/

namespace StubLibc

open Console (Stream)
open Diagnostic (Record)

namespace Diagnostic

/-- What a record is made for. -/
inductive Occasion where
  /-- A call of a function that traps, or that does not know the stream named. -/
  | trapped (capability : Capability)
  /-- A trap that was asked for under a label. -/
  | unimplemented (label : Pointer)
  /-- A directory that was not created. -/
  | directory (path : Pointer)
  | exitRequested (status : Int32)
  | commandRequested (command : Pointer)
  /-- A conversion that was read over. -/
  | readOver (byte : UInt8)
  deriving DecidableEq, Repr

namespace Occasion

def record : Occasion → Record
  | trapped capability => Record.unimplemented capability.symbol
  | unimplemented label => Record.unimplemented (CString.display label)
  | directory path => Record.skipped .mkdir (Mkdir.shownPath (CString.bytes? path))
  | exitRequested status => Record.request .exit .exitRequested (Numeral.ofInt status.toInt)
  | commandRequested command =>
    Record.request .system .commandRequested (CString.display command)
  | readOver byte => Record.unknownSpecifier byte

/-- The calls that give rise to an occasion. -/
inductive MadeBy : Call → Occasion → Prop
  | trapped {call : Call} {capability : Capability}
    (hcapability : call.capability? = some capability) : MadeBy call (.trapped capability)
  | unimplemented (label : Pointer) : MadeBy (.unimplemented label) (.unimplemented label)
  | directory (path : Pointer) (mode : Nat) : MadeBy (.mkdir path mode) (.directory path)
  | exitRequested (status : Int32) : MadeBy (.exit status) (.exitRequested status)
  | commandRequested (command : Pointer) : MadeBy (.system command) (.commandRequested command)
  | readOver (call : Call) (conversion : Format.Conversion) :
    MadeBy call (.readOver conversion.byte)

end Occasion

end Diagnostic

namespace Call

open Diagnostic (Occasion)

/-- Every record among offers is that of an occasion of the call. -/
def OffersMade (call : Call) (offers : List Offer) : Prop :=
  ∀ record, Offer.diagnostic record ∈ offers →
    ∃ occasion : Occasion, occasion.MadeBy call ∧ occasion.record = record

variable {call : Call} {first second : List Offer}

theorem offersMade_nil : call.OffersMade [] := by
  intro record hrecord
  cases hrecord

theorem offersMade_output (stream : Stream) (bytes : Bytes) :
    call.OffersMade [.output stream bytes] := by
  intro record hrecord
  rw [List.mem_singleton] at hrecord
  cases hrecord

theorem offersMade_diagnostic {occasion : Occasion} (h : occasion.MadeBy call) :
    call.OffersMade [.diagnostic occasion.record] := by
  intro record hrecord
  rw [List.mem_singleton, Offer.diagnostic.injEq] at hrecord
  exact ⟨occasion, h, hrecord.symm⟩

theorem offersMade_append (hfirst : call.OffersMade first) (hsecond : call.OffersMade second) :
    call.OffersMade (first ++ second) := by
  intro record hrecord
  cases List.mem_append.mp hrecord with
  | inl h => exact hfirst record h
  | inr h => exact hsecond record h

theorem offersMade_trapOffers {capability : Capability}
    (hcapability : call.capability? = some capability) :
    call.OffersMade (trapOffers capability.symbol) :=
  offersMade_diagnostic (.trapped hcapability)

theorem offersMade_reports (skipped : List Format.Conversion) :
    call.OffersMade (skipped.map Offer.ofSkipped) := by
  intro record hrecord
  obtain ⟨conversion, _, hconversion⟩ := List.mem_map.mp hrecord
  exact ⟨_, .readOver call conversion, Offer.diagnostic.inj hconversion⟩

theorem offersMade_printOffers (stream : Stream) (format : Pointer) (args : Format.VaList) :
    call.OffersMade (printOffers stream format args) := by
  unfold printOffers
  split
  · exact offersMade_nil
  · apply offersMade_append (offersMade_reports _)
    split
    · exact offersMade_output _ _
    · exact offersMade_nil

theorem offersMade_printIntoOffers (buffer : Option Bytes) (size : Nat) (format : Pointer)
    (args : Format.VaList) : call.OffersMade (printIntoOffers buffer size format args) := by
  unfold printIntoOffers
  split
  · exact offersMade_nil
  · split
    · exact offersMade_nil
    · exact offersMade_reports _

theorem offersMade_collectedOffers (format : Bytes) (args : List Arg) :
    call.OffersMade (collectedOffers format args) := by
  unfold collectedOffers
  split
  · exact offersMade_nil
  · exact offersMade_reports _

theorem offersMade_itemOffers (stream : Stream) (memory : Pointer) (size count : Nat) :
    call.OffersMade (itemOffers stream memory size count) := by
  unfold itemOffers
  split
  · exact offersMade_nil
  · cases memory with
    | none => exact offersMade_nil
    | some memory => exact offersMade_output _ _

theorem offersMade_descriptorOffers (number : Int) (bytes : Bytes) :
    call.OffersMade (descriptorOffers number bytes) := by
  unfold descriptorOffers
  split
  · exact offersMade_output _ _
  · exact offersMade_output _ _
  · exact offersMade_nil

/-- The library makes records on no other occasions. -/
theorem offersMade (call : Call) (settings : Settings) :
    call.OffersMade (call.offers settings) := by
  cases call with
  | printf format args => exact offersMade_printOffers _ _ _
  | vfprintf handle format args =>
    rw [offers]
    split
    · exact offersMade_printOffers _ _ _
    · exact offersMade_trapOffers rfl
  | vsnprintf buffer size format args => exact offersMade_printIntoOffers _ _ _ _
  | renderCollected format args => exact offersMade_collectedOffers _ _
  | fwrite memory size count handle =>
    rw [offers]
    split
    · exact offersMade_itemOffers _ _ _ _
    · exact offersMade_trapOffers rfl
  | fflush handle =>
    rw [offers]
    split
    · exact offersMade_nil
    · exact offersMade_trapOffers rfl
  | putchar c => exact offersMade_output _ _
  | puts text =>
    rw [offers]
    split
    · exact offersMade_nil
    · exact offersMade_output _ _
  | writeStream stream bytes =>
    rw [offers]
    split
    · exact offersMade_output _ _
    · exact offersMade_nil
  | writeAll descriptor bytes => exact offersMade_descriptorOffers _ _
  | mkdir path mode =>
    rw [offers]
    unfold Mkdir.plan
    cases settings.mkdir with
    | silent => exact offersMade_nil
    | notice => exact offersMade_diagnostic (.directory path mode)
  | exit status =>
    exact offersMade_append (offersMade_diagnostic (.exitRequested status))
      (offersMade_trapOffers rfl)
  | system command =>
    exact offersMade_append (offersMade_diagnostic (.commandRequested command))
      (offersMade_trapOffers rfl)
  | unimplemented label => exact offersMade_diagnostic (.unimplemented label)
  | stub function h => exact offersMade_trapOffers (capability?_stub h)
  | _ => exact offersMade_nil

end Call

end StubLibc
