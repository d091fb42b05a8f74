import StubLibc.Format.Directive

/-!
# Format strings as segments

A format string is a sequence of literal runs, `%%` escapes and directives.  A `%` that opens
neither is a literal of its own, and reading goes on with the byte after it, so every byte of the
format belongs to exactly one segment.
-/

namespace StubLibc.Format

/-- A piece of a format string. -/
inductive Segment where
  /-- A run without `%`, or a `%` that opens no directive. -/
  | literal (bytes : Bytes)
  /-- `%%`. -/
  | percent
  | directive (spec : Directive)
  deriving DecidableEq, Repr

namespace Segment

abbrev percentByte : UInt8 := 0x25

/-- Splits a format string into its segments. -/
def ofFormat (format : Bytes) : List Segment :=
  match format with
  | [] => []
  | first :: rest =>
    if first ≠ percentByte then
      .literal (first :: rest.takeWhile (· ≠ percentByte)) ::
        ofFormat (rest.dropWhile (· ≠ percentByte))
    else
      match rest with
      | [] => [.literal [percentByte]]
      | second :: tail =>
        if second = percentByte then .percent :: ofFormat tail
        else
          match _h : Directive.parse? (second :: tail) with
          | some (spec, after) => .directive spec :: ofFormat after
          | none => .literal [percentByte] :: ofFormat (second :: tail)
termination_by format.length
decreasing_by
  · have := (List.dropWhile_suffix (l := rest) (fun byte => decide (byte ≠ percentByte))).length_le
    simp only [List.length_cons]
    omega
  · simp only [List.length_cons]
    omega
  · have := Directive.length_parse?_lt _h
    simp only [List.length_cons] at this ⊢
    omega
  · simp

end Segment

end StubLibc.Format
