import StubLibc.CString
import StubLibc.Diagnostic

/-!
# Directory creation

Creating a directory always succeeds and never happens.  The policy decides whether it is
announced; the path is only shown, never looked at.
-/

namespace StubLibc.Mkdir

open Diagnostic (Record)

/-- What a call does. -/
structure Plan where
  status : Int
  notice : Option Record
  deriving DecidableEq, Repr

/-- How a path is shown. -/
def shownPath : Option Bytes → String
  | some path => Utf8.decodeLossy path
  | none => "(null)"

/-- What a call with a path does under a policy. -/
def plan (path : Option Bytes) (policy : MkdirPolicy) : Plan where
  status := 0
  notice :=
    match policy with
    | .silent => none
    | .notice => some (Record.skipped .mkdir (shownPath path))

end StubLibc.Mkdir
