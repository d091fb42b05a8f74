import StubLibc.Capability

/-!
# Stubs

An exported function whose whole body is a trap.  The name of a stub and the capability that its
body traps as are written down side by side, header by header, and the capability table does not
come into it.  That the two agree is a fact about all stubs.
-/

namespace StubLibc

/-- An exported function that does nothing but trap. -/
structure Stub where
  name : String
  traps : Capability
  deriving DecidableEq, Repr

namespace Stub

def ctype : List Stub := [⟨"isspace", .isspace⟩, ⟨"toupper", .toupper⟩]

def math : List Stub := [⟨"fabs", .fabs⟩]

def stdio : List Stub :=
  [⟨"fprintf", .fprintf⟩, ⟨"snprintf", .snprintf⟩, ⟨"sscanf", .sscanf⟩, ⟨"fopen", .fopen⟩,
    ⟨"fclose", .fclose⟩, ⟨"fread", .fread⟩, ⟨"fseek", .fseek⟩, ⟨"ftell", .ftell⟩]

def stdlib : List Stub := [⟨"atoi", .atoi⟩, ⟨"atof", .atof⟩, ⟨"abs", .abs⟩]

def string : List Stub :=
  [⟨"strncasecmp", .strncasecmp⟩, ⟨"strdup", .strdup⟩, ⟨"strstr", .strstr⟩, ⟨"strchr", .strchr⟩,
    ⟨"strncmp", .strncmp⟩]

def unistd : List Stub := [⟨"rename", .rename⟩, ⟨"remove", .remove⟩]

/-- The stubs of all headers. -/
def all : List Stub := ctype ++ math ++ stdio ++ stdlib ++ string ++ unistd

/-- A stub traps as the function that it is exported as, and the table has that function trap. -/
theorem agrees_of_mem_all {stub : Stub} (h : stub ∈ all) :
    stub.name = stub.traps.symbol ∧ stub.traps.disposition = .trap := by
  have hall : ∀ stub ∈ all, stub.name = stub.traps.symbol ∧ stub.traps.disposition = .trap := by
    decide
  exact hall stub h

/-- The functions that the table has trap are stubs, `exit` and `system` apart. -/
theorem mem_all_of_trap {capability : Capability} (htrap : capability.disposition = .trap)
    (hexit : capability ≠ .exit) (hsystem : capability ≠ .system) :
    (⟨capability.symbol, capability⟩ : Stub) ∈ all := by
  revert htrap hexit hsystem
  cases capability <;> decide

end Stub

end StubLibc
