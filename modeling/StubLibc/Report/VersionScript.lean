import StubLibc.Capability

/-!
# The version script

The linker script that exports the functions and data symbols of the library, each under one
version node, and hides every other symbol.
-/

namespace StubLibc.VersionScript

def node : String := "DOOMLIBC_1.0"

/-- The exported symbols in script order: functions, then data. -/
def symbols : List String := Capability.all.map Capability.symbol ++ Capability.globals

def render : String :=
  "# Generated by `harness version-script`. Do not edit.\n" ++ node ++ " \x7b\n  global:\n" ++
    String.join (symbols.map fun symbol => "    " ++ symbol ++ ";\n") ++
    "  local:\n    *;\n\x7d;\n"

end StubLibc.VersionScript
