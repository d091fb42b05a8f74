import StubLibc.CommandLine.Run

/-!
# The command-line tool

Runs a command on real files and the process environment.
-/

namespace StubLibc.CommandLine

/-- The fault behind an error of the operating system. -/
def FileFault.ofError : IO.Error → FileFault
  | .noFileOrDirectory .. => .notFound
  | .inappropriateType .. => .isDirectory
  | error => .other (toString error)

/-- The host of a process. -/
def processHost : Host IO where
  read path := do
    try
      pure (.ok (← IO.FS.readBinFile path).data.toList)
    catch error => pure (.error (FileFault.ofError error))
  write path bytes := do
    try
      IO.FS.writeBinFile path ⟨bytes.toArray⟩
      pure (.ok ())
    catch error => pure (.error (FileFault.ofError error))
  environment name := do pure ((← IO.getEnv name).map Bytes.ofText)

/-- What is printed when the arguments ask for no command. -/
def usageText : String :=
  "usage: support-matrix [--format json|markdown] [--output PATH]\n" ++
  "       version-script [--output PATH]\n" ++
  "       config\n" ++
  "       validate-log --log PATH\n"

/-- Runs the command that the arguments ask for; the answer is the exit status. -/
def execute (arguments : List String) : IO UInt32 := do
  let result ← run processHost arguments
  IO.print result.stdout
  IO.eprint (if result.status = usageStatus then usageText else result.stderr)
  pure (UInt32.ofNat result.status)

end StubLibc.CommandLine

def main (arguments : List String) : IO UInt32 :=
  StubLibc.CommandLine.execute arguments
