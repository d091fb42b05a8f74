import StubLibc.CommandLine.Arguments
import StubLibc.Knob.Document
import StubLibc.Log.Report
import StubLibc.Report.VersionScript
import StubLibc.Text.Utf8

/-!
# Running commands

What each command prints, writes and answers as its exit status, over any `Host` that reads and
writes files and knows the environment.  The host is a parameter, so the same definitions run on
real files and on files in memory.
-/

namespace StubLibc.CommandLine

/-- Why a file could not be read or written. -/
inductive FileFault where
  | notFound
  | notDirectory
  | isDirectory
  | notText
  | other (message : String)
  deriving DecidableEq, Repr

def FileFault.message : FileFault → String
  | notFound => "No such file or directory (os error 2)"
  | notDirectory => "Not a directory (os error 20)"
  | isDirectory => "Is a directory (os error 21)"
  | notText => "stream did not contain valid UTF-8"
  | other message => message

/-- What the tool asks of its surroundings. -/
structure Host (m : Type → Type) where
  read : String → m (Except FileFault Bytes)
  write : String → Bytes → m (Except FileFault Unit)
  /-- The value of an environment variable. -/
  environment : String → m (Option Bytes)

/-- What a run leaves: its two outputs and its exit status. -/
structure Result where
  stdout : String := ""
  stderr : String := ""
  status : Nat := 0
  deriving DecidableEq, Repr

/-- The status of arguments that ask for no command. -/
def usageStatus : Nat := 2

namespace Result

/-- A run that failed after it had written `before` to its error output. -/
def failed (before message : String) : Result where
  stderr := before ++ "error: " ++ message ++ "\n"
  status := 1

def usage : Result := { status := usageStatus }

end Result

variable {m : Type → Type} [Monad m]

/-- Writes a text to a file, or to standard output when none is named. -/
def emit (host : Host m) (output : Option String) (text : String) : m Result :=
  match output with
  | none => pure { stdout := text }
  | some path => do
    match ← host.write path (Bytes.ofText text) with
    | .ok () => pure {}
    | .error fault =>
      pure (Result.failed "" ("failed to write " ++ path ++ ": " ++ fault.message))

/-- The settings of the environment.  A value that is not text counts as missing. -/
def settings (host : Host m) : m Settings := do
  let read (name : String) : m (Option String) := do
    pure ((← host.environment name).bind Utf8.decode?)
  pure
    { trap := Knob.trap.resolve (← read Knob.trap.variableName)
      mkdir := Knob.mkdir.resolve (← read Knob.mkdir.variableName)
      log := Knob.log.resolve (← read Knob.log.variableName) }

/-- What a log report makes of a run. -/
def reportResult (path : String) (report : Log.Report) : Result :=
  let errors := String.join (report.errors.map fun error => error.describe ++ "\n")
  let trapped :=
    if report.trapped.isEmpty then ""
    else "trapped: " ++ ", ".intercalate report.trapped ++ "\n"
  if report.isClean then
    { stderr :=
        errors ++ trapped ++ path ++ ": " ++ Numeral.ofNat report.lines ++ " records ok\n" }
  else
    Result.failed (errors ++ trapped)
      (Numeral.ofNat report.invalid ++ " of " ++ Numeral.ofNat report.lines ++
        " log lines failed validation")

/-- Checks the log in a file. -/
def validate (host : Host m) (path : String) : m Result := do
  let contents := (← host.read path).bind fun bytes =>
    match Utf8.decode? bytes with
    | some text => .ok text
    | none => .error .notText
  match contents with
  | .ok text => pure (reportResult path (Log.check text.toList))
  | .error fault => pure (Result.failed "" ("failed to read " ++ path ++ ": " ++ fault.message))

def Command.run (host : Host m) : Command → m Result
  | .supportMatrix form output => emit host output (SupportMatrix.full.render form)
  | .versionScript output => emit host output VersionScript.render
  | .config => do
    pure { stdout := String.ofList ((← settings host).document.pretty ++ ['\n']) }
  | .validateLog log => validate host log

/-- Runs the command that arguments ask for. -/
def run (host : Host m) (arguments : List String) : m Result :=
  match Command.parse? arguments with
  | some command => command.run host
  | none => pure Result.usage

end StubLibc.CommandLine
