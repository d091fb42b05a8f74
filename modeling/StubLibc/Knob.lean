import StubLibc.Bytes
import StubLibc.Text.Blank

/-!
# Environment knobs

Three settings that the hosted program's environment selects.  Each is a `Knob`: a variable, a
default for a missing or unknown value, the spellings it accepts, and a one-byte code under which
its resolved value is kept.  Spellings are compared without surrounding white space and without
regard to ASCII case.
-/

namespace StubLibc

/-- How a trap ends the process. -/
inductive TrapMode where
  | abort
  | exit
  deriving DecidableEq, Repr

/-- Whether directory creation, which never happens, is announced. -/
inductive MkdirPolicy where
  | silent
  | notice
  deriving DecidableEq, Repr

/-- The form of a diagnostic line. -/
inductive LogFormat where
  | text
  | jsonl
  deriving DecidableEq, Repr

namespace TrapMode

def all : List TrapMode := [abort, exit]

def name : TrapMode → String
  | abort => "abort"
  | exit => "exit"

end TrapMode

namespace MkdirPolicy

def all : List MkdirPolicy := [silent, notice]

def name : MkdirPolicy → String
  | silent => "silent"
  | notice => "notice"

end MkdirPolicy

namespace LogFormat

def all : List LogFormat := [text, jsonl]

def name : LogFormat → String
  | text => "text"
  | jsonl => "jsonl"

end LogFormat

/-- One environment-backed setting. -/
structure Knob (α : Type) where
  /-- The environment variable. -/
  variableName : String
  default : α
  /-- The accepted spellings, in lower case. -/
  spellings : List (String × α)
  /-- The code of a value, neither 0 nor 255. -/
  encode : α → UInt8
  decode : UInt8 → α

namespace Knob

/-- An ASCII letter in lower case; any other character is kept. -/
def lowerAscii (c : Char) : Char :=
  if 'A' ≤ c && c ≤ 'Z' then Char.ofNat (c.toNat + 0x20) else c

/-- The form in which a raw value is compared with the spellings. -/
def normalize (raw : String) : String :=
  String.ofList ((Text.trim raw.toList).map lowerAscii)

/-- The setting that a raw value selects. -/
def parse? {α : Type} (knob : Knob α) (raw : String) : Option α :=
  knob.spellings.lookup (normalize raw)

/-- The setting under an environment that gives `raw?` for the variable. -/
def resolve {α : Type} (knob : Knob α) (raw? : Option String) : α :=
  (raw?.bind knob.parse?).getD knob.default

def trap : Knob TrapMode where
  variableName := "DOOMLIBC_TRAP"
  default := .abort
  spellings := [("abort", .abort), ("default", .abort), ("exit", .exit)]
  encode
    | .abort => 1
    | .exit => 2
  decode code := if code = 2 then .exit else .abort

def mkdir : Knob MkdirPolicy where
  variableName := "DOOMLIBC_MKDIR"
  default := .notice
  spellings :=
    [("silent", .silent), ("noop", .silent), ("quiet", .silent),
      ("notice", .notice), ("todo", .notice), ("warn", .notice)]
  encode
    | .silent => 1
    | .notice => 2
  decode code := if code = 1 then .silent else .notice

def log : Knob LogFormat where
  variableName := "DOOMLIBC_LOG"
  default := .text
  spellings := [("text", .text), ("plain", .text), ("jsonl", .jsonl), ("json", .jsonl)]
  encode
    | .text => 1
    | .jsonl => 2
  decode code := if code = 2 then .jsonl else .text

end Knob

/-- All settings of a run. -/
structure Settings where
  trap : TrapMode := .abort
  mkdir : MkdirPolicy := .notice
  log : LogFormat := .text
  deriving DecidableEq, Repr

/-- The settings that an environment selects; a variable is missing when `read` gives nothing. -/
def Settings.ofEnvironment (read : String → Option String) : Settings where
  trap := Knob.trap.resolve (read Knob.trap.variableName)
  mkdir := Knob.mkdir.resolve (read Knob.mkdir.variableName)
  log := Knob.log.resolve (read Knob.log.variableName)

end StubLibc
