/-!
# The capability table

Every function symbol that the library exports, with the header family it belongs to and whether
it has a real body or traps.  The order of the table is the order in which reports list it.
-/

namespace StubLibc

inductive Family where
  | string
  | stdio
  | stdlib
  | ctype
  | math
  | process
  | fs
  | malloc
  | errno
  deriving DecidableEq, Repr

namespace Family

def all : List Family := [string, stdio, stdlib, ctype, math, process, fs, malloc, errno]

def name : Family → String
  | string => "string"
  | stdio => "stdio"
  | stdlib => "stdlib"
  | ctype => "ctype"
  | math => "math"
  | process => "process"
  | fs => "fs"
  | malloc => "malloc"
  | errno => "errno"

/-- The name of a family in prose. -/
def title : Family → String
  | string => "String"
  | stdio => "Stdio"
  | stdlib => "Stdlib"
  | ctype => "Ctype"
  | math => "Math"
  | process => "Process"
  | fs => "Fs"
  | malloc => "Malloc"
  | errno => "Errno"

def header : Family → String
  | string => "string.h"
  | stdio => "stdio.h"
  | stdlib => "stdlib.h"
  | ctype => "ctype.h"
  | math => "math.h"
  | process => "stdlib.h"
  | fs => "sys/stat.h"
  | malloc => "stdlib.h"
  | errno => "errno.h"

end Family

/-- Whether a capability has a real body. -/
inductive Disposition where
  /-- A call ends the process. -/
  | trap
  | provided
  deriving DecidableEq, Repr

def Disposition.name : Disposition → String
  | trap => "trap"
  | provided => "provided"

/-- The exported functions. -/
inductive Capability where
  | strncasecmp
  | strdup
  | strstr
  | strchr
  | strncmp
  | strcmp
  | strcasecmp
  | strncpy
  | strrchr
  | fprintf
  | snprintf
  | sscanf
  | fopen
  | fclose
  | fread
  | fseek
  | ftell
  | fwrite
  | fflush
  | putchar
  | puts
  | printf
  | vfprintf
  | vsnprintf
  | atoi
  | atof
  | abs
  | exit
  | system
  | unimplemented
  | malloc
  | calloc
  | realloc
  | free
  | isspace
  | toupper
  | fabs
  | mkdir
  | rename
  | remove
  | errnoLocation
  deriving DecidableEq, Repr

namespace Capability

/-- Every capability, in table order. -/
def all : List Capability :=
  [strncasecmp, strdup, strstr, strchr, strncmp, strcmp, strcasecmp, strncpy, strrchr,
    fprintf, snprintf, sscanf, fopen, fclose, fread, fseek, ftell, fwrite, fflush, putchar, puts,
    printf, vfprintf, vsnprintf,
    atoi, atof, abs, exit, system, unimplemented, malloc, calloc, realloc, free,
    isspace, toupper, fabs, mkdir, rename, remove, errnoLocation]

def symbol : Capability → String
  | strncasecmp => "strncasecmp"
  | strdup => "strdup"
  | strstr => "strstr"
  | strchr => "strchr"
  | strncmp => "strncmp"
  | strcmp => "strcmp"
  | strcasecmp => "strcasecmp"
  | strncpy => "strncpy"
  | strrchr => "strrchr"
  | fprintf => "fprintf"
  | snprintf => "snprintf"
  | sscanf => "sscanf"
  | fopen => "fopen"
  | fclose => "fclose"
  | fread => "fread"
  | fseek => "fseek"
  | ftell => "ftell"
  | fwrite => "fwrite"
  | fflush => "fflush"
  | putchar => "putchar"
  | puts => "puts"
  | printf => "printf"
  | vfprintf => "vfprintf"
  | vsnprintf => "vsnprintf"
  | atoi => "atoi"
  | atof => "atof"
  | abs => "abs"
  | exit => "exit"
  | system => "system"
  | unimplemented => "unimplemented"
  | malloc => "malloc"
  | calloc => "calloc"
  | realloc => "realloc"
  | free => "free"
  | isspace => "isspace"
  | toupper => "toupper"
  | fabs => "fabs"
  | mkdir => "mkdir"
  | rename => "rename"
  | remove => "remove"
  | errnoLocation => "__errno_location"

def family : Capability → Family
  | strncasecmp | strdup | strstr | strchr | strncmp | strcmp | strcasecmp | strncpy
  | strrchr => .string
  | fprintf | snprintf | sscanf | fopen | fclose | fread | fseek | ftell | fwrite | fflush
  | putchar | puts | printf | vfprintf | vsnprintf => .stdio
  | atoi | atof | abs => .stdlib
  | exit | system | unimplemented => .process
  | malloc | calloc | realloc | free => .malloc
  | isspace | toupper => .ctype
  | fabs => .math
  | mkdir | rename | remove => .fs
  | errnoLocation => .errno

def disposition : Capability → Disposition
  | strcmp | strcasecmp | strncpy | strrchr
  | fwrite | fflush | putchar | puts | printf | vfprintf | vsnprintf
  | unimplemented | malloc | calloc | realloc | free | mkdir | errnoLocation => .provided
  | _ => .trap

/-- A call of the function ends the process. -/
def isTrap (capability : Capability) : Bool :=
  capability.disposition == .trap

def ofSymbol? (symbol : String) : Option Capability :=
  all.find? fun capability => capability.symbol == symbol

/-- The trapping capabilities, in table order. -/
def traps : List Capability := all.filter isTrap

/-- Why a capability cannot be used. -/
inductive Unavailable where
  | notImplemented (capability : Capability)
  | unknownSymbol (symbol : String)
  deriving DecidableEq, Repr

def Unavailable.message : Unavailable → String
  | notImplemented capability => "capability not implemented: " ++ capability.symbol
  | unknownSymbol symbol => "unknown shim symbol: " ++ symbol

/-- The capability that a symbol names, or the complaint that there is none. -/
def lookup (symbol : String) : Except Unavailable Capability :=
  match ofSymbol? symbol with
  | some capability => .ok capability
  | none => .error (.unknownSymbol symbol)

/-- Succeeds for a capability with a real body. -/
def ensureProvided (capability : Capability) : Except Unavailable Unit :=
  if capability.isTrap then .error (.notImplemented capability) else .ok ()

/-- The data symbols exported beside the functions. -/
def globals : List String := ["errno", "stdin", "stdout", "stderr"]

theorem mem_all (capability : Capability) : capability ∈ all := by
  cases capability <;> decide

theorem symbol_eq_of_ofSymbol? {symbol : String} {capability : Capability}
    (h : ofSymbol? symbol = some capability) : capability.symbol = symbol := by
  simpa using List.find?_some h

@[simp]
theorem ofSymbol?_symbol (capability : Capability) :
    ofSymbol? capability.symbol = some capability := by
  cases capability <;> decide

end Capability

end StubLibc
