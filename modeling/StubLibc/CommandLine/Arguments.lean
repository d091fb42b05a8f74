import StubLibc.Report.SupportMatrix

/-!
# Command-line arguments

The commands of the tool and how they are written: a command's name, then its options in any
order, each at most once, as `--name value` or `--name=value`.  A value in an argument of its own
does not start with a dash, unless it is a single dash; the value of a path is not empty.
-/

namespace StubLibc.CommandLine

/-- What the tool is asked to do. -/
inductive Command where
  /-- Report the support matrix. -/
  | supportMatrix (form : SupportMatrix.Form) (output : Option String)
  /-- Write the linker version script. -/
  | versionScript (output : Option String)
  /-- Report the settings of the environment. -/
  | config
  /-- Check a log. -/
  | validateLog (log : String)
  deriving DecidableEq, Repr

/-- Options with their values, in the order given. -/
abbrev Options := List (String × String)

/-- An argument that is not a value: it starts with a dash and has more. -/
def isDashed (argument : String) : Bool :=
  match argument.toList with
  | '-' :: _ :: _ => true
  | _ => false

/-- The option that an argument spells, with the value after an equals sign if it has one. -/
def spelled? (known : List String) (argument : String) : Option (String × Option String) :=
  known.findSome? fun name =>
    if argument = "--" ++ name then some (name, none)
    else
      ("--" ++ name ++ "=").toList.isPrefixOf? argument.toList |>.map fun value =>
        (name, some (String.ofList value))

/-- Reads options out of the known ones; `none` when an argument is not one, lacks its value or
repeats an option. -/
def options? (known : List String) : List String → Options → Option Options
  | [], given => some given
  | ["--"], given => some given
  | argument :: rest, given =>
    match spelled? known argument with
    | none => none
    | some (name, some value) =>
      if (given.lookup name).isSome then none else options? known rest (given ++ [(name, value)])
    | some (name, none) =>
      match rest with
      | [] => none
      | value :: rest =>
        if isDashed value || (given.lookup name).isSome then none
        else options? known rest (given ++ [(name, value)])

/-- The value of a path option: absent, or not empty. -/
def path? (options : Options) (name : String) : Option (Option String) :=
  match options.lookup name with
  | none => some none
  | some value => if value.isEmpty then none else some (some value)

/-- The form of the support matrix: JSON unless the option names another. -/
def form? (options : Options) : Option SupportMatrix.Form :=
  match options.lookup "format" with
  | none => some .json
  | some value => SupportMatrix.Form.all.find? fun form => form.name == value

/-- The command that arguments ask for; `none` when they ask for none. -/
def Command.parse? : List String → Option Command
  | "support-matrix" :: rest => do
    let options ← options? ["format", "output"] rest []
    pure (.supportMatrix (← form? options) (← path? options "output"))
  | "version-script" :: rest => do
    let options ← options? ["output"] rest []
    pure (.versionScript (← path? options "output"))
  | "config" :: rest => do
    let _ ← options? [] rest []
    pure .config
  | "validate-log" :: rest => do
    let options ← options? ["log"] rest []
    pure (.validateLog (← (← path? options "log")))
  | _ => none

end StubLibc.CommandLine
