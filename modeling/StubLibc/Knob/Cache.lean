import StubLibc.Knob

/-!
# The knob cache

A cache holds the code of one resolved knob.  Reading the environment may itself call back for a
knob, so a cache that is being resolved answers such a call with the caller's default, without
reading again; once resolved it decodes the code it holds, whichever knob asks.

A `Query` is one look-up together with the queries that its reading of the environment makes on
the same cache; running it gives the trace of readings and answers.
-/

namespace StubLibc.Knob

/-- The state of a cache: a code, or one of the two reserved codes. -/
structure Cache where
  code : UInt8
  deriving DecidableEq, Repr

namespace Cache

/-- Nothing has been read. -/
def unresolved : Cache := ⟨0⟩

/-- The environment is being read. -/
def resolving : Cache := ⟨255⟩

/-- The answer of a cache that is not to read the environment. -/
def answer? {α : Type} (cache : Cache) (knob : Knob α) : Option α :=
  if cache = resolving then some knob.default
  else if cache = unresolved then none
  else some (knob.decode cache.code)

end Cache

/-- Which knob a query asks for. -/
inductive Name where
  | trap
  | mkdir
  | log
  deriving DecidableEq, Repr

/-- The value of a knob, tagged with its knob. -/
inductive Setting where
  | trap (mode : TrapMode)
  | mkdir (policy : MkdirPolicy)
  | log (format : LogFormat)
  deriving DecidableEq, Repr

namespace Name

def answer? (name : Name) (cache : Cache) : Option Setting :=
  match name with
  | trap => (cache.answer? Knob.trap).map .trap
  | mkdir => (cache.answer? Knob.mkdir).map .mkdir
  | log => (cache.answer? Knob.log).map .log

def resolve (name : Name) (raw? : Option String) : Setting :=
  match name with
  | trap => .trap (Knob.trap.resolve raw?)
  | mkdir => .mkdir (Knob.mkdir.resolve raw?)
  | log => .log (Knob.log.resolve raw?)

end Name

/-- The cache that holds a setting. -/
def Setting.cached : Setting → Cache
  | trap mode => ⟨Knob.trap.encode mode⟩
  | mkdir policy => ⟨Knob.mkdir.encode policy⟩
  | log format => ⟨Knob.log.encode format⟩

/-- A look-up whose reading of the environment makes the queries `inner` and then finds `raw?`. -/
inductive Query where
  | get (name : Name) (raw? : Option String) (inner : List Query)

/-- What happens while queries run. -/
inductive Event where
  /-- The environment was read for a knob. -/
  | read (name : Name)
  /-- A query was answered. -/
  | answered (setting : Setting)
  deriving DecidableEq, Repr

mutual

/-- Runs one query: the events in order and the cache afterwards. -/
def Query.run : Query → Cache → List Event × Cache
  | .get name raw? inner, cache =>
    match name.answer? cache with
    | some setting => ([.answered setting], cache)
    | none =>
      let (events, _) := Query.runAll inner Cache.resolving
      let setting := name.resolve raw?
      (.read name :: events ++ [.answered setting], setting.cached)

/-- Runs queries one after another. -/
def Query.runAll : List Query → Cache → List Event × Cache
  | [], cache => ([], cache)
  | query :: rest, cache =>
    let (events, cache) := query.run cache
    let (more, cache) := Query.runAll rest cache
    (events ++ more, cache)

end

end StubLibc.Knob
