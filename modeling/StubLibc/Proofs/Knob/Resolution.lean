import StubLibc.Knob.Cache

/-!
# A knob is resolved once

A fresh cache reads the environment for the first query that it is asked, and never again.  What
that reading asks of the cache is answered by defaults, whatever its own readings would have asked;
everything asked afterwards is answered from the code that the first query left behind.
-/

namespace StubLibc.Knob

namespace Name

def default : Name → Setting
  | trap => .trap Knob.trap.default
  | mkdir => .mkdir Knob.mkdir.default
  | log => .log Knob.log.default

/-- The setting that a knob makes of the code in a cache. -/
def decode (name : Name) (cache : Cache) : Setting :=
  match name with
  | trap => .trap (Knob.trap.decode cache.code)
  | mkdir => .mkdir (Knob.mkdir.decode cache.code)
  | log => .log (Knob.log.decode cache.code)

end Name

/-- The knob that a query asks for. -/
def Query.name : Query → Name
  | get name _ _ => name

/-! ## Codes -/

theorem Setting.cached_ne_resolving (setting : Setting) : setting.cached ≠ .resolving := by
  rcases setting with (_ | _) | (_ | _) | (_ | _) <;> decide

theorem Setting.cached_ne_unresolved (setting : Setting) : setting.cached ≠ .unresolved := by
  rcases setting with (_ | _) | (_ | _) | (_ | _) <;> decide

/-- The code of a knob's own setting is read as that setting. -/
theorem Name.decode_cached_resolve (name : Name) (raw? : Option String) :
    name.decode (name.resolve raw?).cached = name.resolve raw? := by
  cases name with
  | trap =>
    rw [resolve]
    cases Knob.trap.resolve raw? <;> rfl
  | mkdir =>
    rw [resolve]
    cases Knob.mkdir.resolve raw? <;> rfl
  | log =>
    rw [resolve]
    cases Knob.log.resolve raw? <;> rfl

/-! ## Answers without a reading -/

theorem Name.answer?_cached (name : Name) (setting : Setting) :
    name.answer? setting.cached = some (name.decode setting.cached) := by
  have hresolving := setting.cached_ne_resolving
  have hunresolved := setting.cached_ne_unresolved
  cases name <;>
    simp only [answer?, Cache.answer?, if_neg hresolving, if_neg hunresolved, Option.map_some,
      decode]

namespace Query

theorem run_of_answer? {query : Query} {cache : Cache} {setting : Setting}
    (h : query.name.answer? cache = some setting) :
    query.run cache = ([.answered setting], cache) := by
  cases query with
  | get name raw? inner =>
    have hanswer : name.answer? cache = some setting := h
    rw [run, hanswer]

/-- A code that one knob left is another setting to another knob. -/
example (raw? : Option String) (h : Knob.mkdir.resolve raw? = .notice) :
    Name.trap.decode (Name.mkdir.resolve raw?).cached = .trap .exit := by
  rw [Name.resolve, h]
  rfl

end Query

end StubLibc.Knob
