import StubLibc.Proofs.Knob.Resolution

/-!
# Settings behind caches

A process has one cache for each knob and an environment that stays as it is.  Whichever knobs have
been looked up and in whatever order, the next look-up of each gives what the environment selects:
the caches only decide whether the environment is read once more.
-/

namespace StubLibc

def Settings.setting (settings : Settings) : Knob.Name → Knob.Setting
  | .trap => .trap settings.trap
  | .mkdir => .mkdir settings.mkdir
  | .log => .log settings.log

theorem Settings.ext_setting {first second : Settings}
    (h : ∀ name, first.setting name = second.setting name) : first = second := by
  obtain ⟨firstTrap, firstMkdir, firstLog⟩ := first
  obtain ⟨secondTrap, secondMkdir, secondLog⟩ := second
  cases h .trap
  cases h .mkdir
  cases h .log
  rfl

namespace Knob

/-- The variables that a process was started with. -/
abbrev Environment := String → Option String

/-- The environment variable of a knob. -/
def Name.variableName : Name → String
  | trap => Knob.trap.variableName
  | mkdir => Knob.mkdir.variableName
  | log => Knob.log.variableName

/-- The caches of a process. -/
structure Caches where
  trap : Cache := .unresolved
  mkdir : Cache := .unresolved
  log : Cache := .unresolved

namespace Caches

def get (caches : Caches) : Name → Cache
  | .trap => caches.trap
  | .mkdir => caches.mkdir
  | .log => caches.log

def set (caches : Caches) (name : Name) (cache : Cache) : Caches :=
  match name with
  | .trap => { caches with trap := cache }
  | .mkdir => { caches with mkdir := cache }
  | .log => { caches with log := cache }

/-- Looks a knob up in its own cache. -/
def lookUp (environment : Environment) (caches : Caches) (name : Name) : List Event × Caches :=
  let (events, cache) :=
    (Query.get name (environment name.variableName) []).run (caches.get name)
  (events, caches.set name cache)

/-- Looks knobs up one after the other. -/
def lookUpAll (environment : Environment) (names : List Name) (caches : Caches) : Caches :=
  names.foldl (fun caches name ↦ (caches.lookUp environment name).2) caches

/-- What look-ups of the knobs would give now. -/
def settings (environment : Environment) (caches : Caches) : Settings where
  trap := (caches.trap.answer? Knob.trap).getD
    (Knob.trap.resolve (environment Knob.trap.variableName))
  mkdir := (caches.mkdir.answer? Knob.mkdir).getD
    (Knob.mkdir.resolve (environment Knob.mkdir.variableName))
  log := (caches.log.answer? Knob.log).getD
    (Knob.log.resolve (environment Knob.log.variableName))

variable {environment : Environment}

theorem get_set_self (caches : Caches) (name : Name) (cache : Cache) :
    (caches.set name cache).get name = cache := by
  cases name <;> rfl

theorem get_set_of_ne {name other : Name} (h : other ≠ name) (caches : Caches) (cache : Cache) :
    (caches.set name cache).get other = caches.get other := by
  cases name <;> cases other <;> first | rfl | exact absurd rfl h

theorem setting_settings (environment : Environment) (caches : Caches) (name : Name) :
    (caches.settings environment).setting name =
      (name.answer? (caches.get name)).getD (name.resolve (environment name.variableName)) := by
  cases name with
  | trap => exact (Option.getD_map Setting.trap _ _).symm
  | mkdir => exact (Option.getD_map Setting.mkdir _ _).symm
  | log => exact (Option.getD_map Setting.log _ _).symm

/-- Caches that nobody has looked into leave everything to the environment. -/
theorem settings_fresh (environment : Environment) :
    ({} : Caches).settings environment = Settings.ofEnvironment environment := rfl

/-- What a knob's query answers does not change by being asked. -/
theorem answer?_run (name : Name) (raw? : Option String) (inner : List Query) (cache : Cache) :
    (name.answer? ((Query.get name raw? inner).run cache).2).getD (name.resolve raw?) =
      (name.answer? cache).getD (name.resolve raw?) := by
  cases hanswer : name.answer? cache with
  | some setting =>
    have hrun : (Query.get name raw? inner).run cache = ([.answered setting], cache) :=
      Query.run_of_answer? hanswer
    rw [hrun, hanswer]
  | none =>
    have hrun : ((Query.get name raw? inner).run cache).2 = (name.resolve raw?).cached := by
      rw [Query.run, hanswer]
    rw [hrun, name.answer?_cached, name.decode_cached_resolve]
    rfl

/-- A look-up answers what was due, and every later look-up will answer as it would have done. -/
theorem lookUp_spec (environment : Environment) (caches : Caches) (name : Name) :
    (caches.lookUp environment name).1.getLast? =
        some (.answered ((caches.settings environment).setting name)) ∧
      (caches.lookUp environment name).2.settings environment = caches.settings environment := by
  constructor
  · rw [setting_settings, lookUp, Query.run]
    cases name.answer? (caches.get name) with
    | some setting => rfl
    | none =>
      dsimp only
      rw [List.getLast?_append]
      rfl
  · apply Settings.ext_setting
    intro other
    rw [setting_settings, setting_settings, lookUp]
    by_cases hother : other = name
    · subst hother
      rw [get_set_self, answer?_run]
    · rw [get_set_of_ne hother]

theorem settings_lookUpAll (environment : Environment) (names : List Name) (caches : Caches) :
    (lookUpAll environment names caches).settings environment = caches.settings environment := by
  induction names generalizing caches with
  | nil => rfl
  | cons name rest ih =>
    let after := (caches.lookUp environment name).2
    calc
      _ = (lookUpAll environment rest after).settings environment := rfl
      _ = after.settings environment := ih after
      _ = caches.settings environment := (lookUp_spec environment caches name).2

end Caches

end Knob

end StubLibc
