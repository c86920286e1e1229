import Messaging.Proofs.Log.Filters
import Messaging.Proofs.Outcome

/-! The logger over whole runs. Its filter is replaced in several ways, and kept when a replacement is refused. The
    ceiling that it keeps beside the filter turns away no record that the filter lets through, and lets a level
    pass only if the filter does so somewhere. -/

namespace Messaging.Log

/-- A replacement of the filter. -/
inductive Change
  | filter (f : Filter) (made : f.Made)
  | uniform (level : Level)
  | levelNamed (name : String)
  | directives (spec : String)

namespace Change

def apply (l : Logger) : Change → Except SpecError Logger
  | filter f _ => .ok (l.setFilter f)
  | uniform level => .ok (l.setLevel level)
  | levelNamed name => l.setLevelNamed name
  | directives spec => l.setDirectives spec

/-- The filter that a change asks for, unless its text cannot be read. -/
def wanted : Change → Except SpecError Filter
  | filter f _ => .ok f
  | uniform level => .ok (.uniform level)
  | levelNamed name => (Level.read name).map .uniform
  | directives spec => Filter.ofSpec spec

end Change

/-- A refused change leaves the logger as it was. -/
def Logger.change (l : Logger) (c : Change) : Logger :=
  match c.apply l with
  | .ok changed => changed
  | .error _ => l

/-- The logger after some changes, the latest first. -/
def Logger.after : List Change → Logger
  | [] => .ofFilter .standard
  | c :: earlier => (Logger.after earlier).change c

/-- The filter that the latest change asked for whose text can be read. -/
def latest : List Change → Filter
  | [] => .standard
  | c :: earlier =>
    match c.wanted with
    | .ok f => f
    | .error _ => latest earlier

variable {c : Change} {cs : List Change} {f : Filter} {l : Logger}

theorem apply_eq (l : Logger) (c : Change) : c.apply l = c.wanted.map .ofFilter := by
  cases c with
  | filter f made => rfl
  | uniform level => rfl
  | levelNamed name =>
    simp only [Change.apply, Change.wanted, Logger.setLevelNamed]
    cases Level.read name <;> rfl
  | directives spec => rfl

theorem tidy_wanted (wanted : c.wanted = .ok f) : Tidy f.targets := by
  cases c with
  | filter g made =>
    cases wanted
    exact made.tidy
  | uniform level =>
    cases wanted
    exact Filter.tidy_uniform level
  | levelNamed name =>
    have named : (Level.read name).map Filter.uniform = .ok f := wanted
    cases read : Level.read name with
    | error cause =>
      rw [read] at named
      cases named
    | ok level =>
      rw [read] at named
      cases named
      exact Filter.tidy_uniform level
  | directives spec => exact Filter.tidy_ofSpec wanted

/-- After every run the logger is the one for the latest filter. -/
theorem after_eq (cs : List Change) : Logger.after cs = .ofFilter (latest cs) := by
  induction cs with
  | nil => rfl
  | cons c earlier ih =>
    unfold Logger.after latest Logger.change
    rw [apply_eq, ih]
    cases c.wanted <;> rfl

theorem tidy_latest (cs : List Change) : Tidy (latest cs).targets := by
  induction cs with
  | nil => exact Filter.tidy_uniform .info
  | cons c earlier ih =>
    unfold latest
    split
    · next f wanted => exact tidy_wanted wanted
    · exact ih

namespace Logger

/-- A level that the filter lets through is not above the ceiling. -/
theorem enabledFor_ofFilter (f : Filter) (level : Level) (path : String) :
    (ofFilter f).enabledFor level path = f.enabled level path := by
  unfold enabledFor enabled Filter.enabled
  by_cases lets : level ≤ f.levelFor path
  · have below : level ≤ f.ceiling := Level.le_trans lets (f.levelFor_le_ceiling path)
    simp [ofFilter, lets, below]
  · simp [ofFilter, lets]

theorem enabled_ofFilter (tidy : Tidy f.targets) (level : Level) :
    (ofFilter f).enabled level = true ↔ ∃ path, f.enabled level path = true := by
  unfold enabled Filter.enabled
  simp only [decide_eq_true_eq]
  constructor
  · intro below
    obtain ⟨path, reached⟩ := Filter.exists_levelFor_eq_ceiling tidy
    exact ⟨path, reached ▸ below⟩
  · rintro ⟨path, lets⟩
    exact Level.le_trans lets (f.levelFor_le_ceiling path)

end Logger

/-- The directives of the environment are a change of the logger like others. -/
theorem logger_readEnvironment {m : Machine} {spec : String} (given : m.setup.environment = some spec)
    (unread : m.setup.environmentRead = false) (same : m.journal.logger = Logger.after cs) :
    (readEnvironment.outcome m).2.journal.logger = Logger.after (.directives spec :: cs) := by
  unfold readEnvironment
  rw [Exec.outcome_bind_ok Exec.outcome_get]
  simp only [unread, Bool.not_false, if_true]
  rw [Exec.outcome_bind_ok Exec.outcome_set]
  show _ = (Logger.after cs).change (.directives spec)
  simp only [given, same, Logger.change, Change.apply]
  cases (Logger.after cs).setDirectives spec with
  | ok changed => rfl
  | error cause => exact same

/-- After every run of changes, refused ones among them, the filter is the one that was set last; asking the logger
    about a level and a path is asking the filter, and about a level alone whether there is such a path. A refused
    change leaves the logger as it was altogether. In a machine a record is written just if the filter lets it
    through, and the environment's directives are one more change. -/
theorem ceiling_is_an_exact_fast_path (cs : List Change) :
    (Logger.after cs).filter = latest cs ∧
    (∀ level path, (Logger.after cs).enabledFor level path = (Logger.after cs).filter.enabled level path) ∧
    (∀ level, (Logger.after cs).enabled level = true ↔ ∃ path, (Logger.after cs).enabledFor level path = true) ∧
    (∀ c cause, c.apply (Logger.after cs) = .error cause → Logger.after (c :: cs) = Logger.after cs) ∧
    ∀ m : Machine, m.journal.logger = Logger.after cs →
      (∀ level path text, m.journal.record level path text =
        if (Logger.after cs).filter.enabled level path then m.journal.write level path text else m.journal) ∧
      ∀ spec, m.setup.environment = some spec → m.setup.environmentRead = false →
        (readEnvironment.outcome m).2.journal.logger = Logger.after (.directives spec :: cs) := by
  have asks (level : Level) (path : String) :
      (Logger.after cs).enabledFor level path = (Logger.after cs).filter.enabled level path := by
    rw [after_eq]
    exact Logger.enabledFor_ofFilter _ level path
  refine ⟨by rw [after_eq]; rfl, asks, fun level => ?_, fun c cause refused => ?_, fun m same =>
    ⟨fun level path text => ?_, fun spec given unread => logger_readEnvironment given unread same⟩⟩
  · simp only [asks]
    rw [after_eq]
    exact Logger.enabled_ofFilter (tidy_latest cs) level
  · show (Logger.after cs).change c = _
    unfold Logger.change
    rw [refused]
  · unfold Journal.record
    rw [same, asks]

/-- The base is warnings and one target is louder; two more changes are refused. -/
def loudTarget : List Change :=
  [.levelNamed "shout", .directives "quiet=info,=warn",
    .filter ((Filter.uniform .warn).withTarget "loud" .trace) (.withTarget (.uniform .warn) "loud" .trace)]

/-- All levels pass, since the louder target lets them through, and the refused changes are not noticed. -/
theorem loud_target_passes : (Logger.after loudTarget).enabled .trace = true ∧
    (Logger.after loudTarget).enabledFor .trace "loud::inner" = true ∧
    (Logger.after loudTarget).enabledFor .info "quiet" = false ∧
    Logger.after loudTarget = Logger.after (loudTarget.drop 1) := by
  obtain ⟨filter, asks, passes, -⟩ := ceiling_is_an_exact_fast_path loudTarget
  obtain ⟨-, -, -, keeps, -⟩ := ceiling_is_an_exact_fast_path (loudTarget.drop 1)
  have loud : (Logger.after loudTarget).enabledFor .trace "loud::inner" = true := by
    rw [asks]
    decide
  refine ⟨(passes .trace).mpr ⟨_, loud⟩, loud, ?_, keeps (.levelNamed "shout") (.invalidLevel "shout") ?_⟩
  · rw [asks]
    decide
  · rfl

end Messaging.Log
