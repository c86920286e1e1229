import Messaging.Proofs.Log.Targets
import Messaging.Proofs.Text.Pieces

/-! Specs as they are written. A spec is a list of pieces between commas, each a level or a target with a level; which
    texts are which is said here without reading them from the left. A spec that can be read gives the filter that
    its directives ask for, wherever a bare level stands among them, and one that cannot is refused with the fault of
    its first faulty piece. -/

namespace Messaging.Log
open Text

/-- The text is the name of the level, whatever the case of its letters and the blanks around it. -/
def Names (level : Level) (cs : List Char) : Prop := ∃ core, Trims cs core ∧ core.map Char.toUpper = level.name.toList

/-- What is left of some pieces, in order, without blanks around them and without those that are blank. -/
inductive Trimmed : List (List Char) → List (List Char) → Prop
  | nil : Trimmed [] []
  | blank {p : List Char} {raw ps : List (List Char)} (blank : Blank p) (rest : Trimmed raw ps) : Trimmed (p :: raw) ps
  | piece {p core : List Char} {raw ps : List (List Char)} (trims : Trims p core) (some : core ≠ [])
      (rest : Trimmed raw ps) : Trimmed (p :: raw) (core :: ps)

/-- The pieces of a spec. -/
def Pieces (spec : String) (ps : List (List Char)) : Prop := ∃ raw, CutAt ',' spec.toList raw ∧ Trimmed raw ps

/-- What a piece asks for: a level alone, or a target before its first equals sign and a level after it. -/
inductive Means : List Char → Directive → Prop
  | base {piece : List Char} {level : Level} (bare : '=' ∉ piece) (named : Names level piece) : Means piece (.base level)
  | target {left name right : List Char} {level : Level} (first : '=' ∉ left) (trims : Trims left name) (some : name ≠ [])
      (named : Names level right) : Means (left ++ '=' :: right) (.target (String.ofList name) level)

/-- What is wrong with a piece. A target that is missing is noticed before the level is looked at. -/
inductive Fault : List Char → String → Prop
  | level {piece : List Char} (bare : '=' ∉ piece) (unnamed : ∀ level, ¬Names level piece) :
      Fault piece ("invalid log level: " ++ String.ofList piece)
  | target {left right : List Char} (first : '=' ∉ left) (blank : Blank left) :
      Fault (left ++ '=' :: right) ("missing target in directive: " ++ String.ofList (left ++ '=' :: right))
  | targetLevel {left right : List Char} (first : '=' ∉ left) (some : ¬Blank left) (unnamed : ∀ level, ¬Names level right) :
      Fault (left ++ '=' :: right) ("invalid log level: " ++ String.ofList right)

/-- The level that was asked for last for everything. -/
def lastBase (ds : List Directive) : Level :=
  (ds.filterMap fun | .base level => some level | .target _ _ => none).getLast?.getD .error

/-- The targets with their levels, in order. -/
def settings (ds : List Directive) : List (String × Level) :=
  ds.filterMap fun | .base _ => none | .target name level => some (name, level)

variable {level : Level} {cs piece left right : List Char} {d : Directive} {ds : List Directive} {spec message : String}

/-! ### Levels -/

theorem named?_eq_some_iff : Level.named? cs = some level ↔ level.name.toList = cs := by
  constructor
  · intro found
    simpa using List.find?_some found
  · rintro rfl
    cases level <;> decide

theorem names_iff : Names level cs ↔ (trimBlanks cs).map Char.toUpper = level.name.toList := by
  simp only [Names, trims_iff, exists_eq_left']

theorem read_of_names {text : String} (named : Names level text.toList) : Level.read text = .ok level := by
  unfold Level.read
  rw [named?_eq_some_iff.mpr (names_iff.mp named).symm]

theorem read_of_unnamed {text : String} (unnamed : ∀ level, ¬Names level text.toList) :
    Level.read text = .error (.invalidLevel text) := by
  unfold Level.read
  cases found : Level.named? ((trimBlanks text.toList).map Char.toUpper) with
  | some level => exact absurd (names_iff.mpr (named?_eq_some_iff.mp found).symm) (unnamed level)
  | none => rfl

/-! ### Pieces -/

theorem trimmed_pieces (raw : List (List Char)) :
    Trimmed raw ((raw.map trimBlanks).filter fun piece => !piece.isEmpty) := by
  induction raw with
  | nil => exact .nil
  | cons p raw ih =>
    rw [List.map_cons, List.filter_cons]
    by_cases none : trimBlanks p = []
    · rw [if_neg (by simp [none])]
      exact .blank (trimBlanks_eq_nil_iff.mp none) ih
    · rw [if_pos (by simp [none])]
      exact .piece (trims_trimBlanks p) none ih

theorem Trimmed.eq {raw ps : List (List Char)} (trimmed : Trimmed raw ps) :
    ps = (raw.map trimBlanks).filter fun piece => !piece.isEmpty := by
  induction trimmed with
  | nil => rfl
  | blank blank _ ih =>
    rw [List.map_cons, List.filter_cons, if_neg (by simp [trimBlanks_eq_nil_iff.mpr blank]), ih]
  | piece trims some _ ih =>
    rw [List.map_cons, List.filter_cons, ← trims.eq, if_pos (by simp [some]), ih]

theorem pieces_iff {ps : List (List Char)} : Pieces spec ps ↔ ps = pieces spec := by
  constructor
  · rintro ⟨raw, cut, trimmed⟩
    rw [trimmed.eq, cut.eq]
    rfl
  · rintro rfl
    exact ⟨_, cutAt_cutAt _ _, trimmed_pieces _⟩

theorem read_bare (bare : '=' ∉ piece) : Directive.read piece = (Level.read (String.ofList piece)).map .base := by
  unfold Directive.read
  rw [if_neg bare]

theorem read_pair (first : '=' ∉ left) : Directive.read (left ++ '=' :: right) =
    if trimBlanks left = [] then .error (.missingTarget (String.ofList (left ++ '=' :: right)))
    else (Level.read (String.ofList right)).map (.target (String.ofList (trimBlanks left))) := by
  have before : ∀ c ∈ left, decide (c ≠ '=') = true := by
    rintro c mem
    rw [decide_eq_true_eq]
    rintro rfl
    exact first mem
  have mem : '=' ∈ left ++ '=' :: right := by simp
  unfold Directive.read
  rw [if_pos mem]
  simp only [List.takeWhile_append_of_pos before, List.dropWhile_append_of_pos before, List.isEmpty_iff]
  simp

theorem read_of_means (means : Means piece d) : Directive.read piece = .ok d := by
  cases means with
  | base bare named =>
    rw [read_bare bare, read_of_names (by rwa [String.toList_ofList])]
    rfl
  | target first trims some named =>
    rw [read_pair first, ← trims.eq, if_neg some, read_of_names (by rwa [String.toList_ofList])]
    rfl

theorem read_of_fault (fault : Fault piece message) :
    ∃ cause : SpecError, Directive.read piece = .error cause ∧ cause.message = message := by
  cases fault with
  | level bare unnamed =>
    rw [read_bare bare, read_of_unnamed (by rwa [String.toList_ofList])]
    exact ⟨_, rfl, rfl⟩
  | target first blank =>
    rw [read_pair first, if_pos (trimBlanks_eq_nil_iff.mpr blank)]
    exact ⟨_, rfl, rfl⟩
  | targetLevel first some unnamed =>
    rw [read_pair first, if_neg fun none => some (trimBlanks_eq_nil_iff.mp none),
      read_of_unnamed (by rwa [String.toList_ofList])]
    exact ⟨_, rfl, rfl⟩

/-- A piece that is no directive has a fault. -/
theorem means_or_fault (piece : List Char) : (∃ d, Means piece d) ∨ ∃ message, Fault piece message := by
  by_cases pair : '=' ∈ piece
  · obtain ⟨left, right, rfl, first⟩ := List.eq_append_cons_of_mem pair
    by_cases blank : Blank left
    · exact Or.inr ⟨_, .target first blank⟩
    · have some : trimBlanks left ≠ [] := fun none => blank (trimBlanks_eq_nil_iff.mp none)
      by_cases named : ∃ level, Names level right
      · obtain ⟨level, named⟩ := named
        exact Or.inl ⟨_, .target first (trims_trimBlanks left) some named⟩
      · exact Or.inr ⟨_, .targetLevel first blank (not_exists.mp named)⟩
  · by_cases named : ∃ level, Names level piece
    · obtain ⟨level, named⟩ := named
      exact Or.inl ⟨_, .base pair named⟩
    · exact Or.inr ⟨_, .level pair (not_exists.mp named)⟩

/-! ### Whole specs -/

theorem read_pieces {ps : List (List Char)} (means : List.Forall₂ Means ps ds) : ps.mapM Directive.read = .ok ds := by
  induction means with
  | nil => rfl
  | cons first _ ih =>
    rw [List.mapM_cons, read_of_means first, ih]
    rfl

theorem exists_means {ps : List (List Char)} (means : List.Forall₂ Means ps ds) : ∀ p ∈ ps, ∃ d, Means p d := by
  induction means with
  | nil => exact nofun
  | cons first _ ih => exact List.forall_mem_cons.mpr ⟨⟨_, first⟩, ih⟩

theorem read_faulty {before : List (List Char)} (clean : ∀ q ∈ before, ∃ d, Means q d) (fault : Fault piece message)
    (after : List (List Char)) : ∃ cause : SpecError,
      (before ++ piece :: after).mapM Directive.read = .error cause ∧ cause.message = message := by
  induction before with
  | nil =>
    obtain ⟨cause, read, worded⟩ := read_of_fault fault
    refine ⟨cause, ?_, worded⟩
    rw [List.nil_append, List.mapM_cons, read]
    rfl
  | cons q before ih =>
    obtain ⟨⟨d, means⟩, clean⟩ := List.forall_mem_cons.mp clean
    obtain ⟨cause, read, worded⟩ := ih clean
    refine ⟨cause, ?_, worded⟩
    rw [List.cons_append, List.mapM_cons, read_of_means means, read]
    rfl

/-- All pieces are directives, or there is a first one that is not. -/
theorem directives_or_first_fault (ps : List (List Char)) : (∃ ds, List.Forall₂ Means ps ds) ∨
    ∃ before piece after message, ps = before ++ piece :: after ∧ (∀ q ∈ before, ∃ d, Means q d) ∧ Fault piece message := by
  induction ps with
  | nil => exact Or.inl ⟨[], .nil⟩
  | cons p ps ih =>
    rcases means_or_fault p with ⟨d, means⟩ | ⟨message, fault⟩
    · rcases ih with ⟨ds, others⟩ | ⟨before, piece, after, message, rfl, clean, fault⟩
      · exact Or.inl ⟨d :: ds, .cons means others⟩
      · exact Or.inr ⟨p :: before, piece, after, message, rfl, List.forall_mem_cons.mpr ⟨⟨d, means⟩, clean⟩, fault⟩
    · exact Or.inr ⟨[], p, ps, message, rfl, nofun, fault⟩

/-- Bare levels may stand anywhere among the targets. -/
theorem foldl_apply (ds : List Directive) :
    ds.foldl Directive.apply (.uniform .error) = .given (lastBase ds) (settings ds) := by
  induction ds using List.reverseRecOn with
  | nil => rfl
  | append_singleton ds d ih =>
    rw [List.foldl_concat, ih]
    cases d with
    | base level =>
      -- A base says nothing about targets, so it may as well have been there from the start.
      have base : lastBase (ds ++ [.base level]) = level := by simp [lastBase]
      have same : settings (ds ++ [.base level]) = settings ds := by simp [settings]
      rw [base, same]
      exact given_base _ level _
    | target name level =>
      have base : lastBase (ds ++ [.target name level]) = lastBase ds := by simp [lastBase]
      have more : settings (ds ++ [.target name level]) = settings ds ++ [(name, level)] := by simp [settings]
      rw [base, more, given_concat]
      rfl

theorem ofSpec_of_means (means : List.Forall₂ Means (pieces spec) ds) :
    Filter.ofSpec spec = .ok (.given (lastBase ds) (settings ds)) := by
  unfold Filter.ofSpec
  rw [read_pieces means, ← foldl_apply]
  rfl

theorem ofSpec_of_fault {before after : List (List Char)} (split : pieces spec = before ++ piece :: after)
    (clean : ∀ q ∈ before, ∃ d, Means q d) (fault : Fault piece message) :
    ∃ cause : SpecError, Filter.ofSpec spec = .error cause ∧ cause.message = message := by
  obtain ⟨cause, read, worded⟩ := read_faulty clean fault after
  refine ⟨cause, ?_, worded⟩
  unfold Filter.ofSpec
  rw [split, read]
  rfl

/-- Every spec has its pieces, and in one way only. It can be read if and only if each of them is a directive, and then
    gives the filter with the base asked for last, or errors only, in which the targets got their levels in order. It
    is refused exactly with the fault of the first piece that is none. -/
theorem specs_are_read_by_their_pieces (spec : String) : ∃ ps, Pieces spec ps ∧ (∀ qs, Pieces spec qs → qs = ps) ∧
    ((∃ f, Filter.ofSpec spec = .ok f) ↔ ∀ p ∈ ps, ∃ d, Means p d) ∧
    (∀ ds, List.Forall₂ Means ps ds → Filter.ofSpec spec = .ok (.given (lastBase ds) (settings ds))) ∧
    ∀ message, (∃ cause : SpecError, Filter.ofSpec spec = .error cause ∧ cause.message = message) ↔
      ∃ before p after, ps = before ++ p :: after ∧ (∀ q ∈ before, ∃ d, Means q d) ∧ Fault p message := by
  refine ⟨pieces spec, pieces_iff.mpr rfl, fun qs cut => pieces_iff.mp cut, ?_, fun ds => ofSpec_of_means,
    fun message => ⟨?_, ?_⟩⟩
  -- Either all pieces are directives or there is a first faulty one, so what is shown in one case is excluded in the other.
  · rcases directives_or_first_fault (pieces spec) with ⟨ds, means⟩ | ⟨before, p, after, message, split, clean, fault⟩
    · exact iff_of_true ⟨_, ofSpec_of_means means⟩ (exists_means means)
    · obtain ⟨cause, refused, -⟩ := ofSpec_of_fault split clean fault
      refine iff_of_false (fun ⟨f, read⟩ => ?_) fun all => ?_
      · rw [refused] at read
        cases read
      · obtain ⟨d, means⟩ := all p (by rw [split]; simp)
        obtain ⟨cause, refused, -⟩ := read_of_fault fault
        rw [read_of_means means] at refused
        cases refused
  · rintro ⟨cause, refused, rfl⟩
    rcases directives_or_first_fault (pieces spec) with ⟨ds, means⟩ | ⟨before, p, after, message, split, clean, fault⟩
    · rw [ofSpec_of_means means] at refused
      cases refused
    · obtain ⟨cause', refused', rfl⟩ := ofSpec_of_fault split clean fault
      rw [refused] at refused'
      cases refused'
      exact ⟨before, p, after, split, clean, fault⟩
  · rintro ⟨before, p, after, split, clean, fault⟩
    exact ofSpec_of_fault split clean fault

/-- A bare level in front of a target and one behind it; the one behind is the base, and the empty piece is dropped. A
    second equals sign belongs to the level, whose text is no level's name then, and nothing is said about the pieces
    after it. -/
theorem bare_levels_stand_anywhere :
    Filter.ofSpec "info, a::b = trace ,,warn" = .ok (.given .warn [("a::b", .trace)]) ∧
    ∃ cause : SpecError, Filter.ofSpec "debug,a=b=info,=x" = .error cause ∧ cause.message = "invalid log level: b=info" := by
  constructor
  · obtain ⟨ps, -, unique, -, given, -⟩ := specs_are_read_by_their_pieces "info, a::b = trace ,,warn"
    have cut : ["info".toList, "a::b ".toList ++ '=' :: " trace".toList, "warn".toList] = ps :=
      unique _ (pieces_iff.mpr (by decide))
    have info : Means "info".toList (.base .info) := .base (by decide) (names_iff.mpr (by decide))
    have trace : Means ("a::b ".toList ++ '=' :: " trace".toList) (.target (String.ofList "a::b".toList) .trace) :=
      .target (by decide) (trims_iff.mpr (by decide)) (by decide) (names_iff.mpr (by decide))
    have warn : Means "warn".toList (.base .warn) := .base (by decide) (names_iff.mpr (by decide))
    subst cut
    exact given _ (.cons info (.cons trace (.cons warn .nil)))
  · obtain ⟨ps, -, unique, -, -, refused⟩ := specs_are_read_by_their_pieces "debug,a=b=info,=x"
    have cut : ["debug".toList, "a".toList ++ '=' :: "b=info".toList, "=x".toList] = ps :=
      unique _ (pieces_iff.mpr (by decide))
    have debug : Means "debug".toList (.base .debug) := .base (by decide) (names_iff.mpr (by decide))
    have unnamed : ∀ level, ¬Names level "b=info".toList := by
      intro level
      rw [names_iff]
      cases level <;> decide
    have fault : Fault ("a".toList ++ '=' :: "b=info".toList) ("invalid log level: " ++ String.ofList "b=info".toList) :=
      .targetLevel (by decide) (trimBlanks_eq_nil_iff.not.mp (by decide)) unnamed
    subst cut
    obtain ⟨cause, read, worded⟩ := (refused _).mpr ⟨[_], _, [_], rfl, List.forall_mem_singleton.mpr ⟨_, debug⟩, fault⟩
    exact ⟨cause, read, worded⟩

end Messaging.Log
