import Mathlib.Data.List.Basic
import Mathlib.Data.List.Induction
import Messaging.Proofs.Log.Filters

/-! Filters built target by target. A target keeps the level that it was given last, and of the targets that speak for
    a path the longest decides. So neither the order of the targets nor their earlier levels can be told from the
    levels of paths. -/

namespace Messaging.Log

/-- The filter with a base in which targets were given levels, one after the other. -/
def Filter.given (base : Level) (settings : List (String × Level)) : Filter :=
  settings.foldl (fun f e => f.withTarget e.1 e.2) (.uniform base)

/-- The target got this level, and none after it. -/
def GivenLast (settings : List (String × Level)) (target : String) (level : Level) : Prop :=
  ∃ before after, settings = before ++ (target, level) :: after ∧ ∀ e ∈ after, e.1 ≠ target

/-- The longest of the targets that speak for a path, with the level it was given last. -/
structure Decides (settings : List (String × Level)) (path target : String) (level : Level) : Prop where
  given : GivenLast settings target level
  under : Under target path
  longest : ∀ e ∈ settings, Under e.1 path → e.1.utf8ByteSize ≤ target.utf8ByteSize

variable {base level : Level} {settings other : List (String × Level)} {e : String × Level} {target path : String}

theorem given_concat (base : Level) (settings : List (String × Level)) (e : String × Level) :
    Filter.given base (settings ++ [e]) = (Filter.given base settings).withTarget e.1 e.2 :=
  List.foldl_concat _ _ _ _

/-- Targets are given levels whatever the base is. -/
theorem given_base (base level : Level) (settings : List (String × Level)) :
    { Filter.given base settings with base := level } = Filter.given level settings := by
  induction settings using List.reverseRecOn with
  | nil => rfl
  | append_singleton settings e ih =>
    rw [given_concat, given_concat, ← ih]
    rfl

theorem base_given (base : Level) (settings : List (String × Level)) : (Filter.given base settings).base = base := by
  rw [← given_base base base settings]

theorem tidy_given (base : Level) (settings : List (String × Level)) : Tidy (Filter.given base settings).targets := by
  induction settings using List.reverseRecOn with
  | nil => exact Filter.tidy_uniform base
  | append_singleton settings e ih =>
    rw [given_concat]
    exact Filter.tidy_withTarget ih e.1 e.2

/-! ### Levels given last -/

theorem givenLast_nil : ¬GivenLast [] target level := by
  rintro ⟨before, after, split, -⟩
  cases before <;> cases split

theorem givenLast_concat : GivenLast (settings ++ [e]) target level ↔
    (target, level) = e ∨ target ≠ e.1 ∧ GivenLast settings target level := by
  constructor
  · rintro ⟨before, after, split, last⟩
    rcases List.eq_nil_or_concat' after with rfl | ⟨after, k, rfl⟩
    · obtain rfl := List.singleton_inj.mp (List.append_inj_right' split rfl)
      exact Or.inl rfl
    · rw [← List.cons_append, ← List.append_assoc] at split
      obtain ⟨rfl, same⟩ := List.append_inj' split rfl
      obtain rfl := List.singleton_inj.mp same
      exact Or.inr ⟨(last e (by simp)).symm, before, after, rfl, fun k mem => last k (List.mem_append_left _ mem)⟩
  · rintro (rfl | ⟨differs, before, after, rfl, last⟩)
    · exact ⟨settings, [], rfl, nofun⟩
    · refine ⟨before, after ++ [e], by simp, fun k mem => ?_⟩
      rcases List.mem_append.mp mem with mem | mem
      · exact last k mem
      · rw [List.mem_singleton.mp mem]
        exact differs.symm

theorem mem_withTarget {f : Filter} : e ∈ (f.withTarget target level).targets ↔
    e = (target, level) ∨ e.1 ≠ target ∧ e ∈ f.targets := by
  show e ∈ Filter.place (target, level) _ ↔ _
  rw [(Filter.perm_place _ _).mem_iff, List.mem_cons, List.mem_filter, decide_eq_true_eq, and_comm]

theorem mem_given : (target, level) ∈ (Filter.given base settings).targets ↔ GivenLast settings target level := by
  induction settings using List.reverseRecOn with
  | nil => exact iff_of_false List.not_mem_nil givenLast_nil
  | append_singleton settings e ih => rw [given_concat, mem_withTarget, givenLast_concat, ih]

/-- A target that was given a level was given one last. -/
theorem exists_givenLast (mem : e ∈ settings) : ∃ level, GivenLast settings e.1 level := by
  induction settings using List.reverseRecOn with
  | nil => cases mem
  | append_singleton settings k ih =>
    by_cases here : e.1 = k.1
    · exact ⟨k.2, givenLast_concat.mpr (Or.inl (by rw [here]))⟩
    · rcases List.mem_append.mp mem with mem | mem
      · obtain ⟨level, given⟩ := ih mem
        exact ⟨level, givenLast_concat.mpr (Or.inr ⟨here, given⟩)⟩
      · rw [List.mem_singleton.mp mem] at here
        exact absurd rfl here

theorem GivenLast.mem (given : GivenLast settings target level) : (target, level) ∈ settings := by
  obtain ⟨before, after, rfl, -⟩ := given
  simp

/-! ### The levels of paths -/

theorem decides_of_mem (mem : e ∈ (Filter.given base settings).targets) (covered : covers e.1 path = true)
    (longest : ∀ k ∈ (Filter.given base settings).targets, covers k.1 path = true →
      k.1.utf8ByteSize ≤ e.1.utf8ByteSize) : Decides settings path e.1 e.2 where
  given := mem_given.mp mem
  under := covers_iff.mp covered
  longest k there under := by
    obtain ⟨level, given⟩ := exists_givenLast there
    exact longest (k.1, level) (mem_given.mpr given) (covers_iff.mpr under)

/-- Only one target decides about a path, and only with one level. -/
theorem Decides.unique {target' : String} {level' : Level} (first : Decides settings path target level)
    (second : Decides settings path target' level') : target = target' ∧ level = level' := by
  have same : target = target' := eq_of_covers (covers_iff.mpr first.under) (covers_iff.mpr second.under)
    (first.longest _ second.given.mem second.under) (second.longest _ first.given.mem first.under)
  have mem : (target, level) ∈ (Filter.given .error settings).targets := mem_given.mpr first.given
  have mem' : (target', level') ∈ (Filter.given .error settings).targets := mem_given.mpr second.given
  exact Prod.mk.inj ((tidy_given .error settings).eq_of_fst mem mem' same)

theorem levelFor_given_cases (base : Level) (settings : List (String × Level)) (path : String) :
    (∃ target, Decides settings path target ((Filter.given base settings).levelFor path)) ∨
    (∀ e ∈ settings, ¬Under e.1 path) ∧ (Filter.given base settings).levelFor path = base := by
  rcases Filter.levelFor_cases (tidy_given base settings) path with ⟨e, mem, covered, level, longest⟩ | ⟨bare, level⟩
  · rw [level]
    exact Or.inl ⟨e.1, decides_of_mem mem covered longest⟩
  · refine Or.inr ⟨fun e mem under => ?_, level.trans (base_given base settings)⟩
    obtain ⟨level, given⟩ := exists_givenLast mem
    have away := bare _ (mem_given.mpr given)
    rw [covers_iff.mpr under] at away
    cases away

theorem levelFor_given_iff : (Filter.given base settings).levelFor path = level ↔
    (∃ target, Decides settings path target level) ∨ (∀ e ∈ settings, ¬Under e.1 path) ∧ level = base := by
  have cases := levelFor_given_cases base settings path
  constructor
  · rintro rfl
    exact cases
  · rintro (⟨target, decides⟩ | ⟨bare, rfl⟩)
    · rcases cases with ⟨_, other⟩ | ⟨bare, -⟩
      · exact (other.unique decides).2
      · exact absurd decides.under (bare _ decides.given.mem)
    · rcases cases with ⟨_, other⟩ | ⟨-, level⟩
      · exact absurd other.under (bare _ other.given.mem)
      · exact level

theorem levelFor_congr (same : ∀ target level, GivenLast other target level ↔ GivenLast settings target level)
    (base : Level) (path : String) :
    (Filter.given base other).levelFor path = (Filter.given base settings).levelFor path := by
  have listed {k : String × Level} (mem : k ∈ other) : ∃ e ∈ settings, e.1 = k.1 := by
    obtain ⟨level, given⟩ := exists_givenLast mem
    exact ⟨_, ((same _ _).mp given).mem, rfl⟩
  rw [levelFor_given_iff]
  rcases levelFor_given_cases base settings path with ⟨target, decides⟩ | ⟨bare, level⟩
  · refine Or.inl ⟨target, (same _ _).mpr decides.given, decides.under, fun k mem under => ?_⟩
    obtain ⟨e, there, named⟩ := listed mem
    rw [← named] at under ⊢
    exact decides.longest e there under
  · refine Or.inr ⟨fun k mem under => ?_, level⟩
    obtain ⟨e, there, named⟩ := listed mem
    exact bare e there (by rwa [named])

/-- A filter built target by target keeps its base and has each target once, with the level it was given last, the
    longer ones first. The level of a path is the last one of the longest target that the path is or lies below, and
    the base if there is no such target. So two orders in which the targets get the same levels last cannot be told
    apart. -/
theorem longest_target_decides (base : Level) (settings : List (String × Level)) :
    (Filter.given base settings).base = base ∧ Tidy (Filter.given base settings).targets ∧
    (∀ target level, (target, level) ∈ (Filter.given base settings).targets ↔ GivenLast settings target level) ∧
    (∀ path level, (Filter.given base settings).levelFor path = level ↔
      (∃ target, Decides settings path target level) ∨ (∀ e ∈ settings, ¬Under e.1 path) ∧ level = base) ∧
    ∀ other, (∀ target level, GivenLast other target level ↔ GivenLast settings target level) →
      ∀ path, (Filter.given base other).levelFor path = (Filter.given base settings).levelFor path :=
  ⟨base_given base settings, tidy_given base settings, fun _ _ => mem_given, fun _ _ => levelFor_given_iff,
    fun _ same path => levelFor_congr same base path⟩

/-- Two targets, one below the other; the outer one gets another level in the end. -/
def nested : List (String × Level) := [("a", .trace), ("a::b", .warn), ("a", .info)]

/-- The inner target decides about the paths below it and the outer one about the others, by the level that it got in the
    end; a path that only looks like theirs has the base. Giving the levels in another order is the same. -/
theorem inner_target_decides : (Filter.given .error nested).levelFor "a::b::c" = .warn ∧
    (Filter.given .error nested).levelFor "a::c" = .info ∧ (Filter.given .error nested).levelFor "ab" = .error ∧
    ∀ path, (Filter.given .error [("a", .info), ("a::b", .warn)]).levelFor path =
      (Filter.given .error nested).levelFor path := by
  obtain ⟨-, -, -, levels, orders⟩ := longest_target_decides .error nested
  have outer : GivenLast nested "a" .info := ⟨[("a", .trace), ("a::b", .warn)], [], rfl, nofun⟩
  have inner : GivenLast nested "a::b" .warn := ⟨[("a", .trace)], [("a", .info)], rfl, by decide⟩
  have below {target path : String} (covered : covers target path = true) : Under target path := covers_iff.mp covered
  have away {target path : String} (uncovered : covers target path = false) : ¬Under target path := by
    rw [← covers_iff, uncovered]
    exact Bool.false_ne_true
  refine ⟨(levels _ _).mpr (Or.inl ⟨"a::b", inner, below rfl, ?_⟩), (levels _ _).mpr (Or.inl ⟨"a", outer, below rfl, ?_⟩),
    (levels _ _).mpr (Or.inr ⟨?_, rfl⟩), orders _ fun target level => ?_⟩
  · have sizes : ∀ e ∈ nested, e.1.utf8ByteSize ≤ "a::b".utf8ByteSize := by decide
    exact fun e mem _ => sizes e mem
  · have uncovered : ∀ e ∈ nested, covers e.1 "a::c" = true → e.1.utf8ByteSize ≤ "a".utf8ByteSize := by decide
    exact fun e mem under => uncovered e mem (covers_iff.mpr under)
  · have uncovered : ∀ e ∈ nested, covers e.1 "ab" = false := by decide
    exact fun e mem => away (uncovered e mem)
  · show GivenLast ([] ++ [("a", .info)] ++ [("a::b", .warn)]) target level ↔
      GivenLast ([] ++ [("a", .trace)] ++ [("a::b", .warn)] ++ [("a", .info)]) target level
    simp only [givenLast_concat, givenLast_nil, Prod.mk.injEq]
    grind

end Messaging.Log
