import Mathlib.Data.List.Nodup
import Messaging.Log.Directive

/-! Filters as they are built. Their targets stand longest first and each once, so a target is never shadowed on
    its own path, and the ceiling of a filter is the level of some path: of a target, or of one that no target
    speaks for. -/

namespace Messaging.Log

namespace Level
variable {a b c : Level}

theorem le_refl (a : Level) : a ≤ a := Nat.le_refl a.rank

theorem le_trans (ab : a ≤ b) (bc : b ≤ c) : a ≤ c := Nat.le_trans ab bc

theorem max_cases (a b : Level) : (a.max b = a ∨ a.max b = b) ∧ a ≤ a.max b ∧ b ≤ a.max b := by
  unfold Level.max
  split
  · next le => exact ⟨Or.inr rfl, le, le_refl b⟩
  · next above => exact ⟨Or.inl rfl, le_refl a, Nat.le_of_not_le above⟩

end Level

/-- The path is the target or lies below it. -/
def Under (target path : String) : Prop := path = target ∨ ∃ rest, path = target ++ "::" ++ rest

/-- A target speaks for its own path and for those below it. -/
theorem covers_iff {target path : String} : covers target path = true ↔ Under target path := by
  unfold covers Under
  simp only [Bool.and_eq_true, Bool.or_eq_true, List.isPrefixOf_iff_prefix, List.isEmpty_iff]
  constructor
  · rintro ⟨⟨rest, split⟩, ends⟩
    rw [← split, List.drop_left] at ends
    rcases ends with rfl | ⟨below, rfl⟩
    · exact Or.inl (String.toList_inj.mp (by rw [← split, List.append_nil]))
    · refine Or.inr ⟨String.ofList below, String.toList_inj.mp ?_⟩
      rw [← split]
      simp
  · rintro (rfl | ⟨rest, rfl⟩)
    · simp
    · simp

theorem covers_self (target : String) : covers target target = true := covers_iff.mpr (Or.inl rfl)

/-- What covers a path is no longer than the path. -/
theorem size_le_of_covers {target path : String} (covered : covers target path = true) :
    target.utf8ByteSize ≤ path.utf8ByteSize := by
  rcases covers_iff.mp covered with rfl | ⟨rest, rfl⟩
  · exact Nat.le_refl _
  · rw [String.utf8ByteSize_append, String.utf8ByteSize_append]
    omega

/-- Two targets that cover one path are told apart by their length, since both are beginnings of the path. -/
theorem eq_of_covers {target other path : String} (covered : covers target path = true)
    (covered' : covers other path = true) (long : other.utf8ByteSize ≤ target.utf8ByteSize)
    (short : target.utf8ByteSize ≤ other.utf8ByteSize) : target = other := by
  have beginning {target : String} (covered : covers target path = true) : target.toList <+: path.toList := by
    rcases covers_iff.mp covered with rfl | ⟨rest, rfl⟩
    · exact List.prefix_refl _
    · exact ⟨("::" ++ rest).toList, by simp⟩
  have no_more {target other : String} (begins : target.toList <+: other.toList)
      (short : other.utf8ByteSize ≤ target.utf8ByteSize) : target = other := by
    obtain ⟨more, split⟩ := begins
    obtain rfl : target ++ String.ofList more = other := String.toList_inj.mp (by simpa using split)
    rw [String.utf8ByteSize_append] at short
    have none : String.ofList more = "" := String.utf8ByteSize_eq_zero_iff.mp (by omega)
    rw [none, String.append_empty]
  rcases List.prefix_or_prefix_of_prefix (beginning covered) (beginning covered') with begins | begins
  · exact no_more begins long
  · exact (no_more begins short).symm

/-! ### Targets in order -/

/-- The targets stand longest first, and each of them once. -/
structure Tidy (targets : List (String × Level)) : Prop where
  sorted : targets.Pairwise fun e below => below.1.utf8ByteSize ≤ e.1.utf8ByteSize
  once : (targets.map Prod.fst).Nodup

/-- The targets of a tidy list are told apart by their paths. -/
theorem Tidy.eq_of_fst {targets : List (String × Level)} {e k : String × Level} (tidy : Tidy targets) (mem : e ∈ targets)
    (mem' : k ∈ targets) (same : e.1 = k.1) : e = k :=
  List.inj_on_of_nodup_map tidy.once mem mem' same

namespace Filter
variable {f : Filter} {e entry : String × Level} {targets : List (String × Level)} {path : String}

theorem place_cons : place entry (e :: targets) =
    if entry.1.utf8ByteSize ≤ e.1.utf8ByteSize then e :: place entry targets else entry :: e :: targets := by
  unfold place
  by_cases longer : entry.1.utf8ByteSize ≤ e.1.utf8ByteSize <;> simp [longer]

theorem perm_place (entry : String × Level) (targets : List (String × Level)) :
    (place entry targets).Perm (entry :: targets) := by
  have split := @List.perm_middle _ entry (targets.takeWhile fun e => decide (entry.1.utf8ByteSize ≤ e.1.utf8ByteSize))
    (targets.dropWhile fun e => decide (entry.1.utf8ByteSize ≤ e.1.utf8ByteSize))
  rwa [List.takeWhile_append_dropWhile] at split

theorem sorted_place (sorted : targets.Pairwise fun e below => below.1.utf8ByteSize ≤ e.1.utf8ByteSize) :
    (place entry targets).Pairwise fun e below => below.1.utf8ByteSize ≤ e.1.utf8ByteSize := by
  induction targets with
  | nil => exact List.pairwise_singleton _ _
  | cons e targets ih =>
    obtain ⟨first, rest⟩ := List.pairwise_cons.mp sorted
    rw [place_cons]
    split
    · next longer =>
      refine List.pairwise_cons.mpr ⟨fun b mem => ?_, ih rest⟩
      rcases List.mem_cons.mp ((perm_place entry targets).mem_iff.mp mem) with rfl | old
      · exact longer
      · exact first b old
    · next shorter =>
      refine List.pairwise_cons.mpr ⟨fun b mem => ?_, sorted⟩
      rcases List.mem_cons.mp mem with rfl | old
      · omega
      · have := first b old
        omega

theorem tidy_withTarget (tidy : Tidy f.targets) (target : String) (level : Level) :
    Tidy (f.withTarget target level).targets where
  sorted := sorted_place (tidy.sorted.filter _)
  once := by
    refine ((perm_place _ _).map Prod.fst).nodup_iff.mpr (List.nodup_cons.mpr ⟨fun mem => ?_, ?_⟩)
    · obtain ⟨e, kept, same⟩ := List.mem_map.mp mem
      exact of_decide_eq_true (List.mem_filter.mp kept).2 same
    · exact tidy.once.sublist (List.filter_sublist.map Prod.fst)

/-! ### Filters that can be made -/

/-- A filter that was built target by target, or read from a spec. -/
inductive Made : Filter → Prop
  | uniform (level : Level) : Made (uniform level)
  | withTarget {f : Filter} (made : Made f) (target : String) (level : Level) : Made (f.withTarget target level)
  | ofSpec {f : Filter} {spec : String} (read : ofSpec spec = .ok f) : Made f

theorem tidy_uniform (level : Level) : Tidy (uniform level).targets := ⟨List.Pairwise.nil, List.nodup_nil⟩

theorem tidy_apply (tidy : Tidy f.targets) (d : Directive) : Tidy (d.apply f).targets := by
  cases d with
  | base level => exact tidy
  | target name level => exact tidy_withTarget tidy name level

theorem tidy_ofSpec {spec : String} (read : ofSpec spec = .ok f) : Tidy f.targets := by
  have folded (directives : List Directive) : ∀ g : Filter, Tidy g.targets →
      Tidy (directives.foldl Directive.apply g).targets := by
    induction directives with
    | nil => exact fun _ tidy => tidy
    | cons d rest ih => exact fun g tidy => ih _ (tidy_apply tidy d)
  unfold ofSpec at read
  cases pieces : (pieces spec).mapM Directive.read with
  | error cause =>
    rw [pieces] at read
    cases read
  | ok directives =>
    rw [pieces] at read
    cases read
    exact folded directives _ (tidy_uniform .error)

theorem Made.tidy (made : f.Made) : Tidy f.targets := by
  induction made with
  | uniform level => exact tidy_uniform level
  | withTarget _ target level ih => exact tidy_withTarget ih target level
  | ofSpec read => exact tidy_ofSpec read

/-! ### The level of a path -/

theorem levelFor_eq_base (bare : ∀ e ∈ f.targets, covers e.1 path = false) : f.levelFor path = f.base := by
  have none : (f.targets.find? fun e => covers e.1 path) = none :=
    List.find?_eq_none.mpr fun e mem covered => by rw [bare e mem] at covered; cases covered
  unfold levelFor
  rw [none]

/-- The first target that covers a path is the longest of those that do. -/
theorem levelFor_cases (tidy : Tidy f.targets) (path : String) :
    (∃ e ∈ f.targets, covers e.1 path = true ∧ f.levelFor path = e.2 ∧
      ∀ k ∈ f.targets, covers k.1 path = true → k.1.utf8ByteSize ≤ e.1.utf8ByteSize) ∨
    ((∀ e ∈ f.targets, covers e.1 path = false) ∧ f.levelFor path = f.base) := by
  cases found : f.targets.find? fun e => covers e.1 path with
  | none =>
    have bare : ∀ e ∈ f.targets, covers e.1 path = false := fun e mem => by
      simpa using List.find?_eq_none.mp found e mem
    exact Or.inr ⟨bare, levelFor_eq_base bare⟩
  | some e =>
    obtain ⟨covered, before, after, split, none⟩ := List.find?_eq_some_iff_append.mp found
    refine Or.inl ⟨e, List.mem_of_find?_eq_some found, covered, ?_, fun k mem covered' => ?_⟩
    · unfold levelFor
      rw [found]
    · have sorted := tidy.sorted
      rw [split, List.pairwise_append, List.pairwise_cons] at sorted
      rw [split] at mem
      rcases List.mem_append.mp mem with early | late
      · have away := none k early
        rw [covered'] at away
        cases away
      · rcases List.mem_cons.mp late with rfl | late
        · exact Nat.le_refl _
        · exact sorted.2.1.1 k late

/-- On its own path no other target comes before a target: a longer one does not cover the path. -/
theorem levelFor_target (tidy : Tidy f.targets) (mem : e ∈ f.targets) : f.levelFor e.1 = e.2 := by
  rcases levelFor_cases tidy e.1 with ⟨k, there, covered, level, longest⟩ | ⟨bare, -⟩
  · have same := eq_of_covers covered (covers_self e.1) (longest e mem (covers_self e.1)) (size_le_of_covers covered)
    rw [level, tidy.eq_of_fst there mem same]
  · have away := bare e mem
    rw [covers_self] at away
    cases away

/-- For any targets there is a path that none of them speaks for. -/
theorem exists_uncovered (targets : List (String × Level)) : ∃ path, ∀ e ∈ targets, covers e.1 path = false := by
  have longer : ∃ n, ∀ e ∈ targets, e.1.toList.length < n := by
    induction targets with
    | nil => exact ⟨0, nofun⟩
    | cons e rest ih =>
      obtain ⟨n, longer⟩ := ih
      refine ⟨max n (e.1.toList.length + 1), fun k mem => ?_⟩
      rcases List.mem_cons.mp mem with rfl | mem
      · omega
      · have := longer k mem
        omega
  -- Only a target that is the path itself could speak for a path without colons.
  obtain ⟨n, longer⟩ := longer
  refine ⟨String.ofList (List.replicate n 'x'), fun e mem => ?_⟩
  rw [← Bool.not_eq_true, covers_iff]
  rintro (same | ⟨rest, same⟩)
  · have short := longer e mem
    rw [← same, String.toList_ofList, List.length_replicate] at short
    exact Nat.lt_irrefl _ short
  · have colon : ':' ∈ (e.1 ++ "::" ++ rest).toList := by simp
    rw [← same, String.toList_ofList] at colon
    cases List.eq_of_mem_replicate colon

/-! ### The ceiling -/

/-- The ceiling is the base or the level of a target, and neither is above it. -/
theorem ceiling_spec (f : Filter) : (f.ceiling = f.base ∨ ∃ e ∈ f.targets, f.ceiling = e.2) ∧
    f.base ≤ f.ceiling ∧ ∀ e ∈ f.targets, e.2 ≤ f.ceiling := by
  obtain ⟨base, targets⟩ := f
  unfold Filter.ceiling
  dsimp only
  induction targets generalizing base with
  | nil => exact ⟨Or.inl rfl, Level.le_refl base, nofun⟩
  | cons e rest ih =>
    rw [List.foldl_cons]
    obtain ⟨reached, above, others⟩ := ih (base.max e.2)
    obtain ⟨taken, left, right⟩ := Level.max_cases base e.2
    refine ⟨?_, Level.le_trans left above, fun k mem => ?_⟩
    · rcases reached with same | ⟨k, mem, same⟩
      · rcases taken with here | here
        · exact Or.inl (same.trans here)
        · exact Or.inr ⟨e, List.mem_cons_self, same.trans here⟩
      · exact Or.inr ⟨k, List.mem_cons_of_mem _ mem, same⟩
    · rcases List.mem_cons.mp mem with rfl | mem
      · exact Level.le_trans right above
      · exact others k mem

theorem levelFor_le_ceiling (f : Filter) (path : String) : f.levelFor path ≤ f.ceiling := by
  obtain ⟨-, base, targets⟩ := f.ceiling_spec
  unfold levelFor
  split
  · next e found => exact targets e (List.mem_of_find?_eq_some found)
  · exact base

/-- Some path has the ceiling as its level. -/
theorem exists_levelFor_eq_ceiling (tidy : Tidy f.targets) : ∃ path, f.levelFor path = f.ceiling := by
  obtain ⟨same | ⟨e, mem, same⟩, -⟩ := f.ceiling_spec
  · obtain ⟨path, bare⟩ := exists_uncovered f.targets
    exact ⟨path, (levelFor_eq_base bare).trans same.symm⟩
  · exact ⟨e.1, (levelFor_target tidy mem).trans same.symm⟩

end Filter
end Messaging.Log
