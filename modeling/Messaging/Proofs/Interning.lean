import Mathlib.Data.List.Induction
import Mathlib.Data.List.Nodup
import Messaging.Selector

/-! Interned names. The names are divided into shards, but what is asked of the table it answers like one list of names:
    the handle of a name is its place in the order of interning, with the name and its hash. All of it holds with any
    hash, so names with equal hashes, or only with equal shards, are told apart. -/

namespace Messaging
namespace SelectorTable

/-- What a table is asked for. -/
inductive Request
  | register (name : String)
  | lookup (name : String)
  | parse (name : String)

/-- What a table answers. -/
inductive Reply
  | handle (s : Selector)
  | absent
  | refused (cause : RegistrationError)
deriving DecidableEq

/-- The name that a request interns if it is not yet. A lookup interns none, and the empty name is not read. -/
def Request.name? : Request → Option String
  | register name => some name
  | lookup _ => none
  | parse name => if name = "" then none else some name

/-! ### One list of names -/

/-- A list of names with one more, unless it is there. -/
def noting (names : List String) (name : String) : List String := if name ∈ names then names else names ++ [name]

/-- The names that requests interned, in the order in which they first did. -/
def interned (requests : List Request) : List String := (requests.filterMap Request.name?).foldl noting []

variable {t u v : SelectorTable} {s : Selector} {names : List String} {name other : String} {r : Request}
  {before rest requests : List Request}

theorem mem_noting : other ∈ noting names name ↔ other ∈ names ∨ other = name := by
  unfold noting
  split
  · next mem =>
    constructor
    · exact Or.inl
    · rintro (here | rfl)
      · exact here
      · exact mem
  · rw [List.mem_append, List.mem_singleton]

theorem nodup_noting (once : names.Nodup) : (noting names name).Nodup := by
  unfold noting
  split
  · exact once
  · next new => exact List.nodup_append_comm.mp (List.nodup_cons.mpr ⟨new, once⟩)

theorem mem_foldl_noting {l : List String} : name ∈ l.foldl noting names ↔ name ∈ names ∨ name ∈ l := by
  induction l generalizing names with
  | nil => simp
  | cons first rest ih => rw [List.foldl_cons, ih, mem_noting, List.mem_cons, or_assoc]

theorem mem_interned : name ∈ interned requests ↔ ∃ r ∈ requests, r.name? = some name := by
  unfold interned
  rw [mem_foldl_noting, List.mem_filterMap, or_iff_right List.not_mem_nil]

theorem interned_append : interned (before ++ rest) = (rest.filterMap Request.name?).foldl noting (interned before) := by
  unfold interned
  rw [List.filterMap_append, List.foldl_append]

theorem shard_set (selectors : List Selector) (count : Nat) (hash place : UInt64) :
    (SelectorTable.mk (t.shards.set (shardOf place) selectors (shardOf place).isLt) count).shard hash =
      if shardOf place = shardOf hash then selectors else t.shard hash := by
  unfold shard
  rw [Fin.getElem_fin, Vector.getElem_set]
  simp only [Fin.ext_iff]
  rfl

/-! ### Handles of names

Which handles are given out depends on the hash, of which nothing is assumed. -/

section
variable [NameHasher]

def answer (t : SelectorTable) : Request → Reply × SelectorTable
  | .register name => (.handle (t.register name).1, (t.register name).2)
  | .lookup name => ((t.lookup? name).elim .absent .handle, t)
  | .parse name => match t.parse name with
    | .ok (s, t) => (.handle s, t)
    | .error cause => (.refused cause, t)

/-- The table after some requests. -/
def after (requests : List Request) : SelectorTable := requests.foldl (fun t r => (t.answer r).2) empty

/-- The handle of a name among others: its own place, or the next one. -/
def handleIn (names : List String) (name : String) : Selector := ⟨names.idxOf name, name, NameHasher.hash name⟩

/-- What one list of names answers. -/
def replyIn (names : List String) : Request → Reply
  | .register name => .handle (handleIn names name)
  | .lookup name => if name ∈ names then .handle (handleIn names name) else .absent
  | .parse name => if name = "" then .refused .invalidSelector else .handle (handleIn names name)

/-- A handle of one of the names. -/
def IsHandle (names : List String) (s : Selector) : Prop := s.name ∈ names ∧ s = handleIn names s.name

/-- A table holds the names of a list: the handle of each is in the shard that its hash selects and in no other. -/
structure Holds (t : SelectorTable) (names : List String) : Prop where
  once : names.Nodup
  count : t.count = names.length
  placed : ∀ (i : Fin shardCount) s, s ∈ t.shards[i] ↔ IsHandle names s ∧ shardOf s.hash = i

theorem handleIn_noting (mem : other ∈ names) : handleIn (noting names name) other = handleIn names other := by
  unfold noting handleIn
  split
  · rfl
  · rw [List.idxOf_append_of_mem mem]

/-- A name that comes in has the handle that was announced for it. -/
theorem handleIn_noting_self : handleIn (noting names name) name = handleIn names name := by
  by_cases mem : name ∈ names
  · exact handleIn_noting mem
  · unfold noting handleIn
    rw [if_neg mem, List.idxOf_append_of_notMem mem, List.idxOf_cons_self, List.idxOf_eq_length mem, Nat.add_zero]

theorem isHandle_noting : IsHandle (noting names name) s ↔ IsHandle names s ∨ s = handleIn names name := by
  unfold IsHandle
  constructor
  · rintro ⟨mem, same⟩
    rcases mem_noting.mp mem with mem | last
    · exact Or.inl ⟨mem, by rwa [handleIn_noting mem] at same⟩
    · exact Or.inr (by rwa [last, handleIn_noting_self] at same)
  · rintro (⟨mem, same⟩ | rfl)
    · exact ⟨mem_noting.mpr (Or.inl mem), by rwa [handleIn_noting mem]⟩
    · exact ⟨mem_noting.mpr (Or.inr rfl), handleIn_noting_self.symm⟩

/-- Two names of a list are told apart by their places alone. -/
theorem serial_handleIn_inj (mem : name ∈ names) :
    (handleIn names name).serial = (handleIn names other).serial ↔ name = other :=
  List.idxOf_inj mem

/-! ### Handles that were given out -/

/-- The handles that were given out stay. -/
def Grows (t u : SelectorTable) : Prop := ∀ name s, t.lookup? name = some s → u.lookup? name = some s

theorem Grows.refl (t : SelectorTable) : t.Grows t := fun _ _ => id

theorem Grows.trans (first : t.Grows u) (second : u.Grows v) : t.Grows v :=
  fun name s found => second name s (first name s found)

theorem name_of_lookup? (found : t.lookup? name = some s) : s.name = name := by
  simpa using List.find?_some found

theorem register_of_lookup? (found : t.lookup? name = some s) : t.register name = (s, t) := by
  unfold register
  rw [found]

/-- A name that is new comes into one shard, before the names that are there. -/
theorem lookup?_register (name : String) : (t.register name).2.lookup? other =
    if name = other then some (t.register name).1 else t.lookup? other := by
  cases found : t.lookup? name with
  | some s =>
    rw [register_of_lookup? found]
    split
    · next same => rw [← same, found]
    · rfl
  | none =>
    unfold register
    rw [found]
    dsimp only
    unfold lookup?
    rw [shard_set]
    by_cases same : name = other
    · subst same
      rw [if_pos rfl, if_pos rfl, List.find?_cons_of_pos (by simp)]
    · rw [if_neg same]
      split
      · next here =>
        rw [List.find?_cons_of_neg (by simpa using same)]
        simp only [shard, here]
      · rfl

theorem grows_register (t : SelectorTable) (name : String) : t.Grows (t.register name).2 := by
  intro other s found
  rw [lookup?_register]
  split
  · next same =>
    rw [← same] at found
    rw [register_of_lookup? found]
  · exact found

theorem name_register (t : SelectorTable) (name : String) : (t.register name).1.name = name := by
  refine name_of_lookup? (t := (t.register name).2) ?_
  rw [lookup?_register, if_pos rfl]

/-! ### One request -/

namespace Holds

theorem empty : empty.Holds [] where
  once := List.nodup_nil
  count := rfl
  placed i s := by simp [SelectorTable.empty, IsHandle]

theorem lookup?_eq (holds : t.Holds names) (name : String) :
    t.lookup? name = if name ∈ names then some (handleIn names name) else none := by
  have found (s : Selector) : s ∈ t.shard (NameHasher.hash name) ∧ s.name = name ↔ name ∈ names ∧ s = handleIn names name := by
    unfold shard
    rw [holds.placed]
    constructor
    · rintro ⟨⟨handle, -⟩, rfl⟩
      exact handle
    · rintro ⟨mem, rfl⟩
      exact ⟨⟨⟨mem, rfl⟩, rfl⟩, rfl⟩
  unfold lookup?
  cases result : (t.shard (NameHasher.hash name)).find? fun s => s.name == name with
  | none =>
    rw [if_neg]
    intro mem
    obtain ⟨here, same⟩ := (found _).mpr ⟨mem, rfl⟩
    exact List.find?_eq_none.mp result _ here (beq_iff_eq.mpr same)
  | some s =>
    have same : s.name = name := by simpa using List.find?_some result
    obtain ⟨mem, rfl⟩ := (found s).mp ⟨List.mem_of_find?_eq_some result, same⟩
    rw [if_pos mem]

theorem register_eq (holds : t.Holds names) (name : String) : t.register name = (handleIn names name,
    if name ∈ names then t else
      ⟨t.shards.set (shardOf (NameHasher.hash name)) (handleIn names name :: t.shard (NameHasher.hash name))
        (shardOf (NameHasher.hash name)).isLt, t.count + 1⟩) := by
  unfold SelectorTable.register
  rw [holds.lookup?_eq]
  by_cases mem : name ∈ names
  · rw [if_pos mem, if_pos mem]
  · have next : handleIn names name = ⟨t.count, name, NameHasher.hash name⟩ := by
      rw [handleIn, List.idxOf_eq_length mem, holds.count]
    rw [if_neg mem, if_neg mem, next]

theorem register_fst (holds : t.Holds names) (name : String) : (t.register name).1 = handleIn names name :=
  congrArg Prod.fst (holds.register_eq name)

/-- A new name comes into the shard that its hash selects, and the other shards stay as they are. -/
theorem register (holds : t.Holds names) (name : String) : (t.register name).2.Holds (noting names name) := by
  rw [holds.register_eq]
  by_cases mem : name ∈ names
  · rw [if_pos mem, noting, if_pos mem]
    exact holds
  · rw [if_neg mem]
    refine ⟨nodup_noting holds.once, ?_, fun i s => ?_⟩
    · rw [noting, if_neg mem, List.length_append, holds.count, List.length_singleton]
    · rw [isHandle_noting, or_and_right, ← holds.placed, Fin.getElem_fin, Vector.getElem_set]
      split
      · next here =>
        obtain rfl : shardOf (NameHasher.hash name) = i := Fin.ext here
        rw [List.mem_cons, or_comm, iff_comm, and_iff_left_of_imp]
        · rfl
        · rintro rfl
          rfl
      · next other =>
        rw [iff_comm, or_iff_left]
        · rfl
        · rintro ⟨rfl, here⟩
          exact other (congrArg Fin.val here)

/-- A request is answered like by the list, and leaves a table that holds the name that it interned. -/
theorem answer (holds : t.Holds names) (r : Request) : (t.answer r).1 = replyIn names r ∧
    (t.answer r).2.Holds (match r.name? with
      | some name => noting names name
      | none => names) := by
  cases r with
  | register name => exact ⟨congrArg Reply.handle (holds.register_fst name), holds.register name⟩
  | lookup name =>
    refine ⟨?_, holds⟩
    dsimp only [SelectorTable.answer, replyIn]
    rw [holds.lookup?_eq]
    split <;> rfl
  | parse name =>
    dsimp only [SelectorTable.answer, replyIn, SelectorTable.parse, Request.name?]
    by_cases blank : name = ""
    · subst blank
      exact ⟨rfl, holds⟩
    · have full : name.isEmpty = false := by simpa using blank
      rw [full, if_neg blank, if_neg blank]
      exact ⟨congrArg Reply.handle (holds.register_fst name), holds.register name⟩

end Holds

/-! ### Runs -/

theorem after_append : after (before ++ rest) = rest.foldl (fun t r => (t.answer r).2) (after before) :=
  List.foldl_append

theorem holds_after (requests : List Request) : (after requests).Holds (interned requests) := by
  induction requests using List.reverseRecOn with
  | nil => exact .empty
  | append_singleton before r ih =>
    -- The last request comes to a table that holds what the ones before it interned.
    rw [after_append, interned_append, List.filterMap_cons]
    have answered := (ih.answer r).2
    cases interns : r.name? with
    | none =>
      rw [interns] at answered
      exact answered
    | some name =>
      rw [interns] at answered
      exact answered

theorem handleIn_foldl {l : List String} (mem : name ∈ names) : handleIn (l.foldl noting names) name = handleIn names name := by
  induction l generalizing names with
  | nil => rfl
  | cons first rest ih => rw [List.foldl_cons, ih (mem_noting.mpr (Or.inl mem)), handleIn_noting mem]

/-- The handle that a request gets for a name is the one that the name has from then on. -/
theorem handleIn_interned (interns : r.name? = some name) (rest : List Request) :
    handleIn (interned (before ++ r :: rest)) name = handleIn (interned before) name := by
  rw [interned_append, List.filterMap_cons, interns]
  dsimp only
  rw [List.foldl_cons, handleIn_foldl (mem_noting.mpr (Or.inr rfl)), handleIn_noting_self]

theorem answer_quiet (t : SelectorTable) (quiet : r.name? = none) : (t.answer r).2 = t := by
  cases r with
  | register name => cases quiet
  | lookup name => rfl
  | parse name =>
    obtain rfl : name = "" := by simpa [Request.name?] using quiet
    rfl

/-- Whatever names are hashed with, after any requests a table holds the names that they interned, each in its shard, and
    answers like the one list of them. The handle of a name bears the name and its hash, and at any two times of a run
    two names have the same handle, or handles of the same number, if and only if they are equal. A lookup finds that
    handle if a request before it interned the name, and else nothing. A request that interns nothing could as well be
    left out. -/
theorem names_are_interned_once (requests : List Request) :
    (after requests).Holds (interned requests) ∧
    (∀ r, ((after requests).answer r).1 = replyIn (interned requests) r) ∧
    (∀ name, ((after requests).register name).1.name = name ∧ ((after requests).register name).1.hash = NameHasher.hash name) ∧
    (∀ r rest name other, r.name? = some name →
      (((after requests).register name).1 = ((after (requests ++ r :: rest)).register other).1 ↔ name = other) ∧
      (((after requests).register name).1.serial = ((after (requests ++ r :: rest)).register other).1.serial ↔ name = other)) ∧
    (∀ name, (after requests).lookup? name =
      if ∃ r ∈ requests, r.name? = some name then some ((after requests).register name).1 else none) ∧
    ∀ r rest, r.name? = none → after (requests ++ r :: rest) = after (requests ++ rest) := by
  have holds := holds_after requests
  refine ⟨holds, fun r => (holds.answer r).1, fun name => ?_, fun r rest name other interns => ?_, fun name => ?_,
    fun r rest quiet => ?_⟩
  · rw [holds.register_fst]
    exact ⟨rfl, rfl⟩
  · have later := holds_after (requests ++ r :: rest)
    have mem : name ∈ interned (requests ++ r :: rest) := mem_interned.mpr ⟨r, by simp, interns⟩
    rw [holds.register_fst, later.register_fst, ← handleIn_interned interns rest]
    exact ⟨⟨congrArg Selector.name, fun same => by rw [same]⟩, serial_handleIn_inj mem⟩
  · simp only [holds.lookup?_eq, holds.register_fst, mem_interned]
  · rw [after_append, after_append, List.foldl_cons, answer_quiet _ quiet]

end

/-- A name that was only looked up is not interned. Once it was read it has a handle, which is not that of another name. -/
theorem name_is_interned_when_it_is_read :
    (after [.lookup "copy", .register "length"]).lookup? "copy" = none ∧
    (after [.lookup "copy", .register "length", .parse "copy", .parse ""]).lookup? "copy" =
      some ((after [.lookup "copy", .register "length"]).register "copy").1 ∧
    ((after [.lookup "copy", .register "length"]).register "copy").1 ≠
      ((after [.lookup "copy", .register "length", .parse "copy", .parse ""]).register "length").1 := by
  obtain ⟨-, -, -, same, found, -⟩ := names_are_interned_once [.lookup "copy", .register "length"]
  obtain ⟨-, -, -, -, later, -⟩ :=
    names_are_interned_once [.lookup "copy", .register "length", .parse "copy", .parse ""]
  have interns : Request.name? (.parse "copy") = some "copy" := by decide
  refine ⟨(found "copy").trans (if_neg (by decide)), ?_, fun equal => ?_⟩
  · rw [later "copy", if_pos ⟨_, by simp, interns⟩]
    exact congrArg some ((same _ [.parse ""] "copy" "copy" interns).1.mpr rfl).symm
  · have copied := (same _ [.parse ""] "copy" "length" interns).1.mp equal
    simp at copied

end SelectorTable
end Messaging
