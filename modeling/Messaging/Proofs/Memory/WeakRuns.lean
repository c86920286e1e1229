import Messaging.Proofs.Memory.WeakNames

/-! Runs over objects and weak references. A new object is placed wherever none lives, so also where one was
    freed before; `Memory.alloc` is the placement at an address that was never used. Over a whole run a slot
    names an object exactly when that was the last thing stored in it and the object was not freed since. -/

namespace Messaging
namespace WeakRuns

inductive Act
  | place (a : Address) (cls : ClassId)
  | retain (a : Address)
  | release (a : Address)
  | make
  | store (slot : SlotId) (target : Option Address)
  | load (slot : SlotId)
  | drop (slot : SlotId)

/-- The memory, and the slots that were made and not given up. -/
structure Stage where
  memory : Memory
  slots : List SlotId

/-- Only slots in use are worked with, and an operation on an object is one on a live object. -/
inductive Step (s : Stage) : Act → Stage → Prop
  | place (a : Address) (cls : ClassId) (free : s.memory.get? a = none) :
      Step s (.place a cls) { s with memory := s.memory.place a cls }
  | retain (a : Address) {m : Memory} (done : s.memory.retain a = some m) : Step s (.retain a) { s with memory := m }
  | release (a : Address) {m : Memory} (done : s.memory.release a = some m) : Step s (.release a) { s with memory := m }
  | make : Step s .make ⟨s.memory.newSlot.2, s.memory.newSlot.1 :: s.slots⟩
  | store (slot : SlotId) (target : Option Address) {m : Memory} (used : slot ∈ s.slots)
      (done : s.memory.storeWeak slot target = some m) : Step s (.store slot target) { s with memory := m }
  | load (slot : SlotId) {r : Option Address} {m : Memory} (used : slot ∈ s.slots)
      (done : s.memory.loadWeak slot = some (r, m)) : Step s (.load slot) { s with memory := m }
  | drop (slot : SlotId) (used : slot ∈ s.slots) :
      Step s (.drop slot) ⟨s.memory.dropWeak slot, s.slots.filter fun other => decide (other ≠ slot)⟩

/-- A step of a run. -/
structure Moment where
  before : Stage
  act : Act
  after : Stage

/-- A run from nothing, with its steps, the latest first. -/
inductive Run (start : Nat) : List Moment → Stage → Prop
  | start : Run start [] ⟨Memory.empty start, []⟩
  | step {history s act s'} (run : Run start history s) (step : Step s act s') : Run start (⟨s, act, s'⟩ :: history) s'

/-- The step frees the object at an address. -/
def Moment.Frees (x : Moment) (a : Address) : Prop :=
  (x.before.memory.get? a).isSome ∧ x.after.memory.get? a = none

/-- The last store in a slot was of this object, and the object was not freed since. -/
def StillNames (history : List Moment) (slot : SlotId) (a : Address) : Prop :=
  ∃ later x earlier, history = later ++ x :: earlier ∧ x.act = .store slot (some a) ∧
    ∀ y ∈ later, (∀ target, y.act ≠ .store slot target) ∧ ¬y.Frees a

variable {start : Nat} {history : List Moment} {s s' : Stage} {act : Act} {slot : SlotId} {a : Address}

theorem stillNames_cons {x : Moment} : StillNames (x :: history) slot a ↔ x.act = .store slot (some a) ∨
    ((∀ target, x.act ≠ .store slot target) ∧ ¬x.Frees a ∧ StillNames history slot a) := by
  constructor
  · rintro ⟨later, y, earlier, split, stores, kept⟩
    cases later with
    | nil =>
      cases split
      exact Or.inl stores
    | cons z later =>
      cases split
      obtain ⟨elsewhere, alive⟩ := kept x List.mem_cons_self
      exact Or.inr ⟨elsewhere, alive, later, y, earlier, rfl, stores, fun y hy => kept y (List.mem_cons_of_mem _ hy)⟩
  · rintro (stores | ⟨elsewhere, alive, later, y, earlier, rfl, stores, kept⟩)
    · exact ⟨[], x, history, rfl, stores, fun y hy => absurd hy List.not_mem_nil⟩
    · refine ⟨x :: later, y, earlier, rfl, stores, fun z hz => ?_⟩
      rcases List.mem_cons.mp hz with same | hz
      · rw [same]
        exact ⟨elsewhere, alive⟩
      · exact kept z hz

/-! ### What a step keeps -/

structure Sound (s : Stage) : Prop where
  names : s.memory.Mutual
  inUse : ∀ slot a, s.memory.weak.target? slot = some a → slot ∈ s.slots
  made : ∀ slot ∈ s.slots, slot.toNat < s.memory.weak.made
  /-- Nothing is attached to the objects, so freeing one gives up no slot of its own. -/
  plain : ∀ a o, s.memory.get? a = some o → o.payload = none

namespace Sound

theorem empty (start : Nat) : Sound ⟨Memory.empty start, []⟩ where
  names := Memory.mutual_empty start
  inUse slot a names := by simp [Memory.empty, WeakTable.empty, WeakTable.target?] at names
  made slot mem := absurd mem List.not_mem_nil
  plain a o live := by simp [Memory.empty, Memory.get?] at live

theorem put (h : Sound s) {old o : Object} (live : s.memory.get? a = some old) (same : o.payload = old.payload)
    (keeps : old.weaklyNamed = true → o.weaklyNamed = true) : Sound { s with memory := s.memory.put a o } where
  names := h.names.put live keeps
  inUse := h.inUse
  made := h.made
  plain b x liveB := by
    rw [Memory.get?_put] at liveB
    split at liveB
    · cases liveB
      rw [same, h.plain a old live]
    · exact h.plain b x liveB

/-- Freeing an object clears the slots that name it and no other. -/
theorem target?_free (h : Sound s) {o : Object} (live : s.memory.get? a = some o) :
    (s.memory.free a o).weak.target? slot =
      if s.memory.weak.target? slot = some a then none else s.memory.weak.target? slot := by
  rw [Memory.free, h.plain a o live]
  exact h.names.target?_freeing live

theorem made_free (h : Sound s) {o : Object} (live : s.memory.get? a = some o) :
    (s.memory.free a o).weak.made = s.memory.weak.made := by
  rw [Memory.free, h.plain a o live]
  dsimp only [Memory.dropPayload]
  split <;> rfl

theorem free (h : Sound s) {o : Object} (live : s.memory.get? a = some o) :
    Sound { s with memory := s.memory.free a o } where
  names := h.names.free live
  inUse slot b names := by
    rw [h.target?_free live] at names
    split at names
    · cases names
    · exact h.inUse slot b names
  made slot mem := by
    rw [h.made_free live]
    exact h.made slot mem
  plain b x liveB := by
    rw [Memory.get?_free] at liveB
    split at liveB
    · cases liveB
    · exact h.plain b x liveB

theorem release (h : Sound s) {m : Memory} (done : s.memory.release a = some m) : Sound { s with memory := m } := by
  obtain ⟨o, live, ⟨-, rfl⟩ | ⟨-, rfl⟩⟩ := Memory.release_eq_some.mp done
  · exact h.free live
  · exact h.put live rfl id

theorem retain (h : Sound s) {m : Memory} (done : s.memory.retain a = some m) : Sound { s with memory := m } := by
  obtain ⟨o, live, rfl⟩ := Memory.retain_eq_some.mp done
  exact h.put live rfl id

theorem place (h : Sound s) (free : s.memory.get? a = none) (cls : ClassId) :
    Sound { s with memory := s.memory.place a cls } where
  names := h.names.place free cls
  inUse := h.inUse
  made := h.made
  plain b x live := by
    rw [Memory.get?_place] at live
    split at live
    · cases live
      rfl
    · exact h.plain b x live

theorem make (h : Sound s) : Sound ⟨s.memory.newSlot.2, s.memory.newSlot.1 :: s.slots⟩ where
  names := h.names.newSlot
  inUse slot a names := List.mem_cons_of_mem _ (h.inUse slot a names)
  made slot mem := by
    rcases List.mem_cons.mp mem with rfl | mem
    · exact Nat.lt_succ_self _
    · exact Nat.lt_succ_of_lt (h.made slot mem)
  plain := h.plain

theorem store (h : Sound s) {target : Option Address} {m : Memory} (used : slot ∈ s.slots)
    (done : s.memory.storeWeak slot target = some m) : Sound { s with memory := m } where
  names := h.names.storeWeak done
  inUse other a there := by
    rw [Memory.weak_storeWeak done, WeakTable.target?_store] at there
    split at there
    · next same =>
      rw [← same]
      exact used
    · exact h.inUse other a there
  made other mem := by
    rw [Memory.weak_storeWeak done, WeakTable.made_store]
    exact h.made other mem
  plain b x liveB := by
    cases target with
    | none =>
      cases done
      exact h.plain b x liveB
    | some a =>
      obtain ⟨o, live, rfl⟩ := Memory.storeWeak_some_eq_some.mp done
      exact (h.put (o := { o with weaklyNamed := true }) live rfl fun _ => rfl).plain b x liveB

theorem drop (h : Sound s) (slot : SlotId) :
    Sound ⟨s.memory.dropWeak slot, s.slots.filter fun other => decide (other ≠ slot)⟩ where
  names := h.names.drop slot
  inUse other a there := by
    rw [Memory.dropWeak, WeakTable.drop, WeakTable.target?_store] at there
    split at there
    · cases there
    · next ne => exact List.mem_filter.mpr ⟨h.inUse other a there, decide_eq_true (Ne.symm ne)⟩
  made other mem := by
    rw [Memory.dropWeak, WeakTable.drop, WeakTable.made_store]
    exact h.made other (List.mem_filter.mp mem).1
  plain := h.plain

theorem step (h : Sound s) (step : Step s act s') : Sound s' := by
  cases step with
  | place a cls free => exact h.place free cls
  | retain a done => exact h.retain done
  | release a done => exact h.release done
  | make => exact h.make
  | store slot target used done => exact h.store used done
  | load slot used done =>
    rcases Memory.loadWeak_eq_some done with rfl | ⟨a, retained⟩
    · exact h
    · exact h.retain retained
  | drop slot used => exact h.drop slot

/-- A step that does not store in a slot leaves it naming what it named, if that lives on. -/
theorem target?_step (h : Sound s) (step : Step s act s') (used : slot ∈ s'.slots)
    (elsewhere : ∀ target, act ≠ .store slot target) :
    s'.memory.weak.target? slot = some a ↔ s.memory.weak.target? slot = some a ∧ s'.memory.get? a ≠ none := by
  have lives := fun free => (h.step step).names.unnamed (a := a) free slot
  have same (kept : s'.memory.weak.target? slot = s.memory.weak.target? slot) :
      s'.memory.weak.target? slot = some a ↔ s.memory.weak.target? slot = some a ∧ s'.memory.get? a ≠ none := by
    rw [← kept]
    exact ⟨fun names => ⟨names, fun free => lives free names⟩, And.left⟩
  cases step with
  | place _ _ _ => exact same rfl
  | retain _ done => exact same (by rw [Memory.weak_retain done])
  | release b done =>
    obtain ⟨o, live, ⟨-, rfl⟩ | ⟨-, rfl⟩⟩ := Memory.release_eq_some.mp done
    · rw [h.target?_free live, Memory.get?_free]
      by_cases freed : b = a
      · subst freed
        split <;> simp [*]
      · have alive : s.memory.weak.target? slot = some a → s.memory.get? a ≠ none :=
          fun names free => h.names.unnamed free slot names
        split
        · next names => simp [names, freed]
        · simpa [freed] using alive
    · exact same rfl
  | make => exact same rfl
  | store other target _ done =>
    refine same ?_
    have away : other ≠ slot := by
      rintro rfl
      exact elsewhere target rfl
    rw [Memory.weak_storeWeak done, WeakTable.target?_store, if_neg away]
  | load _ _ done => exact same (by rw [Memory.weak_loadWeak done])
  | drop other _ =>
    have away := of_decide_eq_true (List.mem_filter.mp used).2
    exact same ((WeakTable.target?_store none).trans (if_neg (Ne.symm away)))

end Sound
/-! ### Whole runs -/

theorem Run.sound (run : Run start history s) : Sound s := by
  induction run with
  | start => exact Sound.empty start
  | step _ step ih => exact ih.step step

theorem used_step (step : Step s act s') (used : slot ∈ s'.slots) :
    slot ∈ s.slots ∨ slot = ⟨s.memory.weak.made⟩ := by
  cases step with
  | make => exact (List.mem_cons.mp used).symm
  | drop _ _ => exact Or.inl (List.mem_filter.mp used).1
  | _ => exact Or.inl used

theorem made_step (h : Sound s) (step : Step s act s') : s.memory.weak.made ≤ s'.memory.weak.made := by
  cases step with
  | place _ _ _ => exact Nat.le_refl _
  | retain _ done => exact Nat.le_of_eq (by rw [Memory.weak_retain done])
  | release _ done =>
    obtain ⟨o, live, ⟨-, rfl⟩ | ⟨-, rfl⟩⟩ := Memory.release_eq_some.mp done
    · exact Nat.le_of_eq (h.made_free live).symm
    · exact Nat.le_refl _
  | make => exact Nat.le_succ _
  | store _ _ _ done =>
    rw [Memory.weak_storeWeak done]
    exact Nat.le_of_eq (WeakTable.made_store _).symm
  | load _ _ done => exact Nat.le_of_eq (by rw [Memory.weak_loadWeak done])
  | drop _ _ => exact Nat.le_of_eq (WeakTable.made_store _).symm

/-- What was ever stored in was made. -/
theorem Run.made_of_stillNames (run : Run start history s) (still : StillNames history slot a) :
    slot.toNat < s.memory.weak.made := by
  induction run with
  | start =>
    obtain ⟨later, _, _, split, -⟩ := still
    cases later <;> cases split
  | step run step ih =>
    refine Nat.lt_of_lt_of_le ?_ (made_step run.sound step)
    rcases stillNames_cons.mp still with stores | ⟨-, -, still⟩
    · dsimp only at stores
      subst stores
      cases step with
      | store _ _ used _ => exact run.sound.made slot used
    · exact ih still

/-- Over a whole run, a slot in use names the object that was last stored in it, unless that was freed since. -/
theorem Run.names_iff (run : Run start history s) (used : slot ∈ s.slots) :
    s.memory.weak.target? slot = some a ↔ StillNames history slot a := by
  induction run with
  | start => exact absurd used List.not_mem_nil
  | @step history s act s' run step ih =>
    by_cases stores : ∃ target, act = .store slot target
    · obtain ⟨target, rfl⟩ := stores
      cases step with
      | store _ _ _ done =>
        rw [stillNames_cons, Memory.weak_storeWeak done, WeakTable.target?_store, if_pos rfl]
        simp
    · have elsewhere : ∀ target, act ≠ .store slot target := fun target h => stores ⟨target, h⟩
      have before : s.memory.weak.target? slot = some a ↔ StillNames history slot a := by
        rcases used_step step used with before | rfl
        · exact ih before
        · refine ⟨fun names => ?_, fun still => ?_⟩
          · exact absurd (run.sound.made _ (run.sound.inUse _ _ names)) (Nat.lt_irrefl _)
          · exact absurd (run.made_of_stillNames still) (Nat.lt_irrefl _)
      rw [run.sound.target?_step step used elsewhere, stillNames_cons, before]
      constructor
      · rintro ⟨still, alive⟩
        exact Or.inr ⟨elsewhere, fun freed => alive freed.2, still⟩
      · rintro (stores | ⟨-, alive, still⟩)
        · exact absurd stores (elsewhere _)
        · obtain ⟨o, live, -⟩ := run.sound.names.marked slot a (before.mpr still)
          exact ⟨still, fun free => alive ⟨Option.isSome_iff_exists.mpr ⟨o, live⟩, free⟩⟩

/-- In every state of every run, slots and table are inverse to each other, and what the table knows lives, is
    marked and is named by some slot in use. Hence a load gives a new reference to the object that was last stored
    in the slot, if that was not freed since; the last release of an object clears the slots that name it and no
    other; and no slot names an address where a new object may be placed. An object that lives can always be
    retained, released and stored. -/
theorem weak_references_never_dangle (run : Run start history s) :
    (∀ slot a, s.memory.weak.target? slot = some a ↔ slot ∈ s.memory.weak.namersOf a) ∧
    (∀ slot a, slot ∈ s.memory.weak.namersOf a → (s.memory.weak.namersOf a).count slot = 1) ∧
    (∀ a slots, s.memory.weak.namers.get? a = some slots →
      slots ≠ [] ∧ (∀ slot ∈ slots, slot ∈ s.slots) ∧ ∃ o, s.memory.get? a = some o ∧ o.weaklyNamed = true) ∧
    (∀ slot ∈ s.slots, ∃ r m, s.memory.loadWeak slot = some (r, m) ∧ (∀ a, r = some a ↔ StillNames history slot a) ∧
      ∀ a, m.count a = s.memory.count a + if r = some a then 1 else 0) ∧
    (∀ a, s.memory.count a = 1 → ∃ m, s.memory.release a = some m ∧ m.get? a = none ∧ ∀ slot,
      m.weak.target? slot = if s.memory.weak.target? slot = some a then none else s.memory.weak.target? slot) ∧
    (∀ a cls, s.memory.get? a = none → ∀ slot, (s.memory.place a cls).weak.target? slot ≠ some a) ∧
    (∀ a, (s.memory.get? a).isSome → (∃ m, s.memory.retain a = some m) ∧ (∃ m, s.memory.release a = some m) ∧
      ∀ slot, ∃ m, s.memory.storeWeak slot (some a) = some m) := by
  have sound := run.sound
  have inverse := sound.names.inverse
  refine ⟨inverse.listed, fun slot a listed => ?_, fun a slots list => ?_, fun slot used => ?_, fun a last => ?_,
    fun a cls free slot => sound.names.unnamed free slot, fun a lives => ?_⟩
  · rw [(inverse.once a).count, if_pos listed]
  · refine ⟨inverse.nonempty a slots list, fun slot mem => ?_, ?_⟩
    · rw [← WeakTable.namersOf_of_get? list] at mem
      exact sound.inUse slot a ((inverse.listed slot a).mpr mem)
    · obtain ⟨slot, names⟩ := inverse.named list
      exact sound.names.marked slot a names
  · obtain ⟨m, loaded, -, counts⟩ := sound.names.loadWeak slot
    refine ⟨_, m, loaded, fun a => run.names_iff used, fun a => ?_⟩
    rw [counts a]
    cases s.memory.weak.target? slot <;> simp [List.count_singleton]
  · cases live : s.memory.get? a with
    | none =>
      rw [Memory.count_of_none live] at last
      cases last
    | some o =>
      rw [Memory.count_of_get? live] at last
      refine ⟨_, Memory.release_eq_some.mpr ⟨o, live, Or.inl ⟨last, rfl⟩⟩, ?_, fun slot => sound.target?_free live⟩
      rw [Memory.get?_free, if_pos rfl]
  · obtain ⟨o, live⟩ := Option.isSome_iff_exists.mp lives
    refine ⟨⟨_, Memory.retain_eq_some.mpr ⟨o, live, rfl⟩⟩, ?_, fun slot =>
      ⟨_, Memory.storeWeak_some_eq_some.mpr ⟨o, live, rfl⟩⟩⟩
    by_cases last : o.count = 1
    · exact ⟨_, Memory.release_eq_some.mpr ⟨o, live, Or.inl ⟨last, rfl⟩⟩⟩
    · exact ⟨_, Memory.release_eq_some.mpr ⟨o, live, Or.inr ⟨last, rfl⟩⟩⟩

/-- Two slots name an object; it is freed and another takes its place. A slot that is then pointed at the
    new one gives a reference to it. -/
theorem reused_address_is_loaded : ∃ history s, Run 0 history s ∧ ∃ m,
    s.memory.loadWeak ⟨1⟩ = some (some ⟨64⟩, m) ∧ m.count ⟨64⟩ = 2 ∧ s.memory.weak.target? ⟨0⟩ = none := by
  have run : Run 0 _ _ := (((((((Run.start.step (.place ⟨64⟩ ⟨0⟩ rfl)).step .make).step .make).step
    (.store ⟨0⟩ (some ⟨64⟩) (by decide) rfl)).step (.store ⟨1⟩ (some ⟨64⟩) (by decide) rfl)).step
    (.release ⟨64⟩ rfl)).step (.place ⟨64⟩ ⟨0⟩ rfl)).step (.store ⟨1⟩ (some ⟨64⟩) (by decide) rfl)
  obtain ⟨-, -, -, loads, -⟩ := weak_references_never_dangle run
  obtain ⟨r, m, loaded, still, counts⟩ := loads ⟨1⟩ (by decide)
  obtain rfl := (still ⟨64⟩).mpr (stillNames_cons.mpr (Or.inl rfl))
  exact ⟨_, _, run, m, loaded, counts ⟨64⟩, rfl⟩

end WeakRuns
end Messaging
