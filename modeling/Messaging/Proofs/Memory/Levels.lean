import Mathlib.Data.List.Basic
import Mathlib.Data.List.Induction
import Messaging.Proofs.Memory.Pools

/-! The pools of a stack one by one. A stack is made of levels, each with its own objects, and the operations on
    the stack are operations on the list of levels: what is taken off are the topmost of them. -/

namespace Messaging
namespace PoolStack

structure Level where
  live : Bool
  objects : List Address

def objectsOf (ls : List Level) : List Address := ls.flatMap Level.objects

def marksFrom (start : Nat) : List Level → List PoolMark
  | [] => []
  | l :: above => ⟨start, l.live⟩ :: marksFrom (start + l.objects.length) above

def Level.retired (l : Level) : Bool := !l.live

/-- The stack with these levels on top of it. -/
def under (s : PoolStack) (ls : List Level) : PoolStack := ⟨s.objects ++ objectsOf ls, s.marks ++ marksFrom s.pending ls⟩

/-- The stack with these levels, outermost first. -/
def ofLevels (ls : List Level) : PoolStack := ⟨objectsOf ls, marksFrom 0 ls⟩

/-- The stack with more objects in its topmost pool. -/
def given (s : PoolStack) (added : List Address) : PoolStack := { s with objects := s.objects ++ added }

variable {s : PoolStack} {ls below above : List Level} {l : Level} {start token : Nat}

@[simp] theorem objectsOf_append : objectsOf (below ++ above) = objectsOf below ++ objectsOf above := by
  simp [objectsOf]

@[simp] theorem objectsOf_cons : objectsOf (l :: above) = l.objects ++ objectsOf above := by
  simp [objectsOf]

@[simp] theorem objectsOf_nil : objectsOf [] = [] := rfl

@[simp] theorem length_marksFrom : (marksFrom start ls).length = ls.length := by
  induction ls generalizing start with
  | nil => rfl
  | cons l above ih => simp [marksFrom, ih]

theorem marksFrom_append :
    marksFrom start (below ++ above) = marksFrom start below ++ marksFrom (start + (objectsOf below).length) above := by
  induction below generalizing start with
  | nil => rfl
  | cons l below ih => simp [marksFrom, ih, Nat.add_assoc]

/-! ### Levels on top of a stack -/

@[simp] theorem under_nil : s.under [] = s := by
  simp [under, marksFrom]

theorem depth_under : (s.under ls).depth = s.depth + ls.length := by
  simp [under, depth]

theorem ofLevels_eq (ls : List Level) : ofLevels ls = empty.under ls := rfl

/-- The mark of a level is where the objects below it end. -/
theorem mark_under (s : PoolStack) (below above : List Level) (l : Level) :
    (s.under (below ++ l :: above)).marks[s.depth + below.length]? =
      some ⟨s.pending + (objectsOf below).length, l.live⟩ := by
  simp [under, depth, marksFrom_append, marksFrom]

theorem cut_under (s : PoolStack) (below above : List Level) :
    (s.under (below ++ above)).cut (s.pending + (objectsOf below).length) (s.depth + below.length) =
      ((objectsOf above).reverse, s.under below) := by
  have objects : s.objects ++ objectsOf (below ++ above) = (s.objects ++ objectsOf below) ++ objectsOf above := by simp
  have marks : s.marks ++ marksFrom s.pending (below ++ above) =
      (s.marks ++ marksFrom s.pending below) ++ marksFrom (s.pending + (objectsOf below).length) above := by
    rw [marksFrom_append, List.append_assoc]
  have pending : s.pending + (objectsOf below).length = (s.objects ++ objectsOf below).length := by simp [PoolStack.pending]
  have depth : s.depth + below.length = (s.marks ++ marksFrom s.pending below).length := by simp [PoolStack.depth]
  unfold cut under
  dsimp only
  rw [objects, marks, pending, depth, List.drop_left, List.take_left, List.take_left]

theorem settled_under : (s.under ls).Settled ↔ (∀ l ∈ ls.getLast?, l.live = true) ∧ (ls = [] → s.Settled) := by
  rcases List.eq_nil_or_concat' ls with rfl | ⟨below, l, rfl⟩
  · simp
  · simp [Settled, under, marksFrom_append, marksFrom]

theorem takeWhile_retired (settled : (s.under below).Settled) (retired : ∀ l ∈ above, l.live = false) :
    ((s.under (below ++ above)).marks.reverse.takeWhile fun m => !m.live).length = above.length := by
  have upper : ∀ m ∈ (marksFrom (s.pending + (objectsOf below).length) above).reverse, (!m.live) = true := by
    generalize s.pending + (objectsOf below).length = start
    induction above generalizing start with
    | nil => simp [marksFrom]
    | cons l above ih =>
      have here := retired l List.mem_cons_self
      have rest := ih (fun k mem => retired k (List.mem_cons_of_mem _ mem)) (start + l.objects.length)
      simp only [marksFrom, List.reverse_cons, List.mem_append, List.mem_singleton]
      rintro m (mem | rfl)
      · exact rest m mem
      · simp [here]
  have split : (s.under (below ++ above)).marks.reverse =
      (marksFrom (s.pending + (objectsOf below).length) above).reverse ++ (s.under below).marks.reverse := by
    simp [under, marksFrom_append]
  rw [split, List.takeWhile_append_of_pos upper, takeWhile_of_settled settled]
  simp

/-- The retired levels on top come off. -/
theorem drainRetired_under (settled : (s.under below).Settled) (retired : ∀ l ∈ above, l.live = false) :
    (s.under (below ++ above)).drainRetired = ((objectsOf above).reverse, s.under below) := by
  have kept : s.depth + (below ++ above).length - above.length = s.depth + below.length := by
    rw [List.length_append]
    omega
  unfold drainRetired
  simp only [depth_under, takeWhile_retired settled retired, kept]
  cases above with
  | nil =>
    have none : (s.under (below ++ [])).marks[s.depth + below.length]? = none := by simp [under, depth]
    simp only [none]
    simp
  | cons l above =>
    simp only [mark_under]
    exact cut_under s _ _

theorem modify_marksFrom : (marksFrom start (below ++ l :: above)).modify below.length (fun m => { m with live := false }) =
    marksFrom start (below ++ { l with live := false } :: above) := by
  induction below generalizing start with
  | nil => rfl
  | cons k below ih => simpa [marksFrom] using ih

theorem retire_under (s : PoolStack) (below above : List Level) (l : Level) : (s.under (below ++ l :: above)).retire (s.depth + below.length) =
    (s.under (below ++ { l with live := false } :: above)).drainRetired := by
  have marks : (s.marks ++ marksFrom s.pending (below ++ l :: above)).modify (s.depth + below.length)
      (fun m => { m with live := false }) = s.marks ++ marksFrom s.pending (below ++ { l with live := false } :: above) := by
    rw [← modify_marksFrom]
    unfold depth
    generalize marksFrom s.pending (below ++ l :: above) = upper
    induction s.marks with
    | nil => simp
    | cons m marks ih => simpa [Nat.add_right_comm _ 1] using ih
  unfold retire
  rw [mark_under]
  dsimp only
  simp only [under, marks, objectsOf_append, objectsOf_cons]

/-! ### Retired levels on top -/

theorem settled_rdropWhile (settled : s.Settled) (ls : List Level) : (s.under (ls.rdropWhile Level.retired)).Settled := by
  refine settled_under.mpr ⟨fun l top => ?_, fun _ => settled⟩
  obtain ⟨some, rfl⟩ := List.mem_getLast?_eq_getLast top
  simpa [Level.retired] using List.rdropWhile_last_not _ _ some

/-- All that is retired on top of a settled stack comes off. -/
theorem drainRetired_rdropWhile (settled : s.Settled) (ls : List Level) : (s.under ls).drainRetired =
    ((objectsOf (ls.rtakeWhile Level.retired)).reverse, s.under (ls.rdropWhile Level.retired)) := by
  have retired : ∀ l ∈ ls.rtakeWhile Level.retired, l.live = false := fun l mem => by
    simpa [Level.retired] using List.mem_rtakeWhile_imp mem
  have drained := drainRetired_under (settled_rdropWhile settled ls) retired
  rwa [List.rdropWhile_append_rtakeWhile] at drained

/-- The levels that are left when a pool with the objects `added` is given up, and `opened` were on top of it. -/
def kept (added : List Address) (opened : List Level) : List Level := (⟨false, added⟩ :: opened).rdropWhile Level.retired

/-- The objects that go with it, oldest first. -/
def dropped (added : List Address) (opened : List Level) : List Address :=
  objectsOf ((⟨false, added⟩ :: opened).rtakeWhile Level.retired)

theorem objectsOf_kept (added : List Address) (opened : List Level) :
    objectsOf (kept added opened) ++ dropped added opened = added ++ objectsOf opened := by
  rw [kept, dropped, ← objectsOf_append, List.rdropWhile_append_rtakeWhile, objectsOf_cons]

theorem count_kept (added : List Address) (opened : List Level) (a : Address) :
    (objectsOf (kept added opened)).count a + (dropped added opened).count a =
      added.count a + (objectsOf opened).count a := by
  rw [← List.count_append, objectsOf_kept, List.count_append]

/-- The pool itself goes exactly if nothing on top of it is in use. -/
theorem kept_eq_nil {added : List Address} {opened : List Level} : kept added opened = [] ↔ ∀ l ∈ opened, l.live = false := by
  rw [kept, List.rdropWhile_eq_nil_iff, List.forall_mem_cons]
  simp [Level.retired]

theorem under_eq_self : s.under ls = s ↔ ls = [] := by
  constructor
  · intro same
    have depth := congrArg depth same
    rw [depth_under] at depth
    exact List.eq_nil_of_length_eq_zero (by omega)
  · rintro rfl
    exact under_nil

/-- A pool that is pushed on a settled stack, given objects and covered by others, is given up. -/
theorem retire_covered (settled : s.Settled) (added : List Address) (opened : List Level) :
    ((s.push.2.given added).under opened).retire s.depth =
      ((dropped added opened).reverse, s.under (kept added opened)) := by
  have own : (s.push.2.given added).under opened = s.under ([] ++ ⟨true, added⟩ :: opened) := by
    simp [under, given, push, marksFrom, pending]
  rw [own]
  exact (retire_under s [] opened ⟨true, added⟩).trans (drainRetired_rdropWhile settled _)

/-- A pool of its own, with what was added to it, comes off a settled stack alone. -/
theorem retire_push (settled : s.Settled) (added : List Address) :
    (s.push.2.given added).retire s.depth = (added.reverse, s) := by
  have covered := retire_covered settled added []
  have objects : dropped added [] = added := List.append_nil _
  have levels : kept added [] = [] := rfl
  rwa [objects, levels, under_nil, under_nil] at covered

/-! ### Levels alone -/

@[simp] theorem depth_ofLevels : (ofLevels ls).depth = ls.length := length_marksFrom

theorem mark_ofLevels (below above : List Level) (l : Level) :
    (ofLevels (below ++ l :: above)).marks[below.length]? = some ⟨(objectsOf below).length, l.live⟩ := by
  simpa [ofLevels_eq, depth, pending, empty] using mark_under empty below above l

theorem cut_ofLevels (below above : List Level) : (ofLevels (below ++ above)).cut (objectsOf below).length below.length =
    ((objectsOf above).reverse, ofLevels below) := by
  simpa [ofLevels_eq, depth, pending, empty] using cut_under empty below above

theorem push_ofLevels : (ofLevels ls).push = (ls.length, ofLevels (ls ++ [⟨true, []⟩])) := by
  simp [push, ofLevels, depth, pending, marksFrom_append, marksFrom]

theorem add?_ofLevels (a : Address) :
    (ofLevels (below ++ [l])).add? a = some (ofLevels (below ++ [{ l with objects := l.objects ++ [a] }])) := by
  rw [add?_eq_some]
  constructor
  · simp [ofLevels, marksFrom_append, marksFrom]
  · simp [ofLevels, marksFrom_append, marksFrom]

/-- What is popped goes with all that is above it. A token beyond the top pops nothing. -/
theorem pop_ofLevels : (ofLevels ls).pop token = ((objectsOf (ls.drop token)).reverse, ofLevels (ls.take token)) := by
  rcases Nat.lt_or_ge token ls.length with inside | beyond
  · have split : ls = ls.take token ++ ls[token] :: ls.drop (token + 1) := by simp
    have length : (ls.take token).length = token := by simp [Nat.le_of_lt inside]
    have mark := mark_ofLevels (ls.take token) (ls.drop (token + 1)) ls[token]
    rw [← split, length] at mark
    unfold pop
    rw [mark]
    have cut := cut_ofLevels (ls.take token) (ls.drop token)
    rw [List.take_append_drop, length] at cut
    exact cut
  · have none : (ofLevels ls).marks[token]? = none := by simpa [ofLevels] using beyond
    unfold pop
    rw [none, List.drop_of_length_le beyond, List.take_of_length_le beyond]
    rfl

/-! ### Settled levels -/

theorem settled_ofLevels : (ofLevels ls).Settled ↔ ∀ l ∈ ls.getLast?, l.live = true := by
  have bottom : empty.Settled := fun mark top => nomatch top
  rw [ofLevels_eq, settled_under, and_iff_left fun _ => bottom]

/-- The retired levels at the top end where a live one stands, or with the lowest. -/
theorem exists_settled (ls : List Level) : ∃ below above,
    ls = below ++ above ∧ (ofLevels below).Settled ∧ ∀ l ∈ above, l.live = false := by
  induction ls using List.reverseRecOn with
  | nil => exact ⟨[], [], rfl, settled_ofLevels.mpr nofun, nofun⟩
  | append_singleton ls l ih =>
    cases live : l.live with
    | true => exact ⟨ls ++ [l], [], by simp, settled_ofLevels.mpr (by simp [live]), nofun⟩
    | false =>
      obtain ⟨below, above, rfl, settled, retired⟩ := ih
      refine ⟨below, above ++ [l], by simp, settled, fun k mem => ?_⟩
      rcases List.mem_append.mp mem with mem | mem
      · exact retired k mem
      · rw [List.mem_singleton.mp mem, live]

theorem drainRetired_ofLevels (settled : (ofLevels below).Settled) (retired : ∀ l ∈ above, l.live = false) :
    (ofLevels (below ++ above)).drainRetired = ((objectsOf above).reverse, ofLevels below) :=
  drainRetired_under (s := empty) settled retired

theorem retire_ofLevels : (ofLevels (below ++ l :: above)).retire below.length =
    (ofLevels (below ++ { l with live := false } :: above)).drainRetired := by
  simpa [ofLevels_eq, depth, empty] using retire_under empty below above l

theorem isInnermost_ofLevels :
    (ofLevels (below ++ [l])).isInnermost token = true ↔ token = below.length ∧ l.live = true := by
  unfold isInnermost
  rw [depth_ofLevels]
  constructor
  · intro h
    simp only [List.length_append, List.length_singleton, Bool.and_eq_true, beq_iff_eq, Nat.add_right_cancel_iff] at h
    obtain ⟨rfl, live⟩ := h
    rw [mark_ofLevels below [] l] at live
    exact ⟨rfl, live⟩
  · rintro ⟨rfl, live⟩
    rw [mark_ofLevels below [] l]
    simp [live]

end PoolStack
end Messaging
