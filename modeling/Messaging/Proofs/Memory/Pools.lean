import Mathlib.Data.List.DropRight
import Messaging.Object.PoolStack

/-! The pools of a thread. An operation on them loses no object: what leaves the stack is handed out to be
    released. What is retired on top comes off, and a pool that is given up is off the stack or retired. -/

namespace Messaging
namespace PoolStack
variable {s : PoolStack} {a : Address}

/-! ### Where objects go -/

theorem count_cut (start token : Nat) :
    (s.cut start token).1.count a + (s.cut start token).2.objects.count a = s.objects.count a := by
  unfold cut
  rw [List.count_reverse, Nat.add_comm, ← List.count_append, List.take_append_drop]

theorem count_pop (token : Nat) : (s.pop token).1.count a + (s.pop token).2.objects.count a = s.objects.count a := by
  unfold pop
  split
  · simp
  · exact count_cut _ _

theorem count_drainRetired : s.drainRetired.1.count a + s.drainRetired.2.objects.count a = s.objects.count a := by
  unfold drainRetired
  dsimp only
  split
  · simp
  · exact count_cut _ _

theorem count_retire (token : Nat) :
    (s.retire token).1.count a + (s.retire token).2.objects.count a = s.objects.count a := by
  unfold retire
  split
  · simp
  · exact count_drainRetired (s := { s with marks := _ })

theorem add?_eq_some {t : PoolStack} : s.add? a = some t ↔ s.marks ≠ [] ∧ t = { s with objects := s.objects ++ [a] } := by
  unfold add?
  cases s.marks <;> simp [eq_comm]

theorem add?_eq_none : s.add? a = none ↔ s.marks = [] := by
  unfold add?
  cases s.marks <;> simp

theorem marks_of_isInnermost {token : Nat} (h : s.isInnermost token = true) : s.marks ≠ [] := by
  intro none
  simp [isInnermost, depth, none] at h

/-! ### How high a stack is -/

section
variable {token : Nat}

theorem depth_cut_le {start : Nat} : (s.cut start token).2.depth ≤ s.depth := List.length_take_le' _ _

theorem depth_drainRetired_le : s.drainRetired.2.depth ≤ s.depth := by
  unfold drainRetired
  dsimp only
  split
  · exact Nat.le_refl _
  · exact depth_cut_le

theorem depth_retire_le : (s.retire token).2.depth ≤ s.depth := by
  unfold retire
  split
  · exact Nat.le_refl _
  · refine Nat.le_trans depth_drainRetired_le (Nat.le_of_eq ?_)
    exact List.length_modify _ _ _

theorem depth_pop_le : (s.pop token).2.depth ≤ s.depth := by
  unfold pop
  split
  · exact Nat.le_refl _
  · exact depth_cut_le

/-- Nothing stands at the token or above it after a pop. -/
theorem depth_pop_le_token : (s.pop token).2.depth ≤ token := by
  unfold pop
  split
  · next beyond => exact List.getElem?_eq_none_iff.mp beyond
  · exact List.length_take_le _ _

theorem depth_add? : ((s.add? a).getD s).depth = s.depth := by
  cases added : s.add? a with
  | none => rfl
  | some after =>
    obtain ⟨-, rfl⟩ := add?_eq_some.mp added
    rfl

theorem depth_push : s.push.2.depth = s.depth + 1 := List.length_append

end

/-! ### Settled stacks -/

/-- A stack is settled if it has no pool or its topmost pool is in use. -/
def Settled (s : PoolStack) : Prop := ∀ mark ∈ s.marks.getLast?, mark.live = true

theorem settled_push : s.push.2.Settled := by
  intro mark top
  have last : (s.marks ++ [(⟨s.pending, true⟩ : PoolMark)]).getLast? = some mark := top
  rw [List.getLast?_concat] at last
  cases last
  rfl

theorem takeWhile_of_settled (h : s.Settled) : (s.marks.reverse.takeWhile fun m => !m.live) = [] := by
  unfold Settled at h
  rw [List.getLast?_eq_head?_reverse] at h
  cases top : s.marks.reverse with
  | nil => rfl
  | cons mark rest =>
    have live := h mark (by rw [top]; rfl)
    simp [live]

/-! ### Retired pools on top -/

theorem getElem?_of_rdropWhile {α : Type} {p : α → Bool} {l : List α} {i : Nat} {x : α}
    (there : (l.rdropWhile p)[i]? = some x) : l[i]? = some x := by
  obtain ⟨above, split⟩ := List.rdropWhile_prefix p (l := l)
  rw [← split, List.getElem?_append_left (List.getElem?_eq_some_iff.mp there).1, there]

/-- The marks that are left end with one in use. -/
theorem marks_drainRetired (s : PoolStack) : s.drainRetired.2.marks = s.marks.rdropWhile fun m => !m.live := by
  have split := congrArg List.reverse (List.takeWhile_append_dropWhile (p := fun m => !m.live) (l := s.marks.reverse))
  rw [List.reverse_append, List.reverse_reverse] at split
  have kept : s.depth - (s.marks.reverse.takeWhile fun m => !m.live).length =
      (s.marks.rdropWhile fun m => !m.live).length := by
    have length := congrArg List.length split
    simp only [List.length_append, List.length_reverse, List.rdropWhile, depth] at length ⊢
    omega
  have taken := List.prefix_iff_eq_take.mp ⟨_, split⟩
  rw [List.rdropWhile] at kept ⊢
  rw [taken, ← kept]
  unfold drainRetired
  dsimp only
  split
  · next beyond => exact (List.take_of_length_le (List.getElem?_eq_none_iff.mp beyond)).symm
  · rfl

theorem settled_drainRetired (s : PoolStack) : s.drainRetired.2.Settled := by
  intro mark top
  rw [marks_drainRetired] at top
  obtain ⟨some, rfl⟩ := List.mem_getLast?_eq_getLast top
  simpa using List.rdropWhile_last_not _ _ some

theorem drainRetired_of_settled (h : s.Settled) : s.drainRetired = ([], s) := by
  have none : s.marks[s.depth]? = none := List.getElem?_eq_none (Nat.le_refl _)
  unfold drainRetired
  simp only [takeWhile_of_settled h, List.length_nil, Nat.sub_zero, none]

section
variable {token : Nat} {mark : PoolMark}

theorem retire_beyond (beyond : s.depth ≤ token) : s.retire token = ([], s) := by
  have none : s.marks[token]? = none := List.getElem?_eq_none beyond
  unfold retire
  rw [none]

theorem retire_inside (inside : token < s.depth) :
    s.retire token = drainRetired { s with marks := s.marks.modify token fun m => { m with live := false } } := by
  obtain ⟨mark, found⟩ : ∃ mark, s.marks[token]? = some mark := ⟨_, List.getElem?_eq_getElem inside⟩
  unfold retire
  rw [found]

/-- A pool that is given up is off the stack, or it is retired. -/
theorem live_retire (there : (s.retire token).2.marks[token]? = some mark) : mark.live = false := by
  rcases Nat.lt_or_ge token s.depth with inside | beyond
  · rw [retire_inside inside, marks_drainRetired] at there
    have before := getElem?_of_rdropWhile there
    rw [List.getElem?_modify_eq, List.getElem?_eq_getElem inside] at before
    cases before
    rfl
  · rw [retire_beyond beyond] at there
    rw [List.getElem?_eq_none beyond] at there
    cases there

/-- A pool that was given up already is given up again. -/
theorem retire_retired {start : Nat} (settled : s.Settled) (found : s.marks[token]? = some ⟨start, false⟩) :
    s.retire token = ([], s) := by
  have same : s.marks.modify token (fun m => { m with live := false }) = s.marks := by
    refine List.ext_getElem? fun i => ?_
    rw [List.getElem?_modify]
    by_cases here : token = i
    · simp [← here, found]
    · simp [here]
  rw [retire_inside (List.getElem?_eq_some_iff.mp found).1, same]
  exact drainRetired_of_settled settled

theorem retire_eq_self (idle : s.depth ≤ token ∨ s.Settled ∧ ∃ start, s.marks[token]? = some ⟨start, false⟩) :
    s.retire token = ([], s) := by
  rcases idle with beyond | ⟨settled, start, found⟩
  · exact retire_beyond beyond
  · exact retire_retired settled found

/-- Giving up a pool changes nothing exactly if there is none, or it was given up and others stand above it. -/
theorem retire_eq_self_iff : (s.retire token).2 = s ↔
    s.depth ≤ token ∨ s.Settled ∧ ∃ start, s.marks[token]? = some ⟨start, false⟩ := by
  constructor
  · intro same
    rcases Nat.lt_or_ge token s.depth with inside | beyond
    · have settled := settled_drainRetired { s with marks := s.marks.modify token fun m => { m with live := false } }
      rw [← retire_inside inside, same] at settled
      have found : s.marks[token]? = some s.marks[token] := List.getElem?_eq_getElem inside
      have retired : s.marks[token].live = false := live_retire (by rw [same]; exact found)
      exact Or.inr ⟨settled, s.marks[token].start, found.trans (by rw [← retired])⟩
    · exact Or.inl beyond
  · intro idle
    rw [retire_eq_self idle]

end

end PoolStack
end Messaging
