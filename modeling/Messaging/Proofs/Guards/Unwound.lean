import Messaging.Proofs.Memory.Levels

/-! Levels that are given up one after the other. Each is retired where it stands, and the retired ones on top come off.
    In the end it does not matter in which order they were given up. -/

namespace Messaging
namespace PoolStack

/-- Retires the levels with these tokens. The lowest level of the list has the token `i`. -/
def giveUp (tokens : List Nat) (i : Nat) : List Level → List Level
  | [] => []
  | l :: above => (if i ∈ tokens then { l with live := false } else l) :: giveUp tokens (i + 1) above

/-- One of the tokens is that of a level of the list. -/
def Reaches (tokens : List Nat) (i : Nat) (ls : List Level) : Prop := ∃ t ∈ tokens, i ≤ t ∧ t < i + ls.length

instance (tokens : List Nat) (i : Nat) (ls : List Level) : Decidable (Reaches tokens i ls) :=
  inferInstanceAs (Decidable (∃ t ∈ tokens, i ≤ t ∧ t < i + ls.length))

/-- What is left when the levels with these tokens were given up. Tokens that reach no level change nothing. -/
def unwound (tokens : List Nat) (i : Nat) (ls : List Level) : List Level :=
  if Reaches tokens i ls then (giveUp tokens i ls).rdropWhile Level.retired else ls

variable {ls below above outer inner : List Level} {l : Level} {tokens tokens' : List Nat} {i t : Nat}

theorem giveUp_append : giveUp tokens i (below ++ above) = giveUp tokens i below ++ giveUp tokens (i + below.length) above := by
  induction below generalizing i with
  | nil => rfl
  | cons l below ih => simp [giveUp, ih, Nat.add_assoc, Nat.add_comm 1]

@[simp] theorem objectsOf_giveUp : objectsOf (giveUp tokens i ls) = objectsOf ls := by
  induction ls generalizing i with
  | nil => rfl
  | cons l above ih =>
    rw [giveUp, objectsOf_cons, objectsOf_cons, ih]
    split <;> rfl

/-- Levels may be retired a few at a time. -/
theorem giveUp_giveUp : giveUp tokens i (giveUp [t] i ls) = giveUp (t :: tokens) i ls := by
  induction ls generalizing i with
  | nil => rfl
  | cons l above ih =>
    simp only [giveUp, ih, List.mem_cons, List.not_mem_nil, or_false]
    by_cases here : i = t <;> by_cases mem : i ∈ tokens <;> simp [here, mem]

theorem giveUp_of_not_reaches (away : ¬Reaches tokens i ls) : giveUp tokens i ls = ls := by
  induction ls generalizing i with
  | nil => rfl
  | cons l above ih =>
    have here : i ∉ tokens := fun mem => away ⟨i, mem, Nat.le_refl i, by simp⟩
    have rest : ¬Reaches tokens (i + 1) above := by
      rintro ⟨t, mem, low, high⟩
      exact away ⟨t, mem, by omega, by simp; omega⟩
    rw [giveUp, if_neg here, ih rest]

theorem giveUp_congr (same : ∀ t, t ∈ tokens ↔ t ∈ tokens') : giveUp tokens i ls = giveUp tokens' i ls := by
  induction ls generalizing i with
  | nil => rfl
  | cons l above ih => simp only [giveUp, ih, same]

/-- What was retired stays so. -/
theorem retired_giveUp (retired : ∀ l ∈ ls, l.retired = true) : ∀ l ∈ giveUp tokens i ls, l.retired = true := by
  induction ls generalizing i with
  | nil => nofun
  | cons l above ih =>
    intro k mem
    rcases List.mem_cons.mp mem with rfl | mem
    · split
      · rfl
      · exact retired l List.mem_cons_self
    · exact ih (fun k mem => retired k (List.mem_cons_of_mem _ mem)) k mem

theorem getElem?_giveUp (j : Nat) : (giveUp tokens i ls)[j]? =
    ls[j]?.map fun l => if i + j ∈ tokens then { l with live := false } else l := by
  induction ls generalizing i j with
  | nil => rfl
  | cons l above ih =>
    cases j with
    | zero => rfl
    | succ j =>
      have rest : (giveUp tokens (i + 1) above)[j]? = _ := ih j
      rw [Nat.add_right_comm] at rest
      exact rest

theorem all_retired_iff : (∀ l ∈ giveUp tokens i ls, l.retired = true) ↔
    ∀ (j : Nat) l, ls[j]? = some l → l.live = true → i + j ∈ tokens := by
  constructor
  · intro all j l found live
    have there : (giveUp tokens i ls)[j]? = _ := getElem?_giveUp j
    rw [found, Option.map_some] at there
    have retired := all _ (List.mem_of_getElem? there)
    by_cases given : i + j ∈ tokens
    · exact given
    · rw [if_neg given, Level.retired, live] at retired
      cases retired
  · intro all l mem
    obtain ⟨j, found⟩ := List.mem_iff_getElem?.mp mem
    rw [getElem?_giveUp] at found
    obtain ⟨k, there, rfl⟩ := Option.map_eq_some_iff.mp found
    by_cases given : i + j ∈ tokens
    · rw [if_pos given]
      rfl
    · rw [if_neg given, Level.retired, Bool.not_eq_true', ← Bool.not_eq_true]
      exact fun live => given (all j k there live)

/-! ### Retired levels on top -/

theorem rdropWhile_append_of_all {α : Type} {p : α → Bool} {l l' : List α} (all : ∀ a ∈ l', p a = true) :
    (l ++ l').rdropWhile p = l.rdropWhile p := by
  unfold List.rdropWhile
  rw [List.reverse_append, List.dropWhile_append_of_pos fun a mem => all a (List.mem_reverse.mp mem)]

theorem settled_iff : (ofLevels ls).Settled ↔ ls.rdropWhile Level.retired = ls := by
  rw [settled_ofLevels, List.rdropWhile_eq_self_iff]
  constructor
  · intro live some
    simpa [Level.retired] using live _ (List.getLast?_eq_getLast_of_ne_nil some)
  · intro live l top
    obtain ⟨some, rfl⟩ := List.mem_getLast?_eq_getLast top
    simpa [Level.retired] using live some

theorem drainRetired_eq (ls : List Level) : (ofLevels ls).drainRetired =
    ((objectsOf (ls.rtakeWhile Level.retired)).reverse, ofLevels (ls.rdropWhile Level.retired)) :=
  drainRetired_rdropWhile (s := empty) (fun _ top => nomatch top) ls

/-- A settled stack keeps its levels, whatever is taken off above. -/
theorem rdropWhile_append (settled : (ofLevels below).Settled) :
    (below ++ above).rdropWhile Level.retired = below ++ above.rdropWhile Level.retired := by
  induction above using List.reverseRecOn with
  | nil => rw [List.append_nil, List.rdropWhile_nil, List.append_nil, settled_iff.mp settled]
  | append_singleton above l ih =>
    rw [← List.append_assoc, List.rdropWhile_concat, List.rdropWhile_concat, ih]
    split <;> simp

/-! ### Giving up levels -/

theorem reaches_cons : Reaches (t :: tokens) i ls ↔ (i ≤ t ∧ t < i + ls.length) ∨ Reaches tokens i ls := by
  simp [Reaches]

theorem unwound_congr (same : ∀ t, t ∈ tokens ↔ t ∈ tokens') : unwound tokens i ls = unwound tokens' i ls := by
  have reaches : Reaches tokens i ls ↔ Reaches tokens' i ls := by simp only [Reaches, same]
  exact if_congr reaches (by rw [giveUp_congr same]) rfl

theorem unwound_nil : unwound [] i ls = ls := if_neg fun ⟨_, mem, _⟩ => List.not_mem_nil mem

/-- No level is left if all that were in use were given up, and a level was given up at all. -/
theorem unwound_eq_nil_iff : unwound tokens i ls = [] ↔ ls = [] ∨
    Reaches tokens i ls ∧ ∀ (j : Nat) l, ls[j]? = some l → l.live = true → i + j ∈ tokens := by
  unfold unwound
  split
  · next reaches =>
    rw [List.rdropWhile_eq_nil_iff, all_retired_iff]
    constructor
    · exact fun all => Or.inr ⟨reaches, all⟩
    · rintro (rfl | ⟨-, all⟩)
      · nofun
      · exact all
  · next away => simp [away]

/-- What goes was on top. -/
theorem exists_objectsOf_unwound (tokens : List Nat) (i : Nat) (ls : List Level) :
    ∃ gone, objectsOf ls = objectsOf (unwound tokens i ls) ++ gone := by
  unfold unwound
  split
  · have split := List.rdropWhile_append_rtakeWhile (p := Level.retired) (l := giveUp tokens i ls)
    refine ⟨objectsOf ((giveUp tokens i ls).rtakeWhile Level.retired), ?_⟩
    rw [← objectsOf_append, split, objectsOf_giveUp]
  · exact ⟨[], (List.append_nil _).symm⟩

/-- What was drained does not come back by retiring more. -/
theorem rdropWhile_giveUp (tokens : List Nat) (i : Nat) (below : List Level) (retired : ∀ l ∈ above, l.retired = true) :
    (giveUp tokens i (below ++ above)).rdropWhile Level.retired = (giveUp tokens i below).rdropWhile Level.retired := by
  rw [giveUp_append, rdropWhile_append_of_all (retired_giveUp retired)]

/-- Levels may be given up one after the other. -/
theorem unwound_unwound : unwound tokens i (unwound [t] i ls) = unwound (t :: tokens) i ls := by
  by_cases here : i ≤ t ∧ t < i + ls.length
  · have first : unwound [t] i ls = (giveUp [t] i ls).rdropWhile Level.retired := if_pos ⟨t, .head _, here⟩
    have both : unwound (t :: tokens) i ls = (giveUp (t :: tokens) i ls).rdropWhile Level.retired :=
      if_pos ⟨t, .head _, here⟩
    have split := List.rdropWhile_append_rtakeWhile (p := Level.retired) (l := giveUp [t] i ls)
    have gone : ∀ l ∈ (giveUp [t] i ls).rtakeWhile Level.retired, l.retired = true :=
      fun l mem => List.mem_rtakeWhile_imp mem
    have drained := rdropWhile_giveUp tokens i ((giveUp [t] i ls).rdropWhile Level.retired) gone
    rw [split, giveUp_giveUp] at drained
    rw [first, both, drained]
    by_cases reaches : Reaches tokens i ((giveUp [t] i ls).rdropWhile Level.retired)
    · exact if_pos reaches
    · rw [giveUp_of_not_reaches reaches, List.rdropWhile_idempotent]
      exact if_neg reaches
  · have away : ¬Reaches [t] i ls := fun reaches => (reaches_cons.mp reaches).elim here nofun
    have first : unwound [t] i ls = ls := if_neg away
    rw [first]
    refine if_congr ?_ ?_ rfl
    · rw [reaches_cons, or_iff_right here]
    · rw [← giveUp_giveUp, giveUp_of_not_reaches away]

/-- Giving up a pool above settled levels. What comes off the stack is what the levels lose. -/
theorem retire_unwound (settled : (ofLevels outer).Settled) (low : outer.length ≤ t) (inner : List Level) : ∃ gone,
    (ofLevels (outer ++ inner)).retire t = (gone.reverse, ofLevels (outer ++ unwound [t] outer.length inner)) ∧
    objectsOf inner = objectsOf (unwound [t] outer.length inner) ++ gone := by
  by_cases here : t < outer.length + inner.length
  · obtain ⟨j, rfl⟩ := Nat.exists_eq_add_of_le low
    have inside : j < inner.length := by omega
    obtain ⟨below, l, above, rfl, rfl⟩ : ∃ below l above, inner = below ++ l :: above ∧ below.length = j :=
      ⟨inner.take j, inner[j], inner.drop (j + 1), by simp, by simp; omega⟩
    have lower : ¬Reaches [outer.length + below.length] outer.length below := by
      rintro ⟨t, mem, -, high⟩
      rw [List.mem_singleton.mp mem] at high
      omega
    have upper : ¬Reaches [outer.length + below.length] (outer.length + below.length + 1) above := by
      rintro ⟨t, mem, low, -⟩
      rw [List.mem_singleton.mp mem] at low
      omega
    have retired : giveUp [outer.length + below.length] outer.length (below ++ l :: above) =
        below ++ { l with live := false } :: above := by
      rw [giveUp_append, giveUp, giveUp_of_not_reaches lower, giveUp_of_not_reaches upper,
        if_pos (List.mem_singleton.mpr rfl)]
    have reaches : Reaches [outer.length + below.length] outer.length (below ++ l :: above) :=
      ⟨_, .head _, Nat.le_add_right _ _, here⟩
    have left : unwound [outer.length + below.length] outer.length (below ++ l :: above) =
        (below ++ { l with live := false } :: above).rdropWhile Level.retired := by
      rw [unwound, if_pos reaches, retired]
    have cut : (ofLevels ((outer ++ below) ++ l :: above)).retire (outer ++ below).length = _ := retire_ofLevels
    rw [List.append_assoc, List.append_assoc, List.length_append, drainRetired_eq, rdropWhile_append settled, ← left] at cut
    refine ⟨_, cut, ?_⟩
    have split := List.rdropWhile_append_rtakeWhile (p := Level.retired)
      (l := outer ++ (below ++ { l with live := false } :: above))
    rw [rdropWhile_append settled, ← left, List.append_assoc] at split
    have parts := congrArg objectsOf (List.append_cancel_left split)
    rw [objectsOf_append] at parts
    rw [parts]
    simp
  · have away : ¬Reaches [t] outer.length inner := fun reaches =>
      (reaches_cons.mp reaches).elim (fun inside => here inside.2) nofun
    refine ⟨[], ?_, ?_⟩
    · rw [retire_beyond (by simp; omega), unwound, if_neg away]
      rfl
    · rw [unwound, if_neg away, List.append_nil]

end PoolStack
end Messaging
