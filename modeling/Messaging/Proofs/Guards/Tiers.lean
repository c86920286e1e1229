import Messaging.Proofs.Guards.Runs
import Messaging.Proofs.Memory.Levels

/-! The pools by their owners. Each level of the stack is the pool of a guard or a raw one; the level of a guard is
    live as long as the guard exists, and its token is where the level stands. Each operation on the stack is
    followed through the tiers, so guards may be dropped in any order and still stand where they were opened. -/

namespace Messaging
namespace Guards
open PoolStack

/-- A level with the guard that owns it, if it is not raw, and what its pool holds. -/
structure Tier (ρ : Type) where
  owner : Option Guard
  held : List ρ

variable {ρ : Type} {object : ρ → Address} {guards : List Guard} {pools : PoolStack} {ts below above : List (Tier ρ)}
  {t : Tier ρ} {g k : Guard}

namespace Tier

def live (guards : List Guard) (t : Tier ρ) : Bool := t.owner.all fun g => decide (g ∈ guards)

def level (object : ρ → Address) (guards : List Guard) (t : Tier ρ) : Level := ⟨t.live guards, t.held.map object⟩

end Tier

/-- What the tiers hold, outermost first. -/
def heldBy (ts : List (Tier ρ)) : List ρ := ts.flatMap Tier.held

/-- The token of a guard is the level of its tier. -/
def Placed (ts : List (Tier ρ)) : Prop := ∀ (i : Nat) t g, ts[i]? = some t → t.owner = some g → g.token = i

structure Layered (object : ρ → Address) (guards : List Guard) (pools : PoolStack) (ts : List (Tier ρ)) : Prop where
  levels : pools = ofLevels (ts.map (Tier.level object guards))
  placed : Placed ts
  /-- The guards stand in the order in which they were opened. -/
  standing : guards.Sublist (ts.filterMap Tier.owner).reverse

theorem objectsOf_levels : objectsOf (ts.map (Tier.level object guards)) = (heldBy ts).map object := by
  simp [objectsOf, heldBy, List.flatMap_map, List.map_flatMap, Tier.level]

/-- Guards that come and go elsewhere do not concern a tier. -/
theorem level_congr {later : List Guard} (same : ∀ g, t.owner = some g → (g ∈ later ↔ g ∈ guards)) :
    t.level object later = t.level object guards := by
  have live : t.live later = t.live guards := by
    unfold Tier.live
    cases owner : t.owner with
    | none => rfl
    | some g => simp [same g owner]
  simp [Tier.level, live]

namespace Placed

theorem left (h : Placed (below ++ above)) : Placed below := by
  intro i t g found owner
  have inside : i < below.length := (List.getElem?_eq_some_iff.mp found).1
  exact h i t g (by rw [List.getElem?_append_left inside, found]) owner

theorem length_le (h : Placed (below ++ above)) (mem : t ∈ above) (owner : t.owner = some g) :
    below.length ≤ g.token := by
  obtain ⟨i, found⟩ := List.mem_iff_getElem?.mp mem
  have there : (below ++ above)[below.length + i]? = some t := by
    rw [List.getElem?_append_right (Nat.le_add_right _ _), Nat.add_sub_cancel_left, found]
  rw [h _ t g there owner]
  exact Nat.le_add_right _ _

theorem token_lt (h : Placed ts) (mem : t ∈ ts) (owner : t.owner = some g) : g.token < ts.length := by
  obtain ⟨i, found⟩ := List.mem_iff_getElem?.mp mem
  rw [h i t g found owner]
  exact (List.getElem?_eq_some_iff.mp found).1

theorem concat (h : Placed below) (owner : ∀ g, t.owner = some g → g.token = below.length) : Placed (below ++ [t]) := by
  intro i u g found owns
  rcases Nat.lt_trichotomy i below.length with inside | rfl | beyond
  · rw [List.getElem?_append_left inside] at found
    exact h i u g found owns
  · rw [List.getElem?_concat_length] at found
    cases found
    exact owner g owns
  · rw [List.getElem?_eq_none (by simp; omega)] at found
    cases found

theorem last (h : Placed (below ++ [t])) (owner : t.owner = some g) : g.token = below.length :=
  h _ t g List.getElem?_concat_length owner

end Placed

namespace Layered

theorem empty : Layered object [] PoolStack.empty ([] : List (Tier ρ)) where
  levels := rfl
  placed i t g found := by simp at found
  standing := List.Sublist.refl _

theorem depth (h : Layered object guards pools ts) : pools.depth = ts.length := by
  rw [h.levels, depth_ofLevels, List.length_map]

theorem objects (h : Layered object guards pools ts) : pools.objects = (heldBy ts).map object := by
  rw [h.levels]
  exact objectsOf_levels

theorem exists_tier (h : Layered object guards pools ts) (mem : g ∈ guards) :
    ∃ t, ts[g.token]? = some t ∧ t.owner = some g := by
  obtain ⟨t, there, owner⟩ := List.mem_filterMap.mp (List.mem_reverse.mp (h.standing.subset mem))
  obtain ⟨i, found⟩ := List.mem_iff_getElem?.mp there
  obtain rfl := h.placed i t g found owner
  exact ⟨t, found, owner⟩

theorem exists_split (h : Layered object guards pools ts) (mem : g ∈ guards) :
    ∃ below t above, ts = below ++ t :: above ∧ below.length = g.token ∧ t.owner = some g := by
  obtain ⟨t, found, owner⟩ := h.exists_tier mem
  obtain ⟨inside, rfl⟩ := List.getElem?_eq_some_iff.mp found
  exact ⟨ts.take g.token, _, ts.drop (g.token + 1), by simp, by simp; omega, owner⟩

/-- The newest guard is the one highest up. -/
theorem decreasing (h : Layered object guards pools ts) : guards.Pairwise fun newer older => older.token < newer.token := by
  refine List.Pairwise.sublist h.standing (List.pairwise_reverse.mpr (List.pairwise_filterMap.mpr ?_))
  rw [List.pairwise_iff_getElem]
  intro i j hi hj lt g owner k owner'
  rw [h.placed i _ g (List.getElem?_eq_getElem hi) owner, h.placed j _ k (List.getElem?_eq_getElem hj) owner']
  exact lt

theorem token_inj (h : Layered object guards pools ts) (mem : g ∈ guards) (mem' : k ∈ guards)
    (same : g.token = k.token) : g = k := by
  obtain ⟨t, found, owner⟩ := h.exists_tier mem
  obtain ⟨u, found', owner'⟩ := h.exists_tier mem'
  rw [same, found'] at found
  cases found
  rw [owner'] at owner
  cases owner
  rfl

/-! ### Pushing and filling pools -/

theorem push (h : Layered object guards pools ts) : Layered object guards pools.push.2 (ts ++ [⟨none, []⟩]) where
  levels := by
    rw [h.levels, push_ofLevels]
    simp [Tier.level, Tier.live]
  placed := h.placed.concat nofun
  standing := by simpa using h.standing

theorem openGuard (h : Layered object guards pools ts) (serial : Nat) :
    Layered object (⟨serial, pools.depth⟩ :: guards) pools.push.2 (ts ++ [⟨some ⟨serial, pools.depth⟩, []⟩]) where
  levels := by
    have elsewhere : ts.map (Tier.level object (⟨serial, pools.depth⟩ :: guards)) = ts.map (Tier.level object guards) := by
      refine List.map_congr_left fun t mem => level_congr fun g owner => ?_
      have away : g ≠ ⟨serial, pools.depth⟩ := by
        rintro rfl
        exact Nat.lt_irrefl _ (h.depth ▸ h.placed.token_lt mem owner)
      simp [away]
    rw [List.map_append, elsewhere, h.levels, push_ofLevels]
    simp [Tier.level, Tier.live]
  placed := h.placed.concat fun g owner => by
    cases owner
    exact h.depth
  standing := by simpa using h.standing

/-- What is handed over goes to the topmost tier. -/
theorem add (h : Layered object guards pools (below ++ [t])) (r : ρ) : ∃ after, pools.add? (object r) = some after ∧
    Layered object guards after (below ++ [{ t with held := t.held ++ [r] }]) := by
  refine ⟨_, by rw [h.levels, List.map_append, List.map_singleton, add?_ofLevels], ?_, ?_, ?_⟩
  · simp [Tier.level, Tier.live]
  · exact h.placed.left.concat fun g owner => h.placed.last owner
  · have stands := h.standing
    rw [List.filterMap_append] at stands ⊢
    exact stands

/-! ### Taking pools off -/

/-- What is left when tiers are taken off that no guard stands on. -/
theorem cut (h : Layered object guards pools (below ++ above)) {later : List Guard} (fewer : later.Sublist guards)
    (abandoned : ∀ t ∈ above, ∀ g, t.owner = some g → g ∉ later) :
    Layered object later (ofLevels (below.map (Tier.level object later))) below where
  levels := rfl
  placed := h.placed.left
  standing := by
    have stands := fewer.trans h.standing
    rw [List.filterMap_append, List.reverse_append] at stands
    obtain ⟨upper, lower, rfl, up, low⟩ := List.sublist_append_iff.mp stands
    have none : upper = [] := by
      refine List.eq_nil_iff_forall_not_mem.mpr fun g mem => ?_
      obtain ⟨t, there, owner⟩ := List.mem_filterMap.mp (List.mem_reverse.mp (up.subset mem))
      exact abandoned t there g owner (List.mem_append_left _ mem)
    rw [none]
    exact low

theorem pop (h : Layered object guards pools ts) {token : Nat} (above : ∀ g ∈ guards, g.token < token) :
    Layered object guards (pools.pop token).2 (ts.take token) := by
  have split : Layered object guards pools (ts.take token ++ ts.drop token) := by rwa [List.take_append_drop]
  rw [h.levels, pop_ofLevels, ← List.map_take]
  refine split.cut (List.Sublist.refl _) fun t mem g owner exists_ => ?_
  have placed := split.placed.length_le mem owner
  have inside := List.length_pos_of_mem mem
  rw [List.length_take] at placed
  rw [List.length_drop] at inside
  have := above g exists_
  omega

/-- Once its guard is gone a tier is retired; the others are as they were. -/
theorem retire (h : Layered object guards pools ts) (mem : g ∈ guards) : pools.retire g.token =
    (ofLevels (ts.map (Tier.level object (guards.filter fun k => decide (k.token ≠ g.token))))).drainRetired := by
  obtain ⟨below, t, above, rfl, length, owner⟩ := h.exists_split mem
  have other : ∀ u ∈ below ++ above, u.level object (guards.filter fun k => decide (k.token ≠ g.token)) =
      u.level object guards := by
    intro u there
    refine level_congr fun k owns => ?_
    have away : k.token ≠ g.token := by
      rcases List.mem_append.mp there with lower | upper
      · have := h.placed.left.token_lt lower owns
        omega
      · rw [List.append_cons] at h
        have := h.placed.length_le upper owns
        rw [List.length_append, List.length_singleton] at this
        omega
    simp [away]
  have gone : t.level object (guards.filter fun k => decide (k.token ≠ g.token)) =
      { t.level object guards with live := false } := by
    simp [Tier.level, Tier.live, owner]
  have lower := List.map_congr_left fun u there => other u (List.mem_append_left _ there)
  have upper := List.map_congr_left fun u there => other u (List.mem_append_right _ there)
  rw [h.levels, List.map_append, List.map_append, List.map_cons, List.map_cons, lower, upper, gone, ← retire_ofLevels,
    List.length_map, length]

/-- Dropping a guard takes off the tiers from the top down to the first that is still in use. -/
theorem drop (h : Layered object guards pools ts) (mem : g ∈ guards) : ∃ kept gone, ts = kept ++ gone ∧
    (pools.retire g.token).1 = ((heldBy gone).map object).reverse ∧
    Layered object (guards.filter fun k => decide (k.token ≠ g.token)) (pools.retire g.token).2 kept ∧
    (pools.retire g.token).2.Settled ∧
    ∀ t ∈ gone, ∃ k, t.owner = some k ∧ k ∉ guards.filter fun k => decide (k.token ≠ g.token) := by
  rw [h.retire mem]
  obtain ⟨low, high, split, settled, retired⟩ :=
    exists_settled (ts.map (Tier.level object (guards.filter fun k => decide (k.token ≠ g.token))))
  obtain ⟨kept, gone, rfl, rfl, rfl⟩ := List.map_eq_append_iff.mp split
  have abandoned : ∀ t ∈ gone, ∃ k, t.owner = some k ∧ k ∉ guards.filter fun k => decide (k.token ≠ g.token) := by
    intro t there
    have dead := retired _ (List.mem_map_of_mem there)
    simp only [Tier.level, Tier.live, Option.all_eq_false] at dead
    obtain ⟨k, owner, gone⟩ := dead
    exact ⟨k, owner, of_decide_eq_false gone⟩
  rw [split, drainRetired_ofLevels settled retired, objectsOf_levels]
  refine ⟨kept, gone, rfl, rfl, h.cut List.filter_sublist fun t there k owner => ?_, settled, abandoned⟩
  obtain ⟨l, owner', gone⟩ := abandoned t there
  rw [owner] at owner'
  cases owner'
  exact gone

end Layered
end Guards
end Messaging
