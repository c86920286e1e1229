import Messaging.Proofs.Memory.WeakNames

/-! A memory in balance: the counts are those of a ledger, the weak references are about objects that live, and
    every object has an address that was given out. Each operation keeps the balance and moves one entry of the
    ledger, and none brings back an object that went. -/

namespace Messaging
namespace Memory
variable {m n k : Memory} {f g : Address → Nat} {a : Address}

structure Balanced (m : Memory) (ledger : Address → Nat) : Prop where
  accounts : m.Accounts ledger
  names : m.Mutual
  below : ∀ a o, m.get? a = some o → a.toNat < m.heap.fresh.toNat

/-- Between two memories no address that was given out came to life again. -/
structure Later (m n : Memory) : Prop where
  fresh : m.heap.fresh.toNat ≤ n.heap.fresh.toNat
  gone : ∀ a, a.toNat < m.heap.fresh.toNat → m.get? a = none → n.get? a = none

theorem Later.of_heap (same : n.heap = m.heap) : m.Later n := by
  refine ⟨Nat.le_of_eq (by rw [same]), fun a _ free => ?_⟩
  rw [Memory.get?, same]
  exact free

theorem Later.trans (first : m.Later n) (second : n.Later k) : m.Later k where
  fresh := Nat.le_trans first.fresh second.fresh
  gone a given free := second.gone a (Nat.lt_of_lt_of_le given first.fresh) (first.gone a given free)

theorem later_put {old o : Object} (live : m.get? a = some old) : m.Later (m.put a o) where
  fresh := Nat.le_refl _
  gone b _ free := by
    rw [get?_put, if_neg]
    · exact free
    · rintro rfl
      rw [live] at free
      cases free

theorem later_release (done : m.release a = some n) : m.Later n := by
  obtain ⟨o, live, ⟨-, rfl⟩ | ⟨-, rfl⟩⟩ := release_eq_some.mp done
  · refine ⟨Nat.le_refl _, fun b _ free => ?_⟩
    rw [get?_free]
    split
    · rfl
    · exact free
  · exact later_put live

namespace Balanced

theorem start (at_ : Nat) : (Memory.empty at_).Balanced fun _ => 0 where
  accounts := ⟨fun _ => rfl, fun _ _ live => nomatch live⟩
  names := mutual_empty at_
  below _ _ live := nomatch live

theorem congr (h : m.Balanced f) (same : ∀ a, f a = g a) : m.Balanced g := ⟨h.accounts.congr same, h.names, h.below⟩

theorem setPools (h : m.Balanced f) (pools : PoolStack) : Balanced { m with pools } f :=
  ⟨h.accounts.setPools pools, h.names.setPools pools, h.below⟩

theorem put (h : m.Balanced f) {old o : Object} (live : m.get? a = some old) (accounts : (m.put a o).Accounts g)
    (keeps : old.weaklyNamed = true → o.weaklyNamed = true) : (m.put a o).Balanced g where
  accounts := accounts
  names := h.names.put live keeps
  below b x liveB := by
    rw [get?_put] at liveB
    split at liveB
    · next same =>
      rw [← same]
      exact h.below a old live
    · exact h.below b x liveB

/-- A change of an object that leaves its count moves nothing. -/
theorem amend (h : m.Balanced f) {old o : Object} (live : m.get? a = some old) (count : o.count = old.count)
    (keeps : old.weaklyNamed = true → o.weaklyNamed = true) : (m.put a o).Balanced f := by
  have owned := (h.accounts.count a).symm.trans (count_of_get? live)
  refine h.put live (h.accounts.put ?_ (owned.trans count.symm) fun _ _ => rfl) keeps
  rw [count]
  exact h.accounts.positive a old live

/-- No object lives where the next one is placed. -/
theorem fresh_free (h : m.Balanced f) : m.get? m.heap.fresh = none := by
  cases live : m.get? m.heap.fresh with
  | none => rfl
  | some o => exact absurd (h.below _ o live) (Nat.lt_irrefl _)

theorem fresh_lt_place (a : Address) (cls : ClassId) : m.heap.fresh.toNat < (m.place a cls).heap.fresh.toNat := by
  simp only [Memory.place, Heap.place, Heap.fresh]
  omega

/-- A new object at an address where none lives, which was given out before or is the next. -/
theorem place (h : m.Balanced f) (free : m.get? a = none) (given : a.toNat ≤ m.heap.fresh.toNat) (cls : ClassId) :
    (m.place a cls).Balanced fun b => f b + [a].count b where
  accounts := h.accounts.place free cls
  names := h.names.place free cls
  below b o live := by
    have up := fresh_lt_place (m := m) a cls
    rw [get?_place] at live
    split at live
    · next same =>
      rw [← same]
      exact Nat.lt_of_le_of_lt given up
    · exact Nat.lt_trans (h.below b o live) up

theorem alloc (h : m.Balanced f) (cls : ClassId) :
    (m.place m.heap.fresh cls).Balanced (fun b => f b + [m.heap.fresh].count b) ∧
      m.Later (m.place m.heap.fresh cls) := by
  refine ⟨h.place h.fresh_free (Nat.le_refl _) cls, Nat.le_of_lt (fresh_lt_place _ cls), fun b given free => ?_⟩
  rw [get?_place, if_neg]
  · exact free
  · rintro rfl
    exact Nat.lt_irrefl _ given

theorem attach (h : m.Balanced f) {payload : Payload} (done : m.attach a payload = some n) : n.Balanced f := by
  obtain ⟨o, live, rfl⟩ := modify?_eq_some.mp done
  exact h.amend live rfl id

theorem retain (h : m.Balanced f) (pos : 0 < f a) :
    ∃ n, m.retain a = some n ∧ n.Balanced (fun b => f b + [a].count b) ∧ m.Later n := by
  obtain ⟨n, done, accounts⟩ := h.accounts.retain pos
  obtain ⟨o, live, rfl⟩ := retain_eq_some.mp done
  exact ⟨_, done, h.put live accounts id, later_put live⟩

theorem release (h : m.Balanced fun b => f b + [a].count b) :
    ∃ n, m.release a = some n ∧ n.Balanced f ∧ m.Later n := by
  obtain ⟨n, done, accounts⟩ := h.accounts.release
  refine ⟨n, done, ⟨accounts, h.names.release done, ?_⟩, later_release done⟩
  obtain ⟨o, live, ⟨-, rfl⟩ | ⟨-, rfl⟩⟩ := release_eq_some.mp done
  · intro b x liveB
    rw [get?_free] at liveB
    split at liveB
    · cases liveB
    · exact h.below b x liveB
  · exact (h.put live accounts id).below

theorem releaseAll {l : List Address} (h : m.Balanced fun b => f b + l.count b) :
    ∃ n, m.releaseAll l = some n ∧ n.Balanced f ∧ m.Later n := by
  induction l generalizing m with
  | nil => exact ⟨m, rfl, h.congr fun b => by simp, Later.of_heap rfl⟩
  | cons a rest ih =>
    have h' : m.Balanced fun b => (f b + rest.count b) + [a].count b := h.congr fun b => by
      rw [List.count_cons, List.count_singleton, Nat.add_assoc]
    obtain ⟨k, first, balanced, later⟩ := h'.release
    obtain ⟨n, others, balanced, after⟩ := ih balanced
    exact ⟨n, releaseAll_cons_eq_some.mpr ⟨k, first, others⟩, balanced, later.trans after⟩

/-! ### Weak references are not in the ledger -/

theorem newSlot (h : m.Balanced f) : m.newSlot.2.Balanced f := ⟨h.accounts.of_heap rfl, h.names.newSlot, h.below⟩

theorem dropWeak (h : m.Balanced f) (slot : SlotId) : (m.dropWeak slot).Balanced f :=
  ⟨h.accounts.of_heap rfl, h.names.drop slot, h.below⟩

theorem storeWeak (h : m.Balanced f) (slot : SlotId) {target : Option Address} (pos : ∀ a, target = some a → 0 < f a) :
    ∃ n, m.storeWeak slot target = some n ∧ n.Balanced f ∧ m.Later n := by
  cases target with
  | none => exact ⟨_, rfl, h.dropWeak slot, Later.of_heap rfl⟩
  | some a =>
    obtain ⟨o, live⟩ := h.accounts.live (pos a rfl)
    have marked : (m.put a { o with weaklyNamed := true }).Balanced f := h.amend live rfl fun _ => rfl
    have done : m.storeWeak slot (some a) = some _ := storeWeak_some_eq_some.mpr ⟨o, live, rfl⟩
    exact ⟨_, done, ⟨marked.accounts.of_heap rfl, h.names.storeWeak done, marked.below⟩,
      (later_put live).trans (Later.of_heap rfl)⟩

/-- A load takes one reference to what the slot names. -/
theorem loadWeak (h : m.Balanced f) (slot : SlotId) : ∃ r n, m.loadWeak slot = some (r, n) ∧
    n.Balanced (fun b => f b + r.toList.count b) ∧ m.Later n := by
  cases names : m.weak.target? slot with
  | none => exact ⟨none, m, loadWeak_of_none names, h, Later.of_heap rfl⟩
  | some a =>
    obtain ⟨o, live, -⟩ := h.names.marked slot a names
    have pos : 0 < f a := (h.accounts.isSome_iff a).mp (Option.isSome_iff_exists.mpr ⟨o, live⟩)
    obtain ⟨n, done, balanced, later⟩ := h.retain pos
    exact ⟨some a, n, loadWeak_of_some names done, balanced, later⟩

end Balanced
end Memory
end Messaging
