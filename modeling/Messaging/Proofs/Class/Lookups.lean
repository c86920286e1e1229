import Messaging.Proofs.Class.Cache

/-! Lookups one after the other. What a class remembers of a lookup changes nothing that other lookups find. -/

namespace Messaging
namespace ClassTable
variable {t : ClassTable} {id other : ClassId} {kind kind' : MethodKind} {s s' : Selector} {m : Method}

theorem get?_modify {change : ClassEntry → ClassEntry} (same : ∀ c, (change c).id = c.id) :
    (t.modify id change).get? other = (t.get? other).map fun c => if c.id = id then change c else c := by
  have keeps : ((fun c : ClassEntry => decide (c.id = other)) ∘ fun c => if c.id = id then change c else c) =
      fun c => decide (c.id = other) := by
    funext c
    simp only [Function.comp_apply]
    split
    · rw [same]
    · rfl
  show List.find? _ (t.entries.map _) = _
  rw [List.find?_map, keeps]
  rfl

theorem lookup_fst : (t.lookup id kind s).1 = (t.remembered? id kind s).or (t.resolve? id kind s) := by
  unfold lookup
  cases t.remembered? id kind s with
  | some m => rfl
  | none =>
    dsimp only
    cases t.resolve? id kind s <;> rfl

/-- What is remembered now is the new entry, or was remembered before. -/
theorem remembered?_remember : (t.remember id kind s m).remembered? other kind' s' = t.remembered? other kind' s' ∨
    other = id ∧ s = s' ∧ kind = kind' ∧ (t.remember id kind s m).remembered? other kind' s' = some m := by
  have found : (t.remember id kind s m).get? other = (t.get? other).map _ := get?_modify fun c => by
    dsimp only
    split <;> rfl
  unfold remembered?
  rw [found]
  cases known : t.get? other with
  | none => exact Or.inl rfl
  | some c =>
    obtain ⟨-, rfl⟩ := mem_of_get? known
    simp only [Option.map_some, Option.bind_some]
    by_cases here : c.id = id
    · rw [if_pos here]
      by_cases current : c.cache.epoch ≤ t.epoch
      · rw [if_pos current]
        simp only [show (t.remember id kind s m).epoch = t.epoch from rfl, if_true, FiniteMap.get?_insert]
        by_cases entry : (s, kind) = (s', kind')
        · cases entry
          exact Or.inr ⟨here, rfl, rfl, if_pos rfl⟩
        · rw [if_neg entry]
          refine Or.inl ?_
          -- A cache that is out of date is emptied before the entry is made, but nothing in it counted any more.
          by_cases stale : c.cache.epoch < t.epoch
          · rw [if_pos stale, if_neg (Nat.ne_of_lt stale)]
            rfl
          · rw [if_neg stale, if_pos (by omega)]
      · rw [if_neg current]
        exact Or.inl rfl
    · rw [if_neg here]
      exact Or.inl rfl

theorem lookup_remember (found : t.resolve? id kind s = some m) (missed : t.remembered? id kind s = none) :
    ((t.remember id kind s m).lookup other kind' s').1 = (t.lookup other kind' s').1 := by
  rw [lookup_fst, lookup_fst, resolve?_of_bare bare_remember]
  have entries : (t.remember id kind s m).remembered? other kind' s' = _ ∨ _ := remembered?_remember
  rcases entries with same | ⟨rfl, rfl, rfl, entry⟩
  · rw [same]
  · rw [entry, missed, found]
    rfl

/-- A lookup finds what it would have found before another lookup. -/
theorem lookup_lookup : ((t.lookup id kind s).2.lookup other kind' s').1 = (t.lookup other kind' s').1 := by
  have second : (t.lookup id kind s).2 = t ∨
      ∃ m, t.resolve? id kind s = some m ∧ t.remembered? id kind s = none ∧
        (t.lookup id kind s).2 = t.remember id kind s m := by
    unfold lookup
    cases missed : t.remembered? id kind s with
    | some m => exact Or.inl rfl
    | none =>
      dsimp only
      cases found : t.resolve? id kind s with
      | some m => exact Or.inr ⟨m, rfl, rfl, rfl⟩
      | none => exact Or.inl rfl
  rcases second with same | ⟨m, found, missed, same⟩
  · rw [same]
  · rw [same]
    exact lookup_remember found missed

end ClassTable
end Messaging
