/-! Finite maps as association lists. An entry keeps its place when its value is replaced, so the
    order of the entries is the order in which their keys first came in. -/

namespace Messaging

/-- A finite map from `κ` to `α`. -/
structure FiniteMap (κ α : Type) where
  entries : List (κ × α)

namespace FiniteMap
variable {κ α : Type} [DecidableEq κ]

/-- The map with no entry. -/
def empty : FiniteMap κ α := ⟨[]⟩

/-- The value of the first entry for `k`. -/
def find (k : κ) : List (κ × α) → Option α
  | [] => none
  | (key, value) :: rest => if key = k then some value else find k rest

/-- Replaces the value of the first entry for `k`, or adds one at the end. -/
def put (k : κ) (v : α) : List (κ × α) → List (κ × α)
  | [] => [(k, v)]
  | (key, value) :: rest => if key = k then (k, v) :: rest else (key, value) :: put k v rest

/-- The value at `k`. -/
def get? (m : FiniteMap κ α) (k : κ) : Option α := find k m.entries

/-- Sets the value at `k`. -/
def insert (m : FiniteMap κ α) (k : κ) (v : α) : FiniteMap κ α := ⟨put k v m.entries⟩

/-- Removes the value at `k`. -/
def erase (m : FiniteMap κ α) (k : κ) : FiniteMap κ α := ⟨m.entries.filter fun e => decide (e.1 ≠ k)⟩

@[simp] theorem get?_empty (k : κ) : (empty : FiniteMap κ α).get? k = none := rfl

theorem find_put (k other : κ) (v : α) (es : List (κ × α)) :
    find other (put k v es) = if k = other then some v else find other es := by
  induction es with
  | nil => simp [put, find]
  | cons e rest ih =>
    obtain ⟨key, value⟩ := e
    by_cases same : key = k
    · subst same
      by_cases hit : key = other <;> simp [put, find, hit]
    · by_cases hit : key = other
      · subst hit
        simp [put, find, same, Ne.symm same]
      · simp [put, find, same, hit, ih]

/-- Setting one key changes no other. -/
theorem get?_insert (m : FiniteMap κ α) (k other : κ) (v : α) :
    (m.insert k v).get? other = if k = other then some v else m.get? other :=
  find_put k other v m.entries

@[simp] theorem get?_insert_self (m : FiniteMap κ α) (k : κ) (v : α) : (m.insert k v).get? k = some v := by
  simp [get?_insert]

theorem find_filter_ne (k other : κ) (es : List (κ × α)) :
    find other (es.filter fun e => decide (e.1 ≠ k)) = if k = other then none else find other es := by
  induction es with
  | nil => simp [find]
  | cons e rest ih =>
    obtain ⟨key, value⟩ := e
    by_cases same : key = k
    · subst same
      by_cases hit : key = other <;> simp_all [find]
    · by_cases hit : key = other
      · subst hit
        simp [find, same, Ne.symm same]
      · simp_all [find]

/-- Removing one key changes no other. -/
theorem get?_erase (m : FiniteMap κ α) (k other : κ) :
    (m.erase k).get? other = if k = other then none else m.get? other :=
  find_filter_ne k other m.entries

end FiniteMap
end Messaging
