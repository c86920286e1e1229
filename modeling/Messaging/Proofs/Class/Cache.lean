import Messaging.Class.Table

/-! What classes remember of lookups. A cache that is stamped with the current epoch holds only what a walk
    along the superclass chain would find, so a lookup gives what the walk gives. The walk reads the methods and
    superclasses alone: `bare` forgets the caches, and a lookup changes nothing else. -/

namespace Messaging

namespace ClassEntry

def bare (c : ClassEntry) : ClassEntry := { c with cache := ⟨0, .empty⟩ }

theorem get?_methods_insert (c : ClassEntry) (kind k : MethodKind) (m : Method) (s : Selector) :
    ((c.insert kind m).methods k).get? s = if kind = k ∧ m.selector = s then some m else (c.methods k).get? s := by
  cases kind <;> cases k <;> simp [insert, methods, FiniteMap.get?_insert]

theorem id_insert (c : ClassEntry) (kind : MethodKind) (m : Method) : (c.insert kind m).id = c.id := by
  cases kind <;> rfl

theorem superclass_insert (c : ClassEntry) (kind : MethodKind) (m : Method) :
    (c.insert kind m).superclass = c.superclass := by
  cases kind <;> rfl

theorem cache_insert (c : ClassEntry) (kind : MethodKind) (m : Method) : (c.insert kind m).cache = c.cache := by
  cases kind <;> rfl

theorem bare_insert (c : ClassEntry) (kind : MethodKind) (m : Method) :
    (c.bare.insert kind m).bare = (c.insert kind m).bare := by
  cases kind <;> rfl

end ClassEntry

namespace ClassTable
variable {t u : ClassTable} {es older : List ClassEntry} {c : ClassEntry} {id above : ClassId} {kind : MethodKind}
  {s : Selector} {m : Method}

/-! ### Superclasses are older -/

/-- Classes, newest first, are numbered in the order of creation, and a superclass was there before. -/
def Ordered : List ClassEntry → Prop
  | [] => True
  | c :: older =>
    c.id = ⟨older.length⟩ ∧ (∀ above, c.superclass = some above → above.toNat < older.length) ∧ Ordered older

theorem Ordered.id_lt (h : Ordered es) (mem : c ∈ es) : c.id.toNat < es.length := by
  induction es with
  | nil => cases mem
  | cons first older ih =>
    obtain ⟨same, -, h⟩ := h
    rcases List.mem_cons.mp mem with rfl | mem
    · rw [same]
      exact Nat.lt_succ_self _
    · exact Nat.lt_succ_of_lt (ih h mem)

theorem Ordered.superclass_lt (h : Ordered es) (mem : c ∈ es) (up : c.superclass = some above) :
    above.toNat < c.id.toNat := by
  induction es with
  | nil => cases mem
  | cons first older ih =>
    obtain ⟨same, first_up, h⟩ := h
    rcases List.mem_cons.mp mem with rfl | mem
    · rw [same]
      exact first_up above up
    · exact ih h mem

theorem Ordered.map {f : ClassEntry → ClassEntry} (h : Ordered es) (id : ∀ c, (f c).id = c.id)
    (up : ∀ c, (f c).superclass = c.superclass) : Ordered (es.map f) := by
  induction es with
  | nil => trivial
  | cons c older ih =>
    obtain ⟨same, first_up, h⟩ := h
    rw [List.map_cons, Ordered, List.length_map, id, up]
    exact ⟨same, first_up, ih h⟩

theorem chainFrom_cons_of_lt (same : c.id = ⟨older.length⟩) (lt : id.toNat < older.length) :
    chainFrom (c :: older) id = chainFrom older id := by
  rw [chainFrom, if_neg]
  rw [same]
  rintro rfl
  exact Nat.lt_irrefl _ lt

theorem find?_cons : ((c :: older).find? fun c => decide (c.id = id)) =
    if c.id = id then some c else older.find? fun c => decide (c.id = id) := by
  rw [List.find?_cons]
  by_cases here : c.id = id <;> simp [here]

/-- The chain of a class is the class and the chain of its superclass. The search among the older classes alone
    finds the same, since a superclass is among them. -/
theorem chainFrom_eq (h : Ordered es) (id : ClassId) :
    chainFrom es id = match es.find? fun c => decide (c.id = id) with
      | none => []
      | some c => c :: match c.superclass with
        | some above => chainFrom es above
        | none => [] := by
  induction es with
  | nil => rfl
  | cons c older ih =>
    obtain ⟨same, up, h⟩ := h
    by_cases here : c.id = id
    · rw [chainFrom, if_pos here, find?_cons, if_pos here]
      dsimp only
      cases above : c.superclass with
      | none => rfl
      | some a =>
        dsimp only
        rw [chainFrom_cons_of_lt same (up a above)]
    · rw [chainFrom, if_neg here, find?_cons, if_neg here, ih h]
      cases found : older.find? fun c => decide (c.id = id) with
      | none => rfl
      | some d =>
        dsimp only
        have mem := List.mem_of_find?_eq_some found
        cases above : d.superclass with
        | none => rfl
        | some a =>
          dsimp only
          rw [chainFrom_cons_of_lt same (Nat.lt_trans (h.superclass_lt mem above) (h.id_lt mem))]

theorem mem_of_get? (found : t.get? id = some c) : c ∈ t.entries ∧ c.id = id := by
  have same := List.find?_some found
  exact ⟨List.mem_of_find?_eq_some found, by simpa using same⟩

/-- The method of the class itself. -/
def own? (t : ClassTable) (id : ClassId) (kind : MethodKind) (s : Selector) : Option Method :=
  (t.get? id).bind fun c => (c.methods kind).get? s

def superclass? (t : ClassTable) (id : ClassId) : Option ClassId := (t.get? id).bind ClassEntry.superclass

theorem superclass?_lt (h : Ordered t.entries) (up : t.superclass? id = some above) : above.toNat < id.toNat := by
  obtain ⟨c, found, next⟩ := Option.bind_eq_some_iff.mp up
  obtain ⟨mem, rfl⟩ := mem_of_get? found
  exact h.superclass_lt mem next

/-- A class resolves to its own method, or else to what its superclass resolves to. -/
theorem resolve?_eq (h : Ordered t.entries) : t.resolve? id kind s =
    (t.own? id kind s).or ((t.superclass? id).bind fun above => t.resolve? above kind s) := by
  unfold resolve? chain own? superclass? get?
  rw [chainFrom_eq h]
  cases t.entries.find? fun c => decide (c.id = id) with
  | none => rfl
  | some c =>
    simp only [Option.bind_some, List.findSome?_cons]
    cases (c.methods kind).get? s with
    | some m => rfl
    | none =>
      cases c.superclass with
      | none => rfl
      | some above => rfl

/-! ### What changes -/

theorem get?_insert : (t.insert id kind m).2.get? above =
    (t.get? above).map fun c => if c.id = id then c.insert kind m else c := by
  have keeps : ((fun c : ClassEntry => decide (c.id = above)) ∘ fun c => if c.id = id then c.insert kind m else c) =
      fun c => decide (c.id = above) := by
    funext c
    simp only [Function.comp_apply]
    split
    · rw [ClassEntry.id_insert]
    · rfl
  show List.find? _ (t.entries.map _) = _
  rw [List.find?_map, keeps]
  rfl

/-- An insertion is seen in the table that it is made in, under the selector of the method, and nowhere else. -/
theorem own?_insert {k : MethodKind} (known : (t.get? id).isSome) : (t.insert id kind m).2.own? above k s =
    if id = above ∧ kind = k ∧ m.selector = s then some m else t.own? above k s := by
  unfold own?
  rw [get?_insert]
  cases found : t.get? above with
  | none =>
    have other : id ≠ above := by
      rintro rfl
      simp [found] at known
    simp [other]
  | some c =>
    obtain ⟨-, rfl⟩ := mem_of_get? found
    simp only [Option.map_some, Option.bind_some]
    by_cases here : c.id = id
    · simp only [here, if_true, true_and, ClassEntry.get?_methods_insert]
    · simp only [here, Ne.symm here, if_false, false_and]

theorem superclass?_insert : (t.insert id kind m).2.superclass? above = t.superclass? above := by
  unfold superclass?
  rw [get?_insert, Option.bind_map]
  refine Option.bind_congr fun c _ => ?_
  simp only [Function.comp_apply]
  split
  · exact ClassEntry.superclass_insert c kind m
  · rfl

/-- A new class has no method, and a method is not looked for in a class that is not there. -/
theorem own?_create (h : Ordered t.entries) (name : String) (superclass : Option ClassId) :
    own? { t with entries := .fresh ⟨t.entries.length⟩ name superclass :: t.entries } id kind s = t.own? id kind s := by
  unfold own? get?
  rw [find?_cons]
  split
  · next new =>
    have absent : (t.entries.find? fun c => decide (c.id = id)) = none := by
      refine List.find?_eq_none.mpr fun c mem same => ?_
      have lt := h.id_lt mem
      rw [of_decide_eq_true same, ← new] at lt
      exact Nat.lt_irrefl _ lt
    rw [absent]
    cases kind <;> rfl
  · rfl

/-! ### Without the caches -/

def bare (t : ClassTable) : ClassTable := ⟨t.entries.map ClassEntry.bare, 0⟩

theorem get?_bare : t.bare.get? id = (t.get? id).map ClassEntry.bare := by
  unfold bare get?
  rw [List.find?_map]
  rfl

theorem ordered_of_bare (same : t.bare = u.bare) (h : Ordered u.entries) : Ordered t.entries := by
  have bare (es : List ClassEntry) : Ordered (es.map ClassEntry.bare) ↔ Ordered es := by
    induction es with
    | nil => exact Iff.rfl
    | cons c older ih =>
      rw [List.map_cons, Ordered, Ordered, List.length_map, ih]
      exact Iff.rfl
  have entries : t.entries.map ClassEntry.bare = u.entries.map ClassEntry.bare := congrArg ClassTable.entries same
  rw [← bare, entries, bare]
  exact h

theorem own?_of_bare (same : t.bare = u.bare) : t.own? id kind s = u.own? id kind s := by
  have bare (t : ClassTable) : t.own? id kind s = t.bare.own? id kind s := by
    unfold own?
    rw [get?_bare, Option.bind_map]
    rfl
  rw [bare t, bare u, same]

/-- A change that leaves the identities and superclasses alone leaves the chains alone. -/
theorem chainFrom_map {f : ClassEntry → ClassEntry} (same : ∀ c, (f c).id = c.id)
    (up : ∀ c, (f c).superclass = c.superclass) : chainFrom (es.map f) id = (chainFrom es id).map f := by
  induction es generalizing id with
  | nil => rfl
  | cons c older ih =>
    rw [List.map_cons, chainFrom, chainFrom, same, up]
    split
    · cases c.superclass with
      | none => rfl
      | some above =>
        dsimp only
        rw [ih]
        rfl
    · exact ih

theorem resolve?_of_bare (same : t.bare = u.bare) : t.resolve? id kind s = u.resolve? id kind s := by
  have bare (t : ClassTable) : t.resolve? id kind s = t.bare.resolve? id kind s := by
    unfold resolve? chain
    show _ = List.findSome? _ (chainFrom (t.entries.map ClassEntry.bare) id)
    rw [chainFrom_map (f := ClassEntry.bare) (fun _ => rfl) fun _ => rfl, List.findSome?_map]
    rfl
  rw [bare t, bare u, same]

theorem bare_modify {change : ClassEntry → ClassEntry} (kept : ∀ c, (change c).bare = c.bare) :
    (t.modify id change).bare = t.bare := by
  unfold bare modify
  simp only [List.map_map, ClassTable.mk.injEq, and_true]
  refine List.map_congr_left fun c _ => ?_
  simp only [Function.comp_apply]
  split
  · exact kept c
  · rfl

theorem bare_remember : (t.remember id kind s m).bare = t.bare :=
  bare_modify fun c => by
    dsimp only
    split <;> rfl

/-- A lookup changes caches at most. -/
theorem bare_lookup : (t.lookup id kind s).2.bare = t.bare := by
  unfold lookup
  cases t.remembered? id kind s with
  | some m => rfl
  | none =>
    dsimp only
    cases t.resolve? id kind s with
    | some m => exact bare_remember
    | none => rfl

theorem isSome_get?_of_bare (same : t.bare = u.bare) : (t.get? id).isSome = (u.get? id).isSome := by
  have bare (t : ClassTable) : (t.get? id).isSome = (t.bare.get? id).isSome := by rw [get?_bare, Option.isSome_map]
  rw [bare t, bare u, same]

theorem isSome_named?_of_bare (same : t.bare = u.bare) (name : String) :
    (t.named? name).isSome = (u.named? name).isSome := by
  have bare (t : ClassTable) : (t.named? name).isSome = (t.bare.named? name).isSome := by
    unfold named? ClassTable.bare
    rw [List.find?_map, Option.isSome_map]
    rfl
  rw [bare t, bare u, same]

theorem bare_insert (same : t.bare = u.bare) : (t.insert id kind m).2.bare = (u.insert id kind m).2.bare := by
  have bare (t : ClassTable) : (t.insert id kind m).2.bare =
      ⟨t.bare.entries.map fun c => if c.id = id then (c.insert kind m).bare else c, 0⟩ := by
    simp only [insert, modify, ClassTable.bare, List.map_map]
    congr 1
    refine List.map_congr_left fun c _ => ?_
    simp only [Function.comp_apply]
    show (if c.id = id then c.insert kind m else c).bare = if c.id = id then (c.bare.insert kind m).bare else c.bare
    split
    · exact (ClassEntry.bare_insert c kind m).symm
    · rfl
  rw [bare t, bare u, same]

/-! ### What is remembered -/

/-- No cache is ahead of the table, and one that is up to date holds only what the walk finds. -/
structure Current (t : ClassTable) : Prop where
  stamped : ∀ c ∈ t.entries, c.cache.epoch ≤ t.epoch
  faithful : ∀ c ∈ t.entries, c.cache.epoch = t.epoch → ∀ kind s m, c.cache.found.get? (s, kind) = some m →
    t.resolve? c.id kind s = some m

/-- A lookup gives what the walk gives. -/
theorem lookup_eq (h : t.Current) : (t.lookup id kind s).1 = t.resolve? id kind s := by
  unfold lookup
  cases known : t.remembered? id kind s with
  | some m =>
    obtain ⟨c, found, entry⟩ := Option.bind_eq_some_iff.mp known
    obtain ⟨mem, rfl⟩ := mem_of_get? found
    split at entry
    · next upToDate => exact (h.faithful c mem upToDate kind s m entry).symm
    · cases entry
  | none =>
    dsimp only
    cases t.resolve? id kind s with
    | some m => rfl
    | none => rfl

theorem current_empty : empty.Current := ⟨nofun, nofun⟩

namespace Current

/-- The class that is asked brings its cache up to date and adds to it; the others stay as they are. -/
theorem mem_remember (h : t.Current) (mem : c ∈ (t.remember id kind s m).entries) : ∃ d ∈ t.entries,
    (d.id = id ∧ c = { d with
      cache := ⟨t.epoch, (if d.cache.epoch < t.epoch then .empty else d.cache.found).insert (s, kind) m⟩ }) ∨
    (d.id ≠ id ∧ c = d) := by
  obtain ⟨d, memD, rfl⟩ := List.mem_map.mp mem
  refine ⟨d, memD, ?_⟩
  by_cases asked : d.id = id
  · exact Or.inl ⟨asked, (if_pos asked).trans (if_pos (h.stamped d memD))⟩
  · exact Or.inr ⟨asked, if_neg asked⟩

theorem remember (h : t.Current) (found : t.resolve? id kind s = some m) : (t.remember id kind s m).Current where
  stamped c mem := by
    obtain ⟨d, memD, ⟨-, rfl⟩ | ⟨-, rfl⟩⟩ := h.mem_remember mem
    · exact Nat.le_refl _
    · exact h.stamped c memD
  faithful c mem upToDate k s' m' known := by
    rw [resolve?_of_bare bare_remember]
    obtain ⟨d, memD, ⟨rfl, rfl⟩ | ⟨-, rfl⟩⟩ := h.mem_remember mem
    · dsimp only at known ⊢
      rw [FiniteMap.get?_insert] at known
      split at known
      · next same =>
        cases same
        cases known
        exact found
      · -- What the class remembered before counts only if the cache was not emptied.
        split at known
        · cases known
        · next current =>
          have stamped := h.stamped d memD
          exact h.faithful d memD (by omega) k s' m' known
    · exact h.faithful c memD upToDate k s' m' known

theorem lookup (h : t.Current) (id : ClassId) (kind : MethodKind) (s : Selector) : (t.lookup id kind s).2.Current := by
  unfold ClassTable.lookup
  cases t.remembered? id kind s with
  | some m => exact h
  | none =>
    dsimp only
    cases found : t.resolve? id kind s with
    | some m => exact h.remember found
    | none => exact h

/-- After a method table changed no cache is up to date. -/
theorem insert (h : t.Current) (id : ClassId) (kind : MethodKind) (m : Method) : (t.insert id kind m).2.Current := by
  have behind : ∀ c ∈ (t.insert id kind m).2.entries, c.cache.epoch < t.epoch + 1 := by
    intro c mem
    obtain ⟨d, memD, rfl⟩ := List.mem_map.mp mem
    have stamped := h.stamped d memD
    split
    · rw [ClassEntry.cache_insert]
      exact Nat.lt_succ_of_le stamped
    · exact Nat.lt_succ_of_le stamped
  exact ⟨fun c mem => Nat.le_of_lt (behind c mem), fun c mem upToDate => absurd upToDate (Nat.ne_of_lt (behind c mem))⟩

/-- A new class remembers nothing, and the chains of the others stay as they are. -/
theorem create (h : t.Current) (ordered : Ordered t.entries) (name : String) (superclass : Option ClassId) :
    Current { t with entries := .fresh ⟨t.entries.length⟩ name superclass :: t.entries } where
  stamped c mem := by
    rcases List.mem_cons.mp mem with rfl | mem
    · exact Nat.zero_le _
    · exact h.stamped c mem
  faithful c mem upToDate k s m known := by
    rcases List.mem_cons.mp mem with rfl | mem
    · cases known
    · rw [resolve?, chain, chainFrom_cons_of_lt rfl (ordered.id_lt mem)]
      exact h.faithful c mem upToDate k s m known

end Current

/-! ### Adopting a protocol -/

/-- Looking for a method that is missing only looks methods up. -/
theorem bare_firstMissing {required : List Selector} : (t.firstMissing id required).2.bare = t.bare := by
  induction required generalizing t with
  | nil => rfl
  | cons s rest ih =>
    unfold firstMissing
    have looked : (t.lookup id .ofInstances s).2.bare = t.bare := bare_lookup
    generalize t.lookup id .ofInstances s = found at looked ⊢
    obtain ⟨_ | m, u⟩ := found
    · exact looked
    · exact ih.trans looked

theorem Current.firstMissing {required : List Selector} (h : t.Current) : (t.firstMissing id required).2.Current := by
  induction required generalizing t with
  | nil => exact h
  | cons s rest ih =>
    unfold ClassTable.firstMissing
    have looked := h.lookup id .ofInstances s
    generalize t.lookup id .ofInstances s = found at looked ⊢
    obtain ⟨_ | m, u⟩ := found
    · exact looked
    · exact ih looked

/-- The protocols of a class are noted beside its methods. -/
def noting (id : ClassId) (p : ProtocolId) (c : ClassEntry) : ClassEntry :=
  if c.id = id then { c with protocols := c.protocols ++ [p] } else c

theorem adopt_cases (t : ClassTable) (id : ClassId) (p : Protocol) :
    (t.adopt id p).2 = t ∨ (t.adopt id p).2 = (t.firstMissing id p.required).2 ∨
    (t.adopt id p).2 = { (t.firstMissing id p.required).2 with
      entries := (t.firstMissing id p.required).2.entries.map (noting id p.id) } := by
  unfold adopt
  split
  · exact Or.inl rfl
  · generalize t.firstMissing id p.required = found
    obtain ⟨_ | s, u⟩ := found
    · exact Or.inr (Or.inr rfl)
    · exact Or.inr (Or.inl rfl)

theorem noting_eq (id : ClassId) (p : ProtocolId) (c : ClassEntry) : (noting id p c).id = c.id ∧
    (noting id p c).superclass = c.superclass ∧ (noting id p c).cache = c.cache ∧
    ∀ kind, (noting id p c).methods kind = c.methods kind := by
  unfold noting
  split
  · exact ⟨rfl, rfl, rfl, fun kind => by cases kind <;> rfl⟩
  · exact ⟨rfl, rfl, rfl, fun _ => rfl⟩

theorem Current.noting (h : t.Current) (id : ClassId) (p : ProtocolId) :
    Current { t with entries := t.entries.map (noting id p) } := by
  have resolve (c : ClassId) (kind : MethodKind) (s : Selector) :
      resolve? { t with entries := t.entries.map (ClassTable.noting id p) } c kind s = t.resolve? c kind s := by
    unfold resolve? chain
    rw [chainFrom_map (fun c => (noting_eq id p c).1) fun c => (noting_eq id p c).2.1, List.findSome?_map]
    simp only [Function.comp_def, (noting_eq id p _).2.2.2]
  refine ⟨fun c mem => ?_, fun c mem upToDate kind s m known => ?_⟩
  · obtain ⟨d, memD, rfl⟩ := List.mem_map.mp mem
    rw [(noting_eq id p d).2.2.1]
    exact h.stamped d memD
  · obtain ⟨d, memD, rfl⟩ := List.mem_map.mp mem
    rw [resolve, (noting_eq id p d).1]
    rw [(noting_eq id p d).2.2.1] at upToDate known
    exact h.faithful d memD upToDate kind s m known

theorem Current.adopt (h : t.Current) (id : ClassId) (p : Protocol) : (t.adopt id p).2.Current := by
  rcases adopt_cases t id p with same | same | same
  · rwa [same]
  · rw [same]
    exact h.firstMissing
  · rw [same]
    exact h.firstMissing.noting id p.id

theorem ordered_adopt {p : Protocol} (h : Ordered t.entries) : Ordered (t.adopt id p).2.entries := by
  rcases adopt_cases t id p with same | same | same
  · rwa [same]
  · rw [same]
    exact ordered_of_bare bare_firstMissing h
  · rw [same]
    exact (ordered_of_bare bare_firstMissing h).map (fun c => (noting_eq id p.id c).1) fun c => (noting_eq id p.id c).2.1

end ClassTable
end Messaging
