import Messaging.Proofs.Guards.AnyOrder
import Messaging.Proofs.Guards.Unwound
import Messaging.Proofs.Unwinding.Frames

/-! Pools in guarded regions. An operation pushes pools by guards and without, pops some, autoreleases objects and then
    throws. The unwinding gives up the guards that are left, and nothing else: a raw pool that was not popped stays,
    with all below it. -/

namespace Messaging
namespace Guards
namespace Regions
open PoolStack Exec
open Conservation (Deed)
open Unwinding (Frame Region owners unwinding plus plus_append plus_comm plus_pos plus_reverse le_plus)

/-- The tokens are those of guards that were opened in the region and not dropped yet. What is handed to a pool of the
    region is filed, and what its pools give up before the throw is released. -/
structure Stage where
  base : Conservation.Stage
  tokens : List Nat
  filed : List Address
  released : List Address

namespace Stage

def pools (s : Stage) : PoolStack := s.base.memory.pools

/-- The deeds of an operation end well. It drops its own guards, and pops no pool below the region. -/
def Permits (floor : Nat) (s : Stage) (deed : Deed) : Prop :=
  s.base.Permits deed ∧ (∃ brought, (deed.run.outcome s.base.machine).1 = .ok brought) ∧
    match deed with
    | .pop token => floor ≤ token
    | .dropGuard token => token ∈ s.tokens
    | _ => True

def files (floor : Nat) (s : Stage) : Deed → List Address
  | .autorelease a | .handOver a _ => if floor < s.pools.depth then [a] else []
  | _ => []

def gives (s : Stage) : Deed → List Address
  | .pop token => (s.pools.pop token).1
  | .dropGuard token => (s.pools.retire token).1
  | _ => []

def tokensAfter (s : Stage) : Deed → List Nat
  | .openGuard => s.pools.depth :: s.tokens
  | .dropGuard token => s.tokens.erase token
  | _ => s.tokens

def perform (floor : Nat) (s : Stage) (deed : Deed) : Stage :=
  ⟨s.base.perform deed, s.tokensAfter deed, s.filed ++ s.files floor deed, s.released ++ s.gives deed⟩

end Stage

/-- The deeds of an operation in a region, the first one first. -/
inductive Run (entry : Conservation.Stage) : List Deed → Stage → Prop
  | start : Run entry [] ⟨entry, [], [], []⟩
  | step {deeds : List Deed} {s : Stage} (run : Run entry deeds s) (deed : Deed)
      (permitted : s.Permits entry.memory.pools.depth deed) :
      Run entry (deeds ++ [deed]) (s.perform entry.memory.pools.depth deed)

/-- How an operation throws: something new, or an object, with the reference that it owns or with another. -/
inductive Raise
  | exception (name reason : String)
  | text (contents : String)
  | owned (a : Address)
  | kept (a : Address)

namespace Raise

def run : Raise → Exec Unit
  | exception name reason => raiseNamed name reason
  | text contents => throwText contents
  | owned a => throwObject a
  | kept a => do
    retain a
    throwObject a

def Permits (s : Conservation.Stage) : Raise → Prop
  | owned a => a ∈ s.holdings.raw
  | kept a => (s.memory.get? a).isSome
  | _ => True

end Raise

def tokensOf (frames : List Frame) : List Nat :=
  frames.filterMap fun
    | .pool token => some token
    | .handle _ => none

/-- The frames of an operation have the guards that are left, and some of the handles. -/
def Fits (s : Stage) (frames : List Frame) : Prop :=
  (tokensOf frames).Perm s.tokens ∧ ∀ b, (owners frames).count b ≤ s.base.holdings.handles.count b

/-- What is run in a region: the deeds, and a throw that unwinds the frames that are left. -/
def operation (deeds : List Deed) (raise : Raise) (frames : List Frame) : Exec Unit := do
  deeds.forM fun deed => do let _ ← deed.run
  ensuring raise.run (unwinding frames)

/-- A guarded region, entered from within or through the entry point that nothing may unwind through. -/
inductive Boundary
  | region (region : Region)
  | entryPoint

def Boundary.run (x : Exec Unit) : Boundary → Exec (Option Address)
  | region r => r.run x
  | entryPoint => confined (guardedCall x)

/-- What a region leaves that ends by a throw. `inner` are the levels of the region at the throw and `outer` those below;
    `thrown` is the memory when the unwinding begins, and `gone` is what is released by it. -/
structure Ending (entry : Conservation.Stage) (s : Stage) (frames : List Frame) (thrown left : Memory)
    (outer inner : List Level) (gone : List Address) : Prop where
  levels : s.pools = ofLevels (outer ++ inner)
  length : outer.length = entry.memory.pools.depth
  pools : left.pools = ofLevels (outer ++ unwound s.tokens entry.memory.pools.depth inner)
  filed : s.filed.Perm (s.released ++ gone ++ objectsOf (unwound s.tokens entry.memory.pools.depth inner))
  counts : ∀ b, thrown.count b = left.count b + gone.count b + (owners frames).count b

variable {machine : Machine} {history : List Conservation.Moment} {entry : Conservation.Stage} {deeds : List Deed}
  {s : Stage} {deed : Deed} {raise : Raise} {frames : List Frame} {floor : Nat} {a b : Address}
  {outer inner : List Level}

/-! ### The levels of a region -/

/-- The levels below a region, which are settled, and those of the region. -/
structure Within (floor : Nat) (s : Stage) (outer inner : List Level) : Prop where
  levels : s.pools = ofLevels (outer ++ inner)
  length : outer.length = floor
  settled : (ofLevels outer).Settled
  tokens : ∀ t ∈ s.tokens, floor ≤ t
  filed : s.filed.Perm (s.released ++ objectsOf inner)

/-- Each level of a region that is in use has its guard, and one is on top if there is any. -/
structure Held (floor : Nat) (s : Stage) (inner : List Level) : Prop where
  guarded : ∀ (j : Nat) l, inner[j]? = some l → l.live = true → floor + j ∈ s.tokens
  settled : (ofLevels inner).Settled

theorem pools_perform_region : (s.perform floor deed).pools = stackAfter s.pools deed := pools_perform s.base deed

namespace Within

theorem depth (h : Within floor s outer inner) : s.pools.depth = floor + inner.length := by
  rw [h.levels, depth_ofLevels, List.length_append, h.length]

theorem other (h : Within floor s outer inner) (same : stackAfter s.pools deed = s.pools)
    (tokens : s.tokensAfter deed = s.tokens) (files : s.files floor deed = []) (gives : s.gives deed = []) :
    Within floor (s.perform floor deed) outer inner where
  levels := by rw [pools_perform_region, same, h.levels]
  length := h.length
  settled := h.settled
  tokens := by
    show ∀ t ∈ s.tokensAfter deed, _
    rw [tokens]
    exact h.tokens
  filed := by
    show (s.filed ++ s.files floor deed).Perm ((s.released ++ s.gives deed) ++ _)
    rw [files, gives, List.append_nil, List.append_nil]
    exact h.filed

theorem push (h : Within floor s outer inner) (pushes : deed = .push ∨ deed = .openGuard) :
    Within floor (s.perform floor deed) outer (inner ++ [⟨true, []⟩]) where
  levels := by
    have pushed : stackAfter s.pools deed = s.pools.push.2 := by rcases pushes with rfl | rfl <;> rfl
    rw [pools_perform_region, pushed, h.levels, push_ofLevels, List.append_assoc]
  length := h.length
  settled := h.settled
  tokens := by
    rcases pushes with rfl | rfl
    · exact h.tokens
    · intro t mem
      rcases List.mem_cons.mp mem with rfl | mem
      · rw [h.depth]
        exact Nat.le_add_right _ _
      · exact h.tokens t mem
  filed := by
    have nothing : s.files floor deed = [] ∧ s.gives deed = [] := by rcases pushes with rfl | rfl <;> exact ⟨rfl, rfl⟩
    show (s.filed ++ s.files floor deed).Perm ((s.released ++ s.gives deed) ++ _)
    rw [nothing.1, nothing.2, List.append_nil, List.append_nil, objectsOf_append, objectsOf_cons, objectsOf_nil,
      List.append_nil, List.append_nil]
    exact h.filed

theorem filed_cut (h : Within floor s outer inner) {kept gone : List Address} (parts : objectsOf inner = kept ++ gone) :
    s.filed.Perm ((s.released ++ gone.reverse) ++ kept) := by
  refine h.filed.trans ?_
  rw [parts, List.append_assoc]
  exact (List.perm_append_comm.trans ((List.reverse_perm gone).symm.append_right kept)).append_left _

theorem pop (h : Within floor s outer inner) {token : Nat} (low : floor ≤ token) :
    Within floor (s.perform floor (.pop token)) outer (inner.take (token - floor)) := by
  have popped : s.pools.pop token =
      ((objectsOf (inner.drop (token - floor))).reverse, ofLevels (outer ++ inner.take (token - floor))) := by
    -- The token is not below the region, so all that goes is of the region.
    have below : outer.length ≤ token := h.length ▸ low
    rw [h.levels, pop_ofLevels, List.drop_append, List.take_append, List.drop_of_length_le below,
      List.take_of_length_le below, List.nil_append, h.length]
  refine ⟨?_, h.length, h.settled, h.tokens, ?_⟩
  · rw [pools_perform_region]
    exact congrArg Prod.snd popped
  · have parts : objectsOf inner = objectsOf (inner.take (token - floor)) ++ objectsOf (inner.drop (token - floor)) := by
      rw [← objectsOf_append, List.take_append_drop]
    have cut := h.filed_cut parts
    show (s.filed ++ []).Perm ((s.released ++ (s.pools.pop token).1) ++ _)
    rw [popped, List.append_nil]
    exact cut

theorem drop (h : Within floor s outer inner) {token : Nat} (mem : token ∈ s.tokens) :
    Within floor (s.perform floor (.dropGuard token)) outer (unwound [token] floor inner) := by
  have low : outer.length ≤ token := h.length ▸ h.tokens token mem
  obtain ⟨gone, retired, parts⟩ := retire_unwound h.settled low inner
  rw [← h.levels, h.length] at retired
  rw [h.length] at parts
  refine ⟨?_, h.length, h.settled, fun t mem => h.tokens t (List.mem_of_mem_erase mem), ?_⟩
  · rw [pools_perform_region]
    exact congrArg Prod.snd retired
  · have cut := h.filed_cut parts
    show (s.filed ++ []).Perm ((s.released ++ (s.pools.retire token).1) ++ _)
    rw [retired, List.append_nil]
    exact cut

/-- What is handed over goes to the topmost level, which is one of the region if the region has any. -/
theorem file (h : Within floor s outer inner) (a : Address) (pools : stackAfter s.pools deed = (s.pools.add? a).getD s.pools)
    (tokens : s.tokensAfter deed = s.tokens) (gives : s.gives deed = [])
    (files : s.files floor deed = if floor < s.pools.depth then [a] else []) :
    ∃ outer inner', Within floor (s.perform floor deed) outer inner' ∧ inner'.map Level.live = inner.map Level.live := by
  have low : ∀ t ∈ (s.perform floor deed).tokens, floor ≤ t := by
    show ∀ t ∈ s.tokensAfter deed, _
    rw [tokens]
    exact h.tokens
  have filed (inner' : List Level) (same : objectsOf inner' = objectsOf inner ++ s.files floor deed) :
      (s.perform floor deed).filed.Perm ((s.perform floor deed).released ++ objectsOf inner') := by
    show (s.filed ++ s.files floor deed).Perm ((s.released ++ s.gives deed) ++ _)
    rw [same, gives, List.append_nil, ← List.append_assoc]
    exact h.filed.append_right _
  rcases List.eq_nil_or_concat' inner with rfl | ⟨inner, l, rfl⟩
  · have nothing : s.files floor deed = [] := by
      rw [files, h.depth, if_neg (by simp)]
    rcases List.eq_nil_or_concat' outer with rfl | ⟨outer, l, rfl⟩
    · refine ⟨[], [], ⟨?_, h.length, h.settled, low, filed _ (by rw [nothing]; rfl)⟩, rfl⟩
      rw [pools_perform_region, pools, h.levels]
      rfl
    · refine ⟨outer ++ [{ l with objects := l.objects ++ [a] }], [], ⟨?_, ?_, ?_, low, filed _ (by rw [nothing]; rfl)⟩, rfl⟩
      · rw [pools_perform_region, pools, h.levels, List.append_nil, add?_ofLevels, List.append_nil]
        rfl
      · rw [← h.length]
        simp
      · have settled := h.settled
        rw [settled_ofLevels] at settled ⊢
        simpa using settled
  · have one : s.files floor deed = [a] := by
      rw [files, h.depth, if_pos (by simp)]
    refine ⟨outer, inner ++ [{ l with objects := l.objects ++ [a] }], ⟨?_, h.length, h.settled, low, filed _ ?_⟩, by simp⟩
    · rw [pools_perform_region, pools, h.levels, ← List.append_assoc, add?_ofLevels, List.append_assoc]
      rfl
    · rw [one]
      simp

end Within

/-! ### Guards alone -/

namespace Held

/-- Only the tokens and what is in use matter. -/
theorem of_live {t : Stage} {inner' : List Level} (h : Held floor s inner) (tokens : t.tokens = s.tokens)
    (same : inner'.map Level.live = inner.map Level.live) : Held floor t inner' where
  guarded j l found live := by
    have there : (inner'.map Level.live)[j]? = some true := by rw [List.getElem?_map, found, ← live]; rfl
    rw [same, List.getElem?_map] at there
    obtain ⟨k, found, live⟩ := Option.map_eq_some_iff.mp there
    rw [tokens]
    exact h.guarded j k found live
  settled := by
    rw [settled_ofLevels]
    intro l top
    have there : (inner'.map Level.live).getLast? = some l.live := by rw [List.getLast?_map, top]; rfl
    rw [same, List.getLast?_map] at there
    obtain ⟨k, top, live⟩ := Option.map_eq_some_iff.mp there
    rw [← live]
    exact settled_ofLevels.mp h.settled k top

theorem openGuard (h : Held floor s inner) (depth : s.pools.depth = floor + inner.length) :
    Held floor (s.perform floor .openGuard) (inner ++ [⟨true, []⟩]) where
  guarded j l found live := by
    show _ ∈ s.pools.depth :: s.tokens
    rcases Nat.lt_trichotomy j inner.length with inside | rfl | beyond
    · rw [List.getElem?_append_left inside] at found
      exact List.mem_cons_of_mem _ (h.guarded j l found live)
    · rw [depth]
      exact List.mem_cons_self
    · rw [List.getElem?_eq_none (by simp; omega)] at found
      cases found
  settled := settled_ofLevels.mpr (by simp)

theorem drop (h : Held floor s inner) (token : Nat) :
    Held floor (s.perform floor (.dropGuard token)) (unwound [token] floor inner) := by
  have kept {j : Nat} {l : Level} (found : inner[j]? = some l) (live : l.live = true) (other : floor + j ≠ token) :
      floor + j ∈ s.tokens.erase token :=
    (List.mem_erase_of_ne other).mpr (h.guarded j l found live)
  unfold unwound
  split
  · refine ⟨fun j l found live => ?_, settled_iff.mpr (List.rdropWhile_idempotent _ _)⟩
    have before := getElem?_of_rdropWhile found
    rw [getElem?_giveUp] at before
    obtain ⟨k, there, rfl⟩ := Option.map_eq_some_iff.mp before
    by_cases given : floor + j ∈ [token]
    · rw [if_pos given] at live
      cases live
    · rw [if_neg given] at live
      exact kept there live fun same => given (List.mem_singleton.mpr same)
  · next away =>
    refine ⟨fun j l found live => kept found live ?_, h.settled⟩
    rintro rfl
    have inside : j < inner.length := (List.getElem?_eq_some_iff.mp found).1
    exact away ⟨_, .head _, Nat.le_add_right _ _, Nat.add_lt_add_left inside _⟩

/-- With their guards, the levels of the region go. -/
theorem unwound_eq_nil (h : Held floor s inner) : unwound s.tokens floor inner = [] := by
  rw [unwound_eq_nil_iff]
  rcases List.eq_nil_or_concat' inner with rfl | ⟨below, l, rfl⟩
  · exact Or.inl rfl
  · have live : l.live = true := settled_ofLevels.mp h.settled l (by simp)
    have top := h.guarded below.length l List.getElem?_concat_length live
    exact Or.inr ⟨⟨_, top, by simp⟩, h.guarded⟩

end Held

/-! ### Runs in a region -/

theorem innermost_of_handOver {t : Machine} {token : Nat} {brought : Option Address}
    (done : ((Deed.handOver a token).run.outcome t).1 = .ok brought) : t.memory.pools.isInnermost token = true := by
  cases innermost : t.memory.pools.isInnermost token with
  | true => rfl
  | false =>
    obtain ⟨text, panics⟩ := outcome_assertInnermost_panic innermost
    have panicked : ∃ i u, (handOver a token).outcome t = (.error i, u) := by
      unfold handOver
      rw [outcome_bind_ok (outcome_attempt _), panics]
      dsimp only
      rw [outcome_bind]
      rcases (release a).outcome t with ⟨_ | _, u⟩ <;> exact ⟨_, _, rfl⟩
    obtain ⟨i, u, ended⟩ := panicked
    have ended : (Deed.handOver a token).run.outcome t = _ := outcome_bind_error ended
    rw [ended] at done
    cases done

theorem Within.step (h : Within floor s outer inner) (permitted : s.Permits floor deed) :
    ∃ outer' inner', Within floor (s.perform floor deed) outer' inner' ∧
      (Guarded deed → Held floor s inner → Held floor (s.perform floor deed) inner') := by
  -- What is handed over changes no level but for its objects.
  have files (a : Address) (pools : stackAfter s.pools deed = (s.pools.add? a).getD s.pools)
      (tokens : s.tokensAfter deed = s.tokens) (gives : s.gives deed = [])
      (files : s.files floor deed = if floor < s.pools.depth then [a] else []) :
      ∃ outer' inner', Within floor (s.perform floor deed) outer' inner' ∧
        (Guarded deed → Held floor s inner → Held floor (s.perform floor deed) inner') := by
    obtain ⟨outer', inner', within, live⟩ := h.file a pools tokens gives files
    exact ⟨outer', inner', within, fun _ held => held.of_live tokens live⟩
  cases deed with
  | push => exact ⟨outer, _, h.push (Or.inl rfl), nofun⟩
  | openGuard => exact ⟨outer, _, h.push (Or.inr rfl), fun _ held => held.openGuard h.depth⟩
  | pop token => exact ⟨outer, _, h.pop permitted.2.2, nofun⟩
  | dropGuard token => exact ⟨outer, _, h.drop permitted.2.2, fun _ held => held.drop token⟩
  | autorelease a => exact files a rfl rfl rfl rfl
  | handOver a token =>
    obtain ⟨-, ⟨brought, done⟩, -⟩ := permitted
    exact files a (if_pos (innermost_of_handOver done)) rfl rfl rfl
  | _ => exact ⟨outer, inner, h.other rfl rfl rfl rfl, fun _ held => held.of_live rfl rfl⟩

theorem Run.within (settled : entry.memory.pools.Settled) (leveled : ∃ ls, entry.memory.pools = ofLevels ls)
    (run : Run entry deeds s) : ∃ outer inner, Within entry.memory.pools.depth s outer inner ∧
      ((∀ deed ∈ deeds, Guarded deed) → Held entry.memory.pools.depth s inner) := by
  induction run with
  | start =>
    obtain ⟨ls, same⟩ := leveled
    refine ⟨ls, [], ⟨?_, ?_, ?_, fun _ mem => absurd mem List.not_mem_nil, .nil⟩, fun _ => ⟨?_, ?_⟩⟩
    · rw [List.append_nil]
      exact same
    · rw [same, depth_ofLevels]
    · rw [← same]
      exact settled
    · intro j l found
      simp at found
    · exact settled_ofLevels.mpr (by simp)
  | @step deeds s run deed permitted ih =>
    obtain ⟨outer, inner, within, held⟩ := ih
    obtain ⟨outer', inner', within', holds⟩ := within.step permitted
    refine ⟨outer', inner', within', fun guarded => ?_⟩
    exact holds (guarded deed (by simp)) (held fun deed mem => guarded deed (List.mem_append_left _ mem))

theorem exists_levels {base : Conservation.Stage} (run : Conservation.Run machine history base) :
    ∃ ls, base.memory.pools = ofLevels ls := by
  induction run with
  | start start nothing =>
    refine ⟨[], ?_⟩
    show machine.memory.pools = _
    rw [nothing]
    rfl
  | @step history base run deed permitted ih =>
    obtain ⟨ls, same⟩ := ih
    have filed (a : Address) : ∃ ls', ((ofLevels ls).add? a).getD (ofLevels ls) = ofLevels ls' := by
      rcases List.eq_nil_or_concat' ls with rfl | ⟨below, l, rfl⟩
      · exact ⟨[], rfl⟩
      · exact ⟨_, by rw [add?_ofLevels]; rfl⟩
    rw [pools_perform, same]
    cases deed with
    | push | openGuard => exact ⟨_, congrArg Prod.snd push_ofLevels⟩
    | pop token => exact ⟨_, congrArg Prod.snd pop_ofLevels⟩
    | dropGuard token =>
      have bottom : (ofLevels []).Settled := settled_ofLevels.mpr (by simp)
      obtain ⟨gone, retired, -⟩ := retire_unwound bottom (Nat.zero_le token) ls
      exact ⟨_, congrArg Prod.snd retired⟩
    | autorelease a => exact filed a
    | handOver a token =>
      simp only [stackAfter]
      split
      · exact filed a
      · exact ⟨ls, rfl⟩
    | _ => exact ⟨ls, rfl⟩

theorem Run.conserved (whole : Conservation.Run machine history entry) (run : Run entry deeds s) :
    ∃ history, Conservation.Run machine history s.base := by
  induction run with
  | start => exact ⟨history, whole⟩
  | step _ deed permitted ih =>
    obtain ⟨history, run⟩ := ih
    exact ⟨_, run.step deed permitted.1⟩

theorem Run.outcome (run : Run entry deeds s) :
    (deeds.forM fun deed => do let _ ← deed.run : Exec Unit).outcome entry.machine = (.ok (), s.base.machine) := by
  induction run with
  | start => rfl
  | @step deeds s run deed permitted ih =>
    obtain ⟨-, ⟨brought, done⟩, -⟩ := permitted
    have ran : deed.run.outcome s.base.machine = (.ok brought, (deed.run.outcome s.base.machine).2) := Prod.ext done rfl
    rw [List.forM_eq_forM] at ih ⊢
    rw [List.forM_append, outcome_bind_ok ih]
    exact outcome_bind_ok (outcome_bind_ok ran)

/-! ### Throwing and unwinding -/

/-- The references apart from those in the pools. -/
def apart (s : Conservation.Stage) (b : Address) : Nat :=
  s.holdings.raw.count b + s.holdings.handles.count b + s.holdings.flying.count b + s.holdings.leaked.count b

theorem owed_eq (base : Conservation.Stage) : base.owed = plus (apart base) base.memory.pools.objects := by
  funext b
  simp only [Conservation.Stage.owed, Conservation.Holdings.owed, apart, plus]
  omega

theorem thrown_of_raised {x : Exec Unit} {t : Machine} {g : Address → Nat}
    (balanced : t.memory.Balanced (plus g t.memory.pools.objects))
    (made : ∃ i u, t.memory.Raised u.memory i ∧ x.outcome t = (.error i, u))
    (throws : (x.outcome t).1 = .error (.thrown a)) : ∃ u, x.outcome t = (.error (.thrown a), u) ∧
      u.memory.pools = t.memory.pools ∧ u.memory.Balanced (plus (plus g [a]) u.memory.pools.objects) := by
  obtain ⟨i, u, raised, ends⟩ := made
  rw [ends] at throws
  cases throws
  rcases raised with ⟨text, same, -⟩ | ⟨cls, p, same, carrying⟩
  · cases same
  · cases same
    obtain ⟨placed, -⟩ := balanced.alloc cls
    have attached := placed.attach (Memory.attach_place cls p)
    refine ⟨u, ends, by rw [carrying]; rfl, ?_⟩
    rw [carrying, plus_comm]
    exact attached

/-- A throw leaves the pools alone. Its reference is a new one, or one that was owned. -/
theorem Raise.thrown {base : Conservation.Stage} (balanced : base.memory.Balanced base.owed) (permitted : raise.Permits base)
    (throws : (raise.run.outcome base.machine).1 = .error (.thrown a)) : ∃ u g,
      raise.run.outcome base.machine = (.error (.thrown a), u) ∧ u.memory.pools = base.memory.pools ∧
      u.memory.Balanced (plus g u.memory.pools.objects) ∧ ∀ b, base.holdings.handles.count b ≤ g b := by
  have handles (b : Address) : base.holdings.handles.count b ≤ apart base b := by
    unfold apart
    omega
  have more (b : Address) : base.holdings.handles.count b ≤ plus (apart base) [a] b :=
    Nat.le_trans (handles b) (le_plus _ _)
  have positive := balanced
  rw [owed_eq] at balanced
  cases raise with
  | exception name reason =>
    obtain ⟨u, ends, pools, after⟩ := thrown_of_raised balanced (outcome_raiseNamed_or name reason) throws
    exact ⟨u, _, ends, pools, after, more⟩
  | text contents =>
    obtain ⟨u, ends, pools, after⟩ := thrown_of_raised balanced (outcome_throwText_or contents) throws
    exact ⟨u, _, ends, pools, after, more⟩
  | owned x =>
    obtain ⟨o, live⟩ := positive.accounts.live (Conservation.owed_pos (Or.inl permitted))
    obtain ⟨journal, ends⟩ := outcome_throwObject (α := Unit) live
    have ends : (run (.owned x)).outcome base.machine = _ := ends
    rw [ends] at throws
    cases throws
    exact ⟨_, apart base, ends, rfl, balanced, handles⟩
  | kept x =>
    obtain ⟨m, done, retained, -⟩ := balanced.retain ((balanced.accounts.isSome_iff x).mp permitted)
    obtain ⟨o, live⟩ : ∃ o, m.get? x = some o := retained.accounts.live (plus_pos x)
    obtain ⟨journal, thrown⟩ := outcome_throwObject (α := Unit) (s := { base.machine with memory := m }) live
    have ends : (run (.kept x)).outcome base.machine = _ := (outcome_bind_ok (outcome_retain done)).trans thrown
    rw [ends] at throws
    cases throws
    refine ⟨_, plus (apart base) [a], ends, Memory.pools_retain done, ?_, more⟩
    show m.Balanced (plus _ m.pools.objects)
    rw [Memory.pools_retain done, plus_comm]
    exact retained

/-- Frames are unwound: their handles are given up, and their guards, with what comes off the pools then. -/
theorem outcome_unwinding (frames : List Frame) {t : Machine} {g : Address → Nat} {inner : List Level}
    (balanced : t.memory.Balanced (plus (plus g (owners frames)) t.memory.pools.objects))
    (levels : t.memory.pools = ofLevels (outer ++ inner)) (settled : (ofLevels outer).Settled)
    (low : ∀ token ∈ tokensOf frames, outer.length ≤ token) : ∃ v, (unwinding frames).outcome t = (.ok (), v) ∧
      v.memory.pools = ofLevels (outer ++ unwound (tokensOf frames) outer.length inner) ∧
      v.memory.Balanced (plus g v.memory.pools.objects) := by
  induction frames generalizing t inner with
  | nil =>
    refine ⟨t, rfl, ?_, balanced⟩
    rw [tokensOf, List.filterMap_nil, unwound_nil]
    exact levels
  | cons frame frames ih =>
    cases frame with
    | handle a =>
      have owned : t.memory.Balanced (plus (plus (plus g (owners frames)) t.memory.pools.objects) [a]) := by
        refine balanced.congr fun b => ?_
        simp only [plus, owners, List.flatMap_cons, List.count_append]
        omega
      obtain ⟨m, done, after, -⟩ := Memory.Balanced.release owned
      obtain ⟨journal, released⟩ := outcome_release done
      have pools : m.pools = t.memory.pools := Memory.pools_release done
      obtain ⟨v, unwinds, rest⟩ := ih (t := { t with memory := m, journal }) (by rw [pools]; exact after)
        (pools.trans levels) low
      exact ⟨v, (outcome_bind_ok released).trans unwinds, rest⟩
    | pool token =>
      obtain ⟨gone, taken, parts⟩ := retire_unwound settled (low token List.mem_cons_self) inner
      rw [← levels] at taken
      -- The ledger has a reference for each entry that comes off, so no release can miss its object.
      have cutOff : Memory.Balanced { t.memory with pools := ofLevels (outer ++ unwound [token] outer.length inner) }
          (plus (plus (plus g (owners frames)) (ofLevels (outer ++ unwound [token] outer.length inner)).objects)
            gone.reverse) := by
        refine (balanced.setPools _).congr fun b => ?_
        rw [levels]
        simp only [plus, owners, List.flatMap_cons, ofLevels, objectsOf_append, parts, List.count_append,
          List.count_reverse, List.nil_append]
        omega
      obtain ⟨m, done, after, -⟩ := Memory.Balanced.releaseAll cutOff
      obtain ⟨journal, retired⟩ := outcome_retirePool taken done
      have pools : m.pools = ofLevels (outer ++ unwound [token] outer.length inner) := Memory.pools_releaseAll done
      obtain ⟨v, unwinds, rest⟩ := ih (t := { t with memory := m, journal }) (by rw [pools]; exact after) pools
        fun token mem => low token (List.mem_cons_of_mem _ mem)
      rw [unwound_unwound] at rest
      exact ⟨v, (outcome_bind_ok retired).trans unwinds, rest⟩

theorem Boundary.outcome_thrown {x : Exec Unit} {t u : Machine} (boundary : Boundary)
    (ran : x.outcome t = (.error (.thrown a), u)) : ∃ journal,
      (boundary.run x).outcome t = (.ok (some a), { u with journal }) := by
  cases boundary with
  | region r => exact Unwinding.outcome_region_thrown r ran
  | entryPoint =>
    obtain ⟨journal, caught⟩ := Unwinding.outcome_region_thrown .guardedCall ran
    exact ⟨journal, outcome_confined caught⟩

/-! ### Regions that end by a throw -/

namespace Ending
variable {thrown left : Memory} {gone : List Address}

theorem depth (ending : Ending entry s frames thrown left outer inner gone) : left.pools.depth =
    entry.memory.pools.depth + (unwound s.tokens entry.memory.pools.depth inner).length := by
  rw [ending.pools, depth_ofLevels, List.length_append, ending.length]

/-- A stack is as high as before if each level that was in use had its guard, and one of them was left to give up. -/
theorem depth_eq_iff (ending : Ending entry s frames thrown left outer inner gone) :
    left.pools.depth = entry.memory.pools.depth ↔ inner = [] ∨ Reaches s.tokens entry.memory.pools.depth inner ∧
      ∀ (j : Nat) l, inner[j]? = some l → l.live = true → entry.memory.pools.depth + j ∈ s.tokens := by
  rw [ending.depth, ← unwound_eq_nil_iff, ← List.length_eq_zero_iff]
  omega

theorem filed_of_depth (ending : Ending entry s frames thrown left outer inner gone)
    (same : left.pools.depth = entry.memory.pools.depth) : s.filed.Perm (s.released ++ gone) := by
  have nothing : unwound s.tokens entry.memory.pools.depth inner = [] := by
    have depth := ending.depth
    rw [← List.length_eq_zero_iff]
    omega
  have filed := ending.filed
  rw [nothing, objectsOf_nil, List.append_nil] at filed
  exact filed

end Ending

theorem count_gives (balanced : s.base.memory.Balanced s.base.owed) (takes : ∃ token, deed = .pop token ∨ deed = .dropGuard token)
    (b : Address) : s.base.memory.count b = (s.perform floor deed).base.memory.count b + (s.gives deed).count b := by
  have permitted : s.base.Permits deed := by
    obtain ⟨token, rfl | rfl⟩ := takes <;> exact trivial
  have holdings : (s.base.perform deed).holdings = s.base.holdings := by
    obtain ⟨token, rfl | rfl⟩ := takes <;> rfl
  have objects : (s.gives deed).count b + (s.base.perform deed).memory.pools.objects.count b =
      s.base.memory.pools.objects.count b := by
    rw [pools_perform]
    obtain ⟨token, rfl | rfl⟩ := takes
    · exact count_pop token
    · exact count_retire token
  have after : (s.perform floor deed).base.memory.count b = (s.base.perform deed).owed b :=
    (Conservation.perform_balanced balanced permitted).1.accounts.count b
  rw [balanced.accounts.count, after]
  simp only [Conservation.Stage.owed, Conservation.Holdings.owed, holdings]
  omega

theorem Run.ending (whole : Conservation.Run machine history entry) (settled : entry.memory.pools.Settled)
    (run : Run entry deeds s) (permitted : raise.Permits s.base)
    (throws : (raise.run.outcome s.base.machine).1 = .error (.thrown a)) (fits : Fits s frames) : ∃ t outer inner gone,
      (operation deeds raise frames).outcome entry.machine = (.error (.thrown a), t) ∧
      Ending entry s frames (raise.run.outcome s.base.machine).2.memory t.memory outer inner gone ∧
      ((∀ deed ∈ deeds, Guarded deed) → unwound s.tokens entry.memory.pools.depth inner = []) := by
  obtain ⟨outer, inner, within, held⟩ := run.within settled (exists_levels whole)
  obtain ⟨_, conserved⟩ := run.conserved whole
  obtain ⟨u, g, ends, pools, balanced, handles⟩ := Raise.thrown conserved.balanced permitted throws
  -- The handles of the frames are in the ledger, so they can be set apart in it.
  have owned : plus (fun b => g b - (owners frames).count b) (owners frames) = g := by
    funext b
    have enough := Nat.le_trans (fits.2 b) (handles b)
    simp only [plus]
    omega
  have same : ∀ token, token ∈ tokensOf frames ↔ token ∈ s.tokens := fun token => fits.1.mem_iff
  have levels : u.memory.pools = ofLevels (outer ++ inner) := pools.trans within.levels
  obtain ⟨t, unwinds, after, left⟩ := outcome_unwinding frames (owned.symm ▸ balanced) levels within.settled fun token mem =>
    within.length ▸ within.tokens token ((same token).mp mem)
  rw [unwound_congr same, within.length] at after
  obtain ⟨gone, parts⟩ := exists_objectsOf_unwound s.tokens entry.memory.pools.depth inner
  refine ⟨t, outer, inner, gone, ?_, ⟨within.levels, within.length, after, ?_, fun b => ?_⟩, fun guarded =>
    (held guarded).unwound_eq_nil⟩
  · exact (outcome_bind_ok run.outcome).trans (outcome_ensuring_error ends rfl unwinds)
  · rw [List.append_assoc]
    refine within.filed.trans (List.Perm.append_left _ ?_)
    rw [parts]
    exact List.perm_append_comm
  · have before := balanced.accounts.count b
    have later := left.accounts.count b
    have enough := Nat.le_trans (fits.2 b) (handles b)
    rw [levels] at before
    rw [after] at later
    simp only [plus, ofLevels, objectsOf_append, parts, List.count_append] at before later
    rw [ends]
    show u.memory.count b = _
    omega

/-- What a throw leaves of the pools of its region. The guards that are left are given up, and the region returns what was
    thrown. The stack is as high as at the entry exactly if the region had no level left, or a guard was left to give one
    up and each level in use had its guard; then all that was filed was released. So it is where no pool is raw. -/
theorem throw_gives_up_only_guards (whole : Conservation.Run machine history entry)
    (settled : entry.memory.pools.Settled) (run : Run entry deeds s) (permitted : raise.Permits s.base)
    (throws : (raise.run.outcome s.base.machine).1 = .error (.thrown a)) (fits : Fits s frames) (boundary : Boundary) :
    ∃ t outer inner gone,
      (boundary.run (operation deeds raise frames)).outcome entry.machine = (.ok (some a), t) ∧
      Ending entry s frames (raise.run.outcome s.base.machine).2.memory t.memory outer inner gone ∧
      (t.memory.pools.depth = entry.memory.pools.depth ↔ inner = [] ∨ Reaches s.tokens entry.memory.pools.depth inner ∧
        ∀ (j : Nat) l, inner[j]? = some l → l.live = true → entry.memory.pools.depth + j ∈ s.tokens) ∧
      (t.memory.pools.depth = entry.memory.pools.depth → s.filed.Perm (s.released ++ gone)) ∧
      ((∀ deed ∈ deeds, Guarded deed) → t.memory.pools.depth = entry.memory.pools.depth) ∧
      ∀ earlier u deed, Run entry earlier u → (∃ token, deed = .pop token ∨ deed = .dropGuard token) → ∀ b,
        u.base.memory.count b =
          (u.perform entry.memory.pools.depth deed).base.memory.count b + (u.gives deed).count b := by
  obtain ⟨t, outer, inner, gone, ends, ending, guarded⟩ := run.ending whole settled permitted throws fits
  obtain ⟨journal, caught⟩ := boundary.outcome_thrown ends
  have ending : Ending entry s frames _ { t with journal }.memory outer inner gone := ending
  refine ⟨_, outer, inner, gone, caught, ending, ending.depth_eq_iff, ending.filed_of_depth, fun all => ?_,
    fun earlier u deed run takes => ?_⟩
  · rw [ending.depth, guarded all]
    rfl
  · obtain ⟨_, conserved⟩ := run.conserved whole
    exact count_gives conserved.balanced takes

/-- An object is handed to the pool of a guard, and another is thrown. -/
theorem guard_is_given_up_by_a_throw : ∃ history entry s t,
    Conservation.Run (Machine.fresh 0 none (.fresh false false)) history entry ∧ entry.memory.pools.depth = 0 ∧
    Run entry [.openGuard, .autorelease ⟨64⟩] s ∧ Fits s [.pool 0] ∧ s.filed = [⟨64⟩] ∧
    (Boundary.entryPoint.run (operation [.openGuard, .autorelease ⟨64⟩] (.owned ⟨128⟩) [.pool 0])).outcome entry.machine =
      (.ok (some ⟨128⟩), t) ∧ t.memory.pools.depth = 0 := by
  have start : Conservation.Run (Machine.fresh 0 none (.fresh false false)) [] _ := .start 0 rfl
  have whole := (start.step (.alloc ⟨0⟩) trivial).step (.alloc ⟨0⟩) trivial
  have begun : Run (((⟨Machine.fresh 0 none (.fresh false false), ⟨[], [], [], []⟩⟩ : Conservation.Stage).perform
    (.alloc ⟨0⟩)).perform (.alloc ⟨0⟩)) [] _ := .start
  have opened := begun.step .openGuard ⟨trivial, ⟨none, rfl⟩, trivial⟩
  have run := opened.step (.autorelease ⟨64⟩) ⟨.tail _ (.head _), ⟨none, rfl⟩, trivial⟩
  have fits {u : Stage} (guards : u.tokens = [0]) : Fits u [.pool 0] := ⟨guards ▸ .refl _, fun _ => Nat.zero_le _⟩
  have permitted {u : Conservation.Stage} (raw : u.holdings.raw = [⟨128⟩]) : (Raise.owned ⟨128⟩).Permits u := by
    show _ ∈ u.holdings.raw
    rw [raw]
    exact .head _
  obtain ⟨t, outer, inner, gone, ends, -, -, -, restored, -⟩ :=
    throw_gives_up_only_guards whole nofun run (permitted rfl) rfl (fits rfl) .entryPoint
  exact ⟨_, _, _, t, whole, rfl, run, fits rfl, rfl, ends, restored (by simp [Guarded])⟩

/-- The same with a raw pool. It is still there, and the object in it. -/
theorem raw_pool_outlasts_a_throw : ∃ history entry s t,
    Conservation.Run (Machine.fresh 0 none (.fresh false false)) history entry ∧ entry.memory.pools.depth = 0 ∧
    Run entry [.push, .autorelease ⟨64⟩] s ∧ Fits s [] ∧ s.filed = [⟨64⟩] ∧
    (Boundary.entryPoint.run (operation [.push, .autorelease ⟨64⟩] (.owned ⟨128⟩) [])).outcome entry.machine =
      (.ok (some ⟨128⟩), t) ∧ t.memory.pools = ⟨[⟨64⟩], [⟨0, true⟩]⟩ ∧ (t.memory.get? ⟨64⟩).isSome := by
  have start : Conservation.Run (Machine.fresh 0 none (.fresh false false)) [] _ := .start 0 rfl
  have whole := (start.step (.alloc ⟨0⟩) trivial).step (.alloc ⟨0⟩) trivial
  have begun : Run (((⟨Machine.fresh 0 none (.fresh false false), ⟨[], [], [], []⟩⟩ : Conservation.Stage).perform
    (.alloc ⟨0⟩)).perform (.alloc ⟨0⟩)) [] _ := .start
  have pushed := begun.step .push ⟨trivial, ⟨none, rfl⟩, trivial⟩
  have run := pushed.step (.autorelease ⟨64⟩) ⟨.tail _ (.head _), ⟨none, rfl⟩, trivial⟩
  exact ⟨_, _, _, _, whole, rfl, run, ⟨.nil, fun _ => Nat.zero_le _⟩, rfl, rfl, rfl, rfl⟩

end Regions
end Guards
end Messaging
