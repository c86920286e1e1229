import Messaging.Proofs.Unwinding.Ends

/-! Guarded regions. What an operation throws or panics with is what every program around it ends with, up to the
    innermost guarded region if it throws: on the way the frames between are unwound, and nothing else happens. -/

namespace Messaging
namespace Unwinding
open Exec

variable {n m : Nat} {s t u v w : Machine} {g : Address → Nat} {a : Address} {added leaked : List Address} {env : Env n m}
  {i : Interruption} {fate : Fate m} {op : Op} {c c' d : Config} {js ks : List Frame}

/-- What is known of a program holds of the way in which it ended. -/
theorem Program.came {p : Program n m} {r : Except Interruption Unit} (fit : Fit env s g)
    (ran : (p.run env).outcome s = (r, u)) : ∃ added leaked, Comes p env s g r u added leaked := by
  obtain ⟨r', u', added, leaked, came⟩ := p.ending env s g fit
  obtain ⟨rfl, rfl⟩ := Prod.mk.inj (came.ends.symm.trans ran)
  exact ⟨added, leaked, came⟩

theorem Fit.caught {region : Region} {body : Program n m} (fit : Fit env s g)
    (caught : (region.run (body.run env)).outcome s = (.ok (some a), t)) : ∃ added leaked,
      Leaves s t added leaked (plus g [a]) ∧ Sound t (plus (plus g leaked) [a]) := by
  obtain ⟨r, u, added, leaked, came⟩ := body.ending env s g fit
  refine ⟨added, leaked, ?_⟩
  rcases came.toEnded.region region with ⟨rfl, ends⟩ | ⟨b, journal, rfl, ends⟩ | ⟨text, rfl, ends⟩
  · cases caught.symm.trans ends
  · cases caught.symm.trans ends
    exact fit.handler _ came.toEnded
  · cases caught.symm.trans ends

/-! ### Where a program may be -/

theorem Enters.fit (enters : Enters c c' ks) (fit : Fit c.env c.machine g) : ∃ g', Fit c'.env c'.machine g' := by
  cases enters with
  | first => exact ⟨g, fit⟩
  | second done =>
    obtain ⟨added, leaked, came⟩ := Program.came fit done
    exact ⟨_, fit.after came.leaves⟩
  | hold taken => exact ⟨_, (fit.hold taken).2⟩
  | pool => exact ⟨g, fit.sound.pushed, fit.owned⟩
  | handler caught =>
    obtain ⟨added, leaked, -, sound⟩ := fit.caught caught
    exact ⟨_, Fit.bind (fit.more leaked) sound⟩
  | method receiver admitted found accepted => exact ⟨g, fit.entered _ found⟩

theorem Visits.fit (visits : Visits c d) (fit : Fit c.env c.machine g) : ∃ g', Fit d.env d.machine g' := by
  induction visits generalizing g with
  | here => exact ⟨g, fit⟩
  | inside enters _ ih =>
    obtain ⟨g', fit'⟩ := enters.fit fit
    exact ih fit'
  | body _ ih => exact ih fit

theorem settle_eq (settles : fate.op? env a = some op) : fate.settle env a = op.run := by
  cases fate <;> cases settles <;> rfl

theorem ready_settle (sound : Sound s (plus g [a])) (settles : fate.op? env a = some op) : op.Ready s g := by
  cases fate <;> cases settles <;> exact ⟨sound, nofun⟩

/-- At the end of its frame a reference is still there. -/
theorem frame_done {body : Program (n + 1) m} (fit : Fit (env.bind a) s (plus g [a]))
    (done : (body.run (env.bind a)).outcome s = (.ok (), t)) : ∃ leaked, Sound t (plus (plus g leaked) [a]) := by
  obtain ⟨added, leaked, came⟩ := Program.came fit done
  have sound : Sound t (plus (plus g [a]) leaked) := came.leaves.sound fit.sound.settled
  rw [plus_comm] at sound
  exact ⟨leaked, sound⟩

/-- A reference that a call hands over is owned. If its caller threw it, it would be in flight. -/
theorem call_handed {target : Target n} {selector : Selector} {args : List Value} {result : Option (Source n)}
    {body : Program n m} (fit : Fit env s g) (handed : (target.handle env (methodCode (body.run env)
      (result.map (Source.take env)) (target.declared env selector s)) selector args .retained).outcome s =
        (.ok (some a), t)) : ∃ leaked, Sound t (plus (plus g leaked) [a]) := by
  -- The same call by a caller that throws the result is a program as well, and its end shows who owns the result.
  obtain ⟨r, u, added, leaked, came⟩ :=
    (Program.call target selector args (.retained result .throw) body).ending env s g fit
  have thrown : (throwObject a : Exec Unit).outcome t = (r, u) := by
    have ends := came.ends
    unfold Program.run Convention.perform at ends
    dsimp only at ends
    rw [outcome_bind_ok outcome_get, outcome_bind_ok handed] at ends
    exact ends
  cases live : t.memory.get? a with
  | none =>
    have stray : (throwObject a : Exec Unit).outcome t = (.error (.stray a), t) := by
      unfold throwObject
      refine outcome_bind_error (outcome_bind_error ?_)
      unfold objectAt
      rw [outcome_bind_ok outcome_get]
      simp only [live, outcome_throw]
    obtain ⟨rfl, rfl⟩ := Prod.mk.inj (stray.symm.trans thrown)
    cases came.unwinds
  | some o =>
    obtain ⟨journal, flies⟩ := outcome_throwObject (α := Unit) live
    obtain ⟨rfl, rfl⟩ := Prod.mk.inj (flies.symm.trans thrown)
    have sound : Sound { t with journal } (plus (plus g [a]) leaked) := came.leaves.sound fit.sound.settled
    rw [plus_comm] at sound
    exact ⟨leaked, sound.of_memory rfl⟩

theorem named_send {r : Receiver} {selector : Selector} {ret : TypeCode} {args : List Value}
    (named : a ∈ (Op.send r selector ret args).named) : r = .object a := by
  cases r with
  | object b =>
    obtain rfl := List.mem_singleton.mp named
    rfl
  | cls id => cases named

theorem Utters.ready (utters : Utters c op t ks) (fit : Fit c.env c.machine g) : ∃ g', op.Ready t g' := by
  cases utters with
  | act => exact ⟨g, fit.act _⟩
  | hold taken done settles =>
    obtain ⟨leaked, sound⟩ := frame_done (fit.hold taken).2 done
    exact ⟨_, ready_settle sound settles⟩
  | handler caught done settles =>
    obtain ⟨added, leaked, -, sound⟩ := fit.caught caught
    obtain ⟨leaked', sound⟩ := frame_done (Fit.bind (fit.more leaked) sound) done
    exact ⟨_, ready_settle sound settles⟩
  | nullToken => exact ⟨g, fit.sound, nofun⟩
  | check receiver => exact ⟨g, fit.sound, nofun⟩
  | send receiver admitted refused =>
    exact ⟨g, fit.sound.within _, fun a named => fit.receiver receiver a (named_send named)⟩
  | result handed settles =>
    obtain ⟨leaked, sound⟩ := call_handed fit handed
    exact ⟨_, ready_settle sound settles⟩

/-! ### How programs are interrupted -/

/-- What interrupts a part of a program interrupts the whole, once the frames between are unwound. -/
theorem Enters.interrupts (enters : Enters c c' ks) (fit : Fit c.env c.machine g) (ran : c'.outcome = (.error i, u)) :
    ∃ v, c.outcome = (.error i, v) ∧ Unwinds ks u v := by
  cases enters with
  | first => exact ⟨u, outcome_bind_error ran, unwinds_nil u⟩
  | second done => exact ⟨u, (outcome_bind_ok done).trans ran, unwinds_nil u⟩
  | hold taken =>
    obtain ⟨-, fit'⟩ := fit.hold taken
    obtain ⟨added, leaked, came⟩ := Program.came fit' ran
    obtain ⟨v, unwinds, ended⟩ := came.toEnded.unwound fit'.sound.settled
    exact ⟨v, (outcome_bind_ok taken).trans ended.ends, unwinds⟩
  | @pool _ _ body env s =>
    have fit' : Fit (env.opened s.memory.pools.depth) (pushed s) g := ⟨fit.sound.pushed, fit.owned⟩
    obtain ⟨added, leaked, came⟩ := Program.came fit' ran
    obtain ⟨v, unwinds, ended, -⟩ := Ended.drains (x := fun token => body.run (env.opened token)) fit.sound.settled
      came.toEnded
    exact ⟨v, ended.ends, unwinds⟩
  | handler caught =>
    obtain ⟨added, leaked, -, sound⟩ := fit.caught caught
    obtain ⟨added, leaked, came⟩ := Program.came (Fit.bind (fit.more leaked) sound) ran
    obtain ⟨v, unwinds, ended⟩ := came.toEnded.unwound sound.settled
    exact ⟨v, (outcome_bind_ok caught).trans ended.ends, unwinds⟩
  | method receiver admitted found accepted =>
    obtain ⟨added, leaked, came⟩ := Program.came (fit.entered _ found) ran
    obtain ⟨v, _, _, unwinds, performed⟩ := perform_interrupted fit.sound.settled receiver admitted
      (send_interrupted found accepted came.toEnded)
    exact ⟨v, performed.ends, unwinds⟩

theorem Utters.interrupts (utters : Utters c op t ks) (fit : Fit c.env c.machine g)
    (ends : op.run.outcome t = (.error i, u)) : ∃ v, c.outcome = (.error i, v) ∧ Unwinds ks u v := by
  cases utters with
  | act => exact ⟨u, ends, unwinds_nil u⟩
  | hold taken done settles =>
    refine ⟨u, (outcome_bind_ok taken).trans ((outcome_holding_ok done).trans ?_), unwinds_nil u⟩
    rw [settle_eq settles]
    exact ends
  | handler caught done settles =>
    refine ⟨u, (outcome_bind_ok caught).trans ((outcome_holding_ok done).trans ?_), unwinds_nil u⟩
    rw [settle_eq settles]
    exact ends
  | @nullToken _ _ selector args how body env =>
    obtain ⟨text, w, panics, performed, -⟩ := perform_nullToken (s := t) env selector args how
      (body.run env)
    cases ends.symm.trans panics
    exact ⟨_, performed, unwinds_nil _⟩
  | @check _ _ target selector args result scope body env s r receiver =>
    cases innermost : t.memory.pools.isInnermost (env.scopes scope) with
    | true => cases ends.symm.trans (outcome_assertInnermost innermost)
    | false =>
      obtain ⟨text, panics⟩ := outcome_assertInnermost_panic innermost
      cases ends.symm.trans panics
      exact ⟨_, perform_check receiver panics, unwinds_nil _⟩
  | @send _ _ target selector args how body env s r receiver admitted refused =>
    obtain ⟨j, w, sends, sent⟩ := send_refused how fit receiver refused
    obtain ⟨v, _, _, unwinds, performed⟩ := perform_interrupted (x := body.run env) fit.sound.settled receiver admitted
      (sent _)
    cases ends.symm.trans sends
    exact ⟨v, performed.ends, unwinds⟩
  | result handed settles =>
    refine ⟨u, (outcome_bind_ok outcome_get).trans ((outcome_bind_ok handed).trans ?_), unwinds_nil u⟩
    rw [← settle_eq settles] at ends
    exact ends

theorem Raises.interrupts (raises : Raises c op t i u ks) (fit : Fit c.env c.machine g) :
    ∃ v, c.outcome = (.error i, v) ∧ Unwinds ks u v ∧ op.Effect t.memory i u.memory := by
  -- From the operation outwards, each part adds its frames to those that are unwound.
  induction raises generalizing g with
  | here utters ends =>
    obtain ⟨v, interrupted, unwinds⟩ := utters.interrupts fit ends
    obtain ⟨g', ready⟩ := utters.ready fit
    obtain ⟨r, w, added, ended⟩ := ready.ends
    obtain ⟨rfl, rfl⟩ := Prod.mk.inj (ended.ends.symm.trans ends)
    exact ⟨v, interrupted, unwinds, ended.effect _ rfl⟩
  | inside enters _ ih =>
    obtain ⟨g', fit'⟩ := enters.fit fit
    obtain ⟨w, ran, inner, effect⟩ := ih fit'
    obtain ⟨v, interrupted, outer⟩ := enters.interrupts fit ran
    exact ⟨v, interrupted, inner.append outer, effect⟩
  | through _ ih =>
    obtain ⟨v, ran, unwinds, effect⟩ := ih fit
    exact ⟨v, outcome_bind_error (outcome_region_panic _ ran), unwinds, effect⟩

/-- An operation throws or panics in the body of a guarded region. If it throws, no other region stands between. -/
def RaisesGuarded (c : Config) (op : Op) (t : Machine) (i : Interruption) (u : Machine) : Prop :=
  ∃ (n m : Nat) (region : Region) (body : Program n m) (handler : Program (n + 1) m) (fate : Fate m) (env : Env n m)
    (e : Machine) (ks : List Frame),
      Visits c ⟨.guarded region body handler fate, env, e⟩ ∧ Raises ⟨body, env, e⟩ op t i u ks

/-- Whatever throws or panics has a guarded region around it that is the innermost, or else the whole program. -/
theorem Visits.raises (visits : Visits c d) (utters : Utters d op t ks) (ends : op.run.outcome t = (.error i, u)) :
    (∃ ks, Raises c op t i u ks) ∨ RaisesGuarded c op t i u := by
  induction visits with
  | here => exact Or.inl ⟨_, .here utters ends⟩
  | inside enters _ ih =>
    rcases ih utters with ⟨ks, raises⟩ | ⟨n, m, region, body, handler, fate, env, e, ks, visits, raises⟩
    · exact Or.inl ⟨_, .inside enters raises⟩
    · exact Or.inr ⟨n, m, region, body, handler, fate, env, e, ks, .inside enters visits, raises⟩
  | body _ ih =>
    rcases ih utters with ⟨ks, raises⟩ | ⟨n, m, region, body, handler, fate, env, e, ks, visits, raises⟩
    · exact Or.inr ⟨_, _, _, _, _, _, _, _, ks, .here, raises⟩
    · exact Or.inr ⟨n, m, region, body, handler, fate, env, e, ks, .body visits, raises⟩

theorem Visits.panics {text : String} (visits : Visits c d) (utters : Utters d op t ks)
    (ends : op.run.outcome t = (.error (.panic text), u)) : ∃ ks, Raises c op t (.panic text) u ks := by
  induction visits with
  | here => exact ⟨_, .here utters ends⟩
  | inside enters _ ih =>
    obtain ⟨ks, raises⟩ := ih utters
    exact ⟨_, .inside enters raises⟩
  | body _ ih =>
    obtain ⟨ks, raises⟩ := ih utters
    exact ⟨ks, .through raises⟩

/-! ### Accounts -/

/-- How a program ends, by which of its operations, and with which counts. It is never cut off. What it throws or
    panics with was raised in it; whatever is raised in it ends it, and from there on the frames between are
    unwound and no more. The pools are those of the start, with some more references in the innermost one, or leaked
    if there is none; these, and the one in flight with a throw, are all that was added to any count. -/
structure Account (c : Config) (r : Except Interruption Unit) (u : Machine) : Prop where
  ends : c.outcome = (r, u)
  harmless : ∀ i, r = .error i → i.isFatal = false
  raised : ∀ i, r = .error i → ∃ op t w ks, Raises c op t i w ks
  interrupts : ∀ op t i w ks, Raises c op t i w ks → r = .error i ∧ Unwinds ks w u ∧ op.Effect t.memory i w.memory
  pools : ∃ added leaked,
    u.memory.pools = { c.machine.memory.pools with objects := c.machine.memory.pools.objects ++ added } ∧
    (c.machine.memory.pools.marks = [] → added = []) ∧ (c.machine.memory.pools.marks ≠ [] → leaked = []) ∧
    ∀ b, u.memory.count b = c.machine.memory.count b + added.count b + leaked.count b + (flying r).count b

theorem Fit.account (fit : Fit c.env c.machine g) : ∃ r u, Account c r u := by
  obtain ⟨r, u, added, leaked, came⟩ := c.program.ending _ _ _ fit
  refine ⟨r, u, came.ends, came.harmless, came.raised, fun op t i w ks raises => ?_,
    added, leaked, came.leaves.pools, came.leaves.bare, came.leaves.pooled, fun b => ?_⟩
  · obtain ⟨v, ended, unwinds, effect⟩ := raises.interrupts fit
    obtain ⟨rfl, rfl⟩ := Prod.mk.inj (ended.symm.trans came.ends)
    exact ⟨rfl, unwinds, effect⟩
  · rw [came.leaves.balanced.accounts.count, fit.sound.count, came.leaves.pools]
    simp only [plus, List.count_append]
    omega

/-- What a guarded region returns when its body ends with a result: nothing, the thrown object, or no value at all
    since the panic goes on. -/
def Region.Returns (region : Region) (x : Exec Unit) (s u : Machine) : Except Interruption Unit → Prop
  | .ok () => (region.run x).outcome s = (.ok none, u)
  | .error (.thrown a) => ∃ journal, (region.run x).outcome s = (.ok (some a), { u with journal })
  | .error i => (region.run x).outcome s = (.error i, u)

/-- Take any program and any machine that it may be started on. What is thrown in it is raised in the body of the
    innermost guarded region around, or by the whole program; what panics is raised by whatever is around. Every
    guarded region returns what its body raised if that is thrown, and lets panics through; the program as a whole and
    the body of every region give a full account of how they end. Every pool that is opened, by the program or by a
    call that hands over a reference, releases each reference that got into it once. -/
theorem throws_end_at_the_innermost_region {n m : Nat} (p : Program n m) {env : Env n m} {held : Address → Nat}
    (fit : Fit env s held) :
    (∀ d op t ks i u, Visits ⟨p, env, s⟩ d → Utters d op t ks → op.run.outcome t = (.error i, u) →
      (∃ ks, Raises ⟨p, env, s⟩ op t i u ks) ∨ RaisesGuarded ⟨p, env, s⟩ op t i u) ∧
    (∀ c d op t ks text u, Visits ⟨p, env, s⟩ c → Visits c d → Utters d op t ks →
      op.run.outcome t = (.error (.panic text), u) → ∃ ks, Raises c op t (.panic text) u ks) ∧
    (∃ r u, Account ⟨p, env, s⟩ r u) ∧
    (∀ (k l : Nat) region (body : Program k l) handler fate env' t,
      Visits ⟨p, env, s⟩ ⟨.guarded region body handler fate, env', t⟩ →
        ∃ r u, Account ⟨body, env', t⟩ r u ∧ region.Returns (body.run env') t u r) ∧
    (∀ (k l : Nat) (body : Program k (l + 1)) env' t, Visits ⟨p, env, s⟩ ⟨.pool body, env', t⟩ →
      Drained (fun token => body.run (env'.opened token)) t) ∧
    ∀ (k l : Nat) (target : Target k) selector args result (fate : Fate l) body env' t r,
      Visits ⟨p, env, s⟩ ⟨.call target selector args (.retained result fate) body, env', t⟩ →
        target.receiver? env' = some r →
          Drained (fun _ => sendAdopting ((Convention.retained result fate).callee env' target selector t (body.run env')) r
            selector args .retained) t := by
  refine ⟨fun d op t ks i u visits utters ends => visits.raises utters ends,
    fun c d op t ks text u _ visits utters ends => visits.panics utters ends, Fit.account fit,
    fun k l region body handler fate env' t visits => ?_, fun k l body env' t visits => ?_,
    fun k l target selector args result fate body env' t r visits receiver => ?_⟩
  · obtain ⟨g, fit'⟩ := visits.fit fit
    have here : Fit env' t g := fit'
    obtain ⟨r, u, account⟩ := Fit.account (c := ⟨body, env', t⟩) here
    refine ⟨r, u, account, ?_⟩
    obtain ⟨added, leaked, came⟩ := Program.came here account.ends
    rcases came.toEnded.region region with ⟨rfl, ends⟩ | ⟨a, journal, rfl, ends⟩ | ⟨text, rfl, ends⟩
    · exact ends
    · exact ⟨journal, ends⟩
    · exact ends
  · obtain ⟨g, fit'⟩ := visits.fit fit
    have here : Fit (env'.opened t.memory.pools.depth) (pushed t) g := ⟨fit'.sound.pushed, fit'.owned⟩
    obtain ⟨r, u, added, leaked, came⟩ := body.ending _ _ _ here
    exact Ended.drained (x := fun token => body.run (env'.opened token)) fit'.sound.settled came.toEnded
  · obtain ⟨g, fit'⟩ := visits.fit fit
    exact call_drained body.ending fit' receiver

/-! ### A pooled object that is thrown -/

namespace Pooled

/-- A new object gets into a pool, and is thrown there by somebody who keeps it. -/
def body : Program 0 0 :=
  .pool (.hold (.new ⟨0⟩) (.seq (.hold (.clone 0) .skip .autorelease) (.act (.throwKept 0))) .drop)

def program : Program 0 0 := .guarded .tryCatch body .skip .drop

def start : Machine := Machine.fresh 0 none (.fresh false false)

def it : Address := ⟨0x40⟩

theorem fit : Fit Env.none start fun _ => 0 := by
  refine ⟨⟨Memory.Balanced.start 0, ?_⟩, nofun⟩
  intro mark top
  cases top

/-- When it is thrown there are three references: in the frame, in the pool and in flight. -/
theorem raises : ∃ op t w, Raises ⟨body, Env.none, start⟩ op t (.thrown it) w [.handle it, .pool 0] ∧
    w.memory.count it = 3 ∧ w.memory.pools.objects = [it] :=
  ⟨_, _, _, .inside .pool (.inside (.hold rfl) (.inside (.second rfl) (.here .act rfl))), rfl, rfl⟩

end Pooled

open Pooled in
/-- The region returns it with the only reference that is left, and the pool is gone. -/
theorem pooled_object_is_caught : ∃ u, (Region.tryCatch.run (body.run Env.none)).outcome start = (.ok (some it), u) ∧
    u.memory.count it = 1 ∧ u.memory.pools = .empty := by
  obtain ⟨op, t, w, raises, counted, pooled⟩ := Pooled.raises
  obtain ⟨-, -, -, regions, -⟩ := throws_end_at_the_innermost_region program fit
  obtain ⟨r, u, account, returns⟩ := regions 0 0 .tryCatch body .skip .drop Env.none start .here
  obtain ⟨rfl, unwinds, -⟩ := account.interrupts _ _ _ _ _ raises
  obtain ⟨journal, caught⟩ := returns
  obtain ⟨added, leaked, pools, bare, -⟩ := account.pools
  have empty : u.memory.pools = .empty := by
    rw [pools, bare rfl]
    rfl
  have counts := unwinds.counts it
  rw [counted, pooled, empty] at counts
  refine ⟨_, caught, ?_, empty⟩
  exact Nat.add_right_cancel (m := 2) counts

end Unwinding
end Messaging
