import Messaging.Proofs.Unwinding.Programs

/-! Where programs throw. While a program runs it enters its parts, each on some machine and inside some more frames;
    what a part throws or panics with is raised by the whole, unless a guarded region stands between that stops a
    throw. -/

namespace Messaging
namespace Unwinding

/-- What is to be tidied up when the stack is unwound. -/
inductive Frame
  | handle (a : Address)
  | pool (token : Nat)

def Frame.tidy : Frame → Exec Unit
  | handle a => release a
  | pool token => retirePool token

/-- Unwinds frames, the innermost first. -/
def unwinding (ks : List Frame) : Exec Unit := ks.forM Frame.tidy

def owners (ks : List Frame) : List Address :=
  ks.flatMap fun
    | .handle a => [a]
    | .pool _ => []

/-- A program that is about to run. -/
structure Config where
  {handles pools : Nat}
  program : Program handles pools
  env : Env handles pools
  machine : Machine

def Config.outcome (c : Config) : Except Interruption Unit × Machine := (c.program.run c.env).outcome c.machine

def pushed (s : Machine) : Machine := { s with memory := { s.memory with pools := s.memory.pools.push.2 } }

namespace Convention
variable {n m : Nat}

def ret : Convention n m → TypeCode
  | value ret => ret
  | retained _ _ | borrowed _ _ => .object

/-- The call is let through to its send. -/
def Admits (env : Env n m) (s : Machine) : Convention n m → Prop
  | borrowed _ scope => s.memory.pools.isInnermost (env.scopes scope) = true
  | value _ | retained _ _ => True

/-- The machine on which the message is sent. -/
def within (s : Machine) : Convention n m → Machine
  | retained _ _ => pushed s
  | value _ | borrowed _ _ => s

def frames (s : Machine) : Convention n m → List Frame
  | retained _ _ => [.pool s.memory.pools.depth]
  | value _ | borrowed _ _ => []

end Convention

/-- A program begins one of its parts inside some frames. The body of a guarded region is not among these parts. -/
inductive Enters : Config → Config → List Frame → Prop
  | first {n m} {p q : Program n m} {env s} : Enters ⟨.seq p q, env, s⟩ ⟨p, env, s⟩ []
  | second {n m} {p q : Program n m} {env s t} (done : (p.run env).outcome s = (.ok (), t)) :
      Enters ⟨.seq p q, env, s⟩ ⟨q, env, t⟩ []
  | hold {n m} {source : Source n} {body} {fate : Fate m} {env s t a} (taken : (source.take env).outcome s = (.ok a, t)) :
      Enters ⟨.hold source body fate, env, s⟩ ⟨body, env.bind a, t⟩ [.handle a]
  | pool {n m} {body : Program n (m + 1)} {env s} :
      Enters ⟨.pool body, env, s⟩ ⟨body, env.opened s.memory.pools.depth, pushed s⟩ [.pool s.memory.pools.depth]
  | handler {n m} {body : Program n m} {region handler fate env s t a}
      (caught : (region.run (body.run env)).outcome s = (.ok (some a), t)) :
      Enters ⟨.guarded region body handler fate, env, s⟩ ⟨handler, env.bind a, t⟩ [.handle a]
  | method {n m} {target : Target n} {selector args} {how : Convention n m} {body env s r method}
      (receiver : target.receiver? env = some r) (admitted : how.Admits env s) (found : r.Finds s selector method)
      (accepted : method.signature.accepts how.ret (args.map Value.code) = true) :
      Enters ⟨.call target selector args how body, env, s⟩ ⟨body, env, r.entered selector (how.within s)⟩ (how.frames s)

/-- A program comes to an operation of its own that may throw or panic, inside some frames. -/
inductive Utters : Config → Op → Machine → List Frame → Prop
  | act {n m} {x : Act n m} {env s} : Utters ⟨.act x, env, s⟩ (x.op env) s []
  | hold {n m} {source : Source n} {body} {fate : Fate m} {env s t u a op} (taken : (source.take env).outcome s = (.ok a, t))
      (done : (body.run (env.bind a)).outcome t = (.ok (), u)) (settles : fate.op? env a = some op) :
      Utters ⟨.hold source body fate, env, s⟩ op u []
  | handler {n m} {body : Program n m} {region handler fate env s t u a op}
      (caught : (region.run (body.run env)).outcome s = (.ok (some a), t))
      (done : (handler.run (env.bind a)).outcome t = (.ok (), u)) (settles : fate.op? env a = some op) :
      Utters ⟨.guarded region body handler fate, env, s⟩ op u []
  | nullToken {n m} {selector args} {how : Convention n m} {body env s} :
      Utters ⟨.call (.token none) selector args how body, env, s⟩ (.nullToken selector) s []
  | check {n m} {target : Target n} {selector args result} {scope : Fin m} {body env s r}
      (receiver : target.receiver? env = some r) :
      Utters ⟨.call target selector args (.borrowed result scope) body, env, s⟩ (.check (env.scopes scope)) s []
  | send {n m} {target : Target n} {selector args} {how : Convention n m} {body env s r}
      (receiver : target.receiver? env = some r) (admitted : how.Admits env s)
      (refused : ∀ method, r.Finds s selector method → method.signature.accepts how.ret (args.map Value.code) = false) :
      Utters ⟨.call target selector args how body, env, s⟩ (.send r selector how.ret args) (how.within s) (how.frames s)
  | result {n m} {target : Target n} {selector args result} {fate : Fate m} {body env s t a op}
      (handed : (target.handle env (methodCode (body.run env) (result.map (Source.take env))
        (target.declared env selector s)) selector args .retained).outcome s = (.ok (some a), t))
      (settles : fate.op? env a = some op) :
      Utters ⟨.call target selector args (.retained result fate) body, env, s⟩ op t []

/-- While a program runs, an operation ends with a throw or a panic, inside some frames. No guarded region stands
    between if it throws. -/
inductive Raises : Config → Op → Machine → Interruption → Machine → List Frame → Prop
  | here {c op t i u ks} (utters : Utters c op t ks) (ends : op.run.outcome t = (.error i, u)) : Raises c op t i u ks
  | inside {c c' op t i u js ks} (enters : Enters c c' ks) (raises : Raises c' op t i u js) : Raises c op t i u (js ++ ks)
  | through {n m} {body : Program n m} {region handler fate env s op t text u ks}
      (raises : Raises ⟨body, env, s⟩ op t (.panic text) u ks) :
      Raises ⟨.guarded region body handler fate, env, s⟩ op t (.panic text) u ks

/-- While a program runs, another begins that is a part of it, or a part of a part. -/
inductive Visits : Config → Config → Prop
  | here {c} : Visits c c
  | inside {c c' d ks} (enters : Enters c c' ks) (visits : Visits c' d) : Visits c d
  | body {n m} {body : Program n m} {region handler fate env s d} (visits : Visits ⟨body, env, s⟩ d) :
      Visits ⟨.guarded region body handler fate, env, s⟩ d

end Unwinding
end Messaging
