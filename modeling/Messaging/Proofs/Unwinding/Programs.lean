import Messaging.Proofs.Send
import Messaging.TypedCall.Call

/-! Programs that throw and catch. A program is written in the scope of some handles and some pools; it nests and
    sequences frames that own a reference, pools, guarded regions and calls, and may throw or panic anywhere. What it
    does is put together from the operations that objects, pools, throws and calls have. -/

namespace Messaging
namespace Unwinding

/-- How a frame comes to own a reference. -/
inductive Source (n : Nat)
  | new (cls : ClassId)
  | clone (v : Fin n)

/-- What becomes of the reference that a frame owns when the frame comes to its end. -/
inductive Fate (m : Nat)
  | drop | autorelease | throw
  | handOver (scope : Fin m)

/-- What throws or panics without giving up a reference that a frame owns. -/
inductive Act (n m : Nat)
  | raise (name reason : String)
  | throwText (contents : String)
  | throwKept (v : Fin n)
  | raiseException (v : Fin n) (command : Selector)
  | panic (text : String)
  | check (scope : Fin m)

/-- What a call is made on. The token of a class may be null. -/
inductive Target (n : Nat)
  | object (v : Fin n)
  | token (cls : Option ClassId)

/-- How a call is made. An object result is nil or comes from a source; with a reference that is handed over
    something is done then. -/
inductive Convention (n m : Nat)
  | value (ret : TypeCode)
  | retained (result : Option (Source n)) (fate : Fate m)
  | borrowed (result : Option (Source n)) (scope : Fin m)

inductive Region
  | tryCatch | guardedCall

/-- The body of a call is what the method does that is called. The handler of a region owns what was caught. -/
inductive Program : Nat → Nat → Type
  | skip {n m : Nat} : Program n m
  | act {n m : Nat} (x : Act n m) : Program n m
  | seq {n m : Nat} (p q : Program n m) : Program n m
  | hold {n m : Nat} (source : Source n) (body : Program (n + 1) m) (fate : Fate m) : Program n m
  | pool {n m : Nat} (body : Program n (m + 1)) : Program n m
  | guarded {n m : Nat} (region : Region) (body : Program n m) (handler : Program (n + 1) m) (fate : Fate m) : Program n m
  | call {n m : Nat} (target : Target n) (selector : Selector) (args : List Value) (how : Convention n m)
      (body : Program n m) : Program n m

/-- What the handles name, and the tokens of the pools, the latest first. -/
structure Env (n m : Nat) where
  handles : Fin n → Address
  scopes : Fin m → Nat

namespace Env
variable {n m : Nat}

def none : Env 0 0 := ⟨nofun, nofun⟩

def bind (env : Env n m) (a : Address) : Env (n + 1) m := { env with handles := Fin.cases a env.handles }

def opened (env : Env n m) (token : Nat) : Env n (m + 1) := { env with scopes := Fin.cases token env.scopes }

end Env

/-! ### What programs do -/

/-- The operations that may end with a throw or a panic. -/
inductive Op
  | raise (name reason : String)
  | throwText (contents : String)
  | throwOwned (a : Address)
  | throwKept (a : Address)
  | raiseException (a : Address) (command : Selector)
  | panic (text : String)
  | check (token : Nat)
  | handOver (a : Address) (token : Nat)
  | nullToken (selector : Selector)
  | send (r : Receiver) (selector : Selector) (ret : TypeCode) (args : List Value)

def Op.run : Op → Exec Unit
  | raise name reason => raiseNamed name reason
  | throwText contents => Messaging.throwText contents
  | throwOwned a => throwObject a
  | throwKept a => do
    retain a
    throwObject a
  | raiseException a command => do
    let _ ← BuiltinRoutine.exceptionRaise.run (fun _ _ => pure .void) ⟨.object a, command, .void, []⟩
  | panic text => panicWith text
  | check token => assertInnermost token
  | handOver a token => Messaging.handOver a token
  | nullToken selector => do
    let _ ← tokenClassFor none selector
  | send r selector ret args => do
    let _ ← Messaging.send (fun _ _ => pure .void) r selector ret args

variable {n m : Nat}

def Source.take (env : Env n m) : Source n → Exec Address
  | new cls => alloc cls
  | clone v => do
    retain (env.handles v)
    pure (env.handles v)

def Act.op (env : Env n m) : Act n m → Op
  | raise name reason => .raise name reason
  | throwText contents => .throwText contents
  | throwKept v => .throwKept (env.handles v)
  | raiseException v command => .raiseException (env.handles v) command
  | panic text => .panic text
  | check scope => .check (env.scopes scope)

/-- The operation behind a fate that may throw or panic. -/
def Fate.op? (env : Env n m) (a : Address) : Fate m → Option Op
  | drop | autorelease => none
  | throw => some (.throwOwned a)
  | handOver scope => some (.handOver a (env.scopes scope))

def Fate.settle (env : Env n m) (a : Address) : Fate m → Exec Unit
  | drop => release a
  | autorelease => Messaging.autorelease a
  | throw => (Op.throwOwned a).run
  | handOver scope => (Op.handOver a (env.scopes scope)).run

/-- Runs a computation in a frame that owns a reference. It is settled in the end, or given up if the frame is
    unwound. -/
def holding (a : Address) (x settle : Exec Unit) : Exec Unit := do
  match ← attempt x with
  | .ok () => settle
  | .error i =>
    if !i.isFatal then release a
    throw i

def Region.run (x : Exec Unit) : Region → Exec (Option Address)
  | tryCatch => do
    match ← catchThrown x with
    | .ok () => pure none
    | .error a => pure (some a)
  | guardedCall => Messaging.guardedCall x

/-- The code of a method that returns nil or a reference, which it hands over as it declares. -/
def methodCode (x : Exec Unit) (result : Option (Exec Address)) (declared : Ownership) : Code := fun _ _ => do
  x
  match result with
  | none => pure (.object none)
  | some take =>
    let a ← take
    if declared = .notRetained then autorelease a
    pure (.object (some a))

namespace Target

/-- The receiver of a call, unless it is made on a null token. -/
def receiver? (env : Env n m) : Target n → Option Receiver
  | object v => some (.object (env.handles v))
  | token cls => cls.map .cls

def value (env : Env n m) (code : Code) (selector : Selector) (ret : TypeCode) (args : List Value) : Target n → Exec Value
  | object v => readCall code (env.handles v) selector ret args
  | token cls => classCall code cls selector ret args

def handle (env : Env n m) (code : Code) (selector : Selector) (args : List Value) (c : ReturnConvention) :
    Target n → Exec (Option Address)
  | object v => readCallObject code (env.handles v) selector args c
  | token cls => classCallObject code cls selector args c

/-- The ownership that the method declares which a call finds. -/
def declared (env : Env n m) (selector : Selector) (s : Machine) (target : Target n) : Ownership :=
  match (target.receiver? env).bind fun r => ((r.lookup selector).outcome s).1.toOption.join with
  | some method => method.ownership
  | none => .notRetained

end Target

/-- Makes a call of a method that does `x`. -/
def Convention.perform (env : Env n m) (target : Target n) (selector : Selector) (args : List Value) (x : Exec Unit) :
    Convention n m → Exec Unit
  | value ret => do
    let _ ← target.value env (fun _ _ => do x; pure (.zero ret)) selector ret args
  | retained result fate => do
    let code := methodCode x (result.map (Source.take env)) (target.declared env selector (← get))
    match ← target.handle env code selector args .retained with
    | none => pure ()
    | some a => fate.settle env a
  | borrowed result scope => do
    let code := methodCode x (result.map (Source.take env)) (target.declared env selector (← get))
    let _ ← target.handle env code selector args (.borrowed (env.scopes scope))

def Program.run {n m : Nat} : Program n m → Env n m → Exec Unit
  | skip, _ => pure ()
  | act x, env => (x.op env).run
  | seq p q, env => do
    p.run env
    q.run env
  | hold source body fate, env => do
    let a ← source.take env
    holding a (body.run (env.bind a)) (fate.settle env a)
  | pool body, env => withPool fun token => body.run (env.opened token)
  | guarded region body handler fate, env => do
    match ← region.run (body.run env) with
    | none => pure ()
    | some a => holding a (handler.run (env.bind a)) (fate.settle env a)
  | call target selector args how body, env => how.perform env target selector args (body.run env)

end Unwinding
end Messaging
