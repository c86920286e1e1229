import Messaging.TypeCode
import Messaging.RegistrationError

/-! Signatures: the types of a method, written as its return type, its receiver, its selector and its
    arguments one after the other. Every send is checked against one. -/

namespace Messaging

/-- The types of a method. The selector is implicit, and the receiver is an object or a class. -/
structure Signature where
  ret : TypeCode
  receiver : TypeCode
  args : List TypeCode
deriving DecidableEq

namespace Signature

/-- The signature of an instance method. -/
def ofInstance (ret : TypeCode) (args : List TypeCode) : Signature := ⟨ret, .object, args⟩

/-- The signature that a sequence of types forms. No argument is void. -/
def ofTypes? : List TypeCode → Option Signature
  | ret :: receiver :: .selector :: args =>
    if receiver.isHandle && !args.contains .void then some ⟨ret, receiver, args⟩ else none
  | _ => none

/-- Reads a signature. -/
def read (text : String) : Except RegistrationError Signature :=
  match (TypeCode.sequence? text.toList).bind ofTypes? with
  | some s => .ok s
  | none => .error (.invalidEncoding text)

/-- The number of arguments. -/
def arity (s : Signature) : Nat := s.args.length

/-- Whether a call with these types may invoke a method with this signature. -/
def accepts (s : Signature) (ret : TypeCode) (args : List TypeCode) : Bool := decide (s.ret = ret ∧ s.args = args)

/-- The types of a signature in writing order. -/
def types (s : Signature) : List TypeCode := s.ret :: s.receiver :: .selector :: s.args

/-- The text of a signature. -/
def text (s : Signature) : String := String.join (s.types.map TypeCode.text)

end Signature

/-- Reads a return type: a text that forms a signature when `@:` follows it. -/
def TypeCode.readReturn (text : String) : Except RegistrationError TypeCode :=
  (Signature.read (text ++ "@:")).map Signature.ret

/-- Reads a sequence of argument types. -/
def TypeCode.readArguments (text : String) : Except RegistrationError (List TypeCode) :=
  (Signature.read ("v@:" ++ text)).map Signature.args

end Messaging
