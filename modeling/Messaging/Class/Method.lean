import Messaging.Class.Routine
import Messaging.Selector
import Messaging.Signature

/-! Methods: a routine under a selector, with the types it is called with and the ownership of what it
    returns. -/

namespace Messaging

/-- Which method table of a class is meant. -/
inductive MethodKind
  | ofInstances | ofClass
deriving DecidableEq

/-- A method. -/
structure Method where
  selector : Selector
  routine : Routine
  signature : Signature
  ownership : Ownership
deriving DecidableEq

namespace Method

/-- A method with the types that a text gives. It returns what its name announces. -/
def read (selector : Selector) (routine : Routine) (types : String) : Except RegistrationError Method :=
  (Signature.read types).map fun signature => ⟨selector, routine, signature, MethodFamily.conventionalOwnership selector.name⟩

/-- Overrides the ownership of what the method returns. -/
def returning (m : Method) (ownership : Ownership) : Method := { m with ownership }

/-- The text that shows a method. -/
def text (m : Method) : String :=
  "Method \x7b selector: " ++ Text.quoted m.selector.name ++ ", imp: " ++ codeText ++ ", types: " ++ m.signature.text ++
    ", ownership: " ++ m.ownership.label ++ " \x7d"

end Method
end Messaging
