import Messaging.MethodFamily

/-! Declarations of typed calls. A table lists them with the ownership each declares; the table decides
    what a call returns, and a review lists the declarations that go against the naming rule. -/

namespace Messaging

/-- The forms of a typed call. -/
inductive CallShape
  | ofClass | read | write | readWrite | allocate
deriving DecidableEq

namespace CallShape

/-- The name of a form. -/
def label : CallShape → String
  | ofClass => "Class"
  | read => "Read"
  | write => "Write"
  | readWrite => "ReadWrite"
  | allocate => "Allocate"

/-- The forms. -/
def all : List CallShape := [ofClass, read, write, readWrite, allocate]

/-- The form with a given name. -/
def ofLabel? (label : String) : Option CallShape := all.find? fun s => s.label == label

end CallShape

/-- A declared call. The tag is the ownership it declares; calls that return no handle have none. -/
structure Declaration where
  className : String
  selector : String
  shape : CallShape
  arity : Nat
  tag : Option Ownership
deriving DecidableEq

namespace Declaration

/-- The ownership that convention expects: an allocation hands its object over, all else goes by name. -/
def expectedTag (d : Declaration) : Ownership :=
  match d.shape with
  | .allocate => .retained
  | _ => MethodFamily.conventionalOwnership d.selector

/-- Whether the declared tag, if there is one, is the expected one. -/
def isConventional (d : Declaration) : Bool :=
  match d.tag with
  | none => true
  | some tag => decide (tag = d.expectedTag)

/-- The declarations that go against convention, in table order. -/
def review (table : List Declaration) : List Declaration := table.filter fun d => !d.isConventional

/-- The declared calls on the built-in classes. -/
def builtin : List Declaration :=
  let retained := some Ownership.retained
  let borrowed := some Ownership.notRetained
  [⟨"OxObject", "new", .ofClass, 0, retained⟩,
   ⟨"OxObject", "class", .read, 0, none⟩,
   ⟨"OxObject", "hash", .read, 0, none⟩,
   ⟨"OxObject", "isEqual:", .read, 1, none⟩,
   ⟨"OxObject", "respondsToSelector:", .read, 1, none⟩,
   ⟨"OxObject", "isKindOfClass:", .read, 1, none⟩,
   ⟨"OxObject", "description", .read, 0, borrowed⟩,
   ⟨"OxString", "stringWithStr:", .ofClass, 1, borrowed⟩,
   ⟨"OxString", "stringWithStr:", .ofClass, 1, retained⟩,
   ⟨"OxString", "initWithStr:", .allocate, 1, retained⟩,
   ⟨"OxString", "length", .read, 0, none⟩,
   ⟨"OxString", "strRef", .read, 0, none⟩,
   ⟨"OxString", "copy", .read, 0, retained⟩,
   ⟨"OxString", "isEqualToString:", .read, 1, none⟩,
   ⟨"OxNumber", "numberWithInteger:", .ofClass, 1, borrowed⟩,
   ⟨"OxNumber", "initWithInteger:", .allocate, 1, retained⟩,
   ⟨"OxNumber", "integerValue", .read, 0, none⟩,
   ⟨"OxException", "exceptionWithName:reason:", .ofClass, 2, borrowed⟩,
   ⟨"OxException", "initWithName:reason:", .allocate, 2, retained⟩,
   ⟨"OxException", "name", .read, 0, borrowed⟩,
   ⟨"OxException", "reason", .read, 0, borrowed⟩,
   ⟨"OxException", "callStack", .read, 0, borrowed⟩,
   ⟨"OxException", "raise", .write, 0, none⟩,
   ⟨"OxPort", "port", .ofClass, 0, borrowed⟩,
   ⟨"OxPort", "init", .allocate, 0, retained⟩,
   ⟨"OxPort", "delegate", .read, 0, borrowed⟩,
   ⟨"OxPort", "setDelegate:", .write, 1, none⟩,
   ⟨"OxPort", "timeout", .readWrite, 0, none⟩,
   ⟨"OxPort", "setTimeout:", .readWrite, 1, none⟩,
   ⟨"OxPort", "postMachMessage:", .write, 1, none⟩,
   ⟨"OxPort", "postPortMessage:", .write, 1, none⟩,
   ⟨"OxPortDelegateAdapter", "initWithCallbacks:", .allocate, 1, retained⟩,
   ⟨"OxPortDelegateAdapter", "callbacks", .read, 0, none⟩,
   ⟨"OxPortDelegateAdapter", "handleMachMessage:", .write, 1, none⟩,
   ⟨"OxPortDelegateAdapter", "handlePortMessage:", .write, 1, none⟩]

end Declaration
end Messaging
