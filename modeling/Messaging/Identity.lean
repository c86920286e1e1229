import Messaging.Text.Quoted

/-! Identities: by what objects, weak slots, classes and protocols are told apart. -/

namespace Messaging

/-- Where an object is placed. -/
structure Address where
  toNat : Nat
deriving DecidableEq

/-- A place that may name an object without keeping it alive. -/
structure SlotId where
  toNat : Nat
deriving DecidableEq

/-- A class, by its place in the order of creation. -/
structure ClassId where
  toNat : Nat
deriving DecidableEq

/-- A protocol, by its place in the order of creation. -/
structure ProtocolId where
  toNat : Nat
deriving DecidableEq

/-- A number written as an address. -/
def addressText (n : Nat) : String := "0x" ++ Text.hex n

/-- The text of an address. -/
def Address.text (a : Address) : String := addressText a.toNat

/-- The text of an address that may be nil. -/
def Address.textOrNil (a : Option Address) : String := addressText (a.elim 0 Address.toNat)

/-- The address at which code is shown. Code has no place of its own here. -/
def codeText : String := addressText 0x550000000000

end Messaging
