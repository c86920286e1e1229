import Messaging.Datum
import Messaging.Log.Level
import Messaging.RegistrationError

/-! Refusals: why a question has no answer. Beside malformed questions these are the errors of the
    library's own operations and, in a scenario, steps whose precondition does not hold. -/

namespace Messaging

/-- The preconditions of scenario steps. -/
inductive Precondition
  | handleBound | objectAlive | referenceOwned | classKnown | protocolKnown | poolKnown | weakKnown
  | classOpen | implementationFits | ownershipSafe
deriving DecidableEq

/-- What a step is told whose precondition fails. -/
def Precondition.failure : Precondition → String
  | .handleBound => "NoHandle"
  | .objectAlive => "Dangling"
  | .referenceOwned => "NotOwned"
  | .classKnown => "NoClass"
  | .protocolKnown => "NoProtocol"
  | .poolKnown => "NoPool"
  | .weakKnown => "NoWeak"
  | .classOpen => "BuiltinClass"
  | .implementationFits => "ImpMismatch"
  | .ownershipSafe => "UnsafeOwnership"

/-- Why a question has no answer. -/
inductive Refusal
  | badField (fault : BadField)
  | registration (cause : RegistrationError)
  | log (cause : Log.SpecError)
  | unmet (precondition : Precondition)
deriving DecidableEq

namespace Refusal

/-- The answer that reports a refusal. -/
def datum : Refusal → Datum
  | badField fault => .record [("error", .text "BadInput"), ("message", .text fault.field)]
  | registration cause => .record [("error", .text cause.kind), ("message", .text cause.message)]
  | log cause => .record [("error", .text "LogError"), ("message", .text cause.message)]
  | unmet precondition => .record [("error", .text precondition.failure)]

end Refusal

/-! Results whose errors count as refusals. -/

instance : MonadLift (Except BadField) (Except Refusal) := ⟨fun r => r.mapError .badField⟩
instance : MonadLift (Except RegistrationError) (Except Refusal) := ⟨fun r => r.mapError .registration⟩
instance : MonadLift (Except Log.SpecError) (Except Refusal) := ⟨fun r => r.mapError .log⟩
instance : MonadLift (Except Precondition) (Except Refusal) := ⟨fun r => r.mapError .unmet⟩

end Messaging
