import Messaging.Text.Quoted

/-! Why the registration of a class, a method, a selector or a protocol is refused. -/

namespace Messaging

/-- The causes of a refused registration. -/
inductive RegistrationError
  | classAlreadyExists (name : String)
  | invalidSelector
  | invalidEncoding (encoding : String)
  | protocolAlreadyExists (name : String)
  | protocolAlreadyAdopted (className protocolName : String)
  | missingProtocolMethod (protocolName selector : String)
deriving DecidableEq

namespace RegistrationError

/-- The kind of a refusal. -/
def kind : RegistrationError → String
  | classAlreadyExists _ => "ClassAlreadyExists"
  | invalidSelector => "InvalidSelector"
  | invalidEncoding _ => "InvalidEncoding"
  | protocolAlreadyExists _ => "ProtocolAlreadyExists"
  | protocolAlreadyAdopted _ _ => "ProtocolAlreadyAdopted"
  | missingProtocolMethod _ _ => "MissingProtocolMethod"

/-- The wording of a refusal. -/
def message : RegistrationError → String
  | classAlreadyExists name => "Class `" ++ name ++ "` already exists in registry"
  | invalidSelector => "Selector name must not be empty"
  | invalidEncoding encoding => "Invalid type encoding: " ++ Text.quoted encoding
  | protocolAlreadyExists name => "Protocol `" ++ name ++ "` already exists in registry"
  | protocolAlreadyAdopted className protocolName =>
    "Class `" ++ className ++ "` already adopts protocol `" ++ protocolName ++ "`"
  | missingProtocolMethod protocolName selector =>
    "Protocol `" ++ protocolName ++ "` requires `" ++ selector ++ "`, which is not implemented"

end RegistrationError
end Messaging
