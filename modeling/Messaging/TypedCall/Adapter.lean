import Messaging.TypedCall.Call

/-! Adapters: port delegates that hand events to callbacks. -/

namespace Messaging

/-- Makes an adapter for two callbacks. The caller owns it. -/
def makeAdapter (code : Code) (table : CallbackTable) : Exec Address := do
  let cls ← baseToken "port_delegate_adapter"
  let selector ← baseSelector "initWithCallbacks:"
  match ← allocInit code cls selector [.callbacks table] with
  | some a =>
    log .adapter .debug s!"made port delegate adapter PortDelegate({a.text})"
    pure a
  | none =>
    let text := adapterName ++ " initializer returned nil"
    log .adapter .error text
    panicWith text

end Messaging
