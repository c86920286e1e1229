/-! Origins: the places that log records come from, with the path under which directives name them. -/

namespace Messaging.Log

/-- A place that writes log records. -/
inductive Origin
  | configuration | objects | weakReferences | pools | dispatch | exceptions | builtins
  | guardedCalls | symbols | adapter | entryPoints
deriving DecidableEq

/-- The path of an origin. -/
def Origin.path : Origin → String
  | .configuration => "oxidex_log"
  | .objects => "oxidex_bridge::runtime::object"
  | .weakReferences => "oxidex_bridge::runtime::weak"
  | .pools => "oxidex_bridge::runtime::autorelease"
  | .dispatch => "oxidex_bridge::runtime::dispatch"
  | .exceptions => "oxidex_bridge::runtime::exception"
  | .builtins => "oxidex_bridge::runtime::builtins"
  | .guardedCalls => "oxidex_bridge::bridge::exception"
  | .symbols => "oxidex_bridge::bridge::registry"
  | .adapter => "oxidex_bridge::bridge::adapter"
  | .entryPoints => "oxidex_bridge::bridge::ffi"

end Messaging.Log
