import Messaging.Value

/-! Routines: the code behind methods. A routine is only a name here; what it does is given to every send
    as a function from routines to their effects, so that the rules of sending hold for any code. -/

namespace Messaging

/-- The routines of the built-in classes. -/
inductive BuiltinRoutine
  | alloc | new | init | retain | release | autorelease | retainCount | cls | description
  | respondsTo | isKindOf | identityHash | isIdentical
  | textWith | textInit | textLength | textCopy | textContents | textIsEqual | textHash | textDescription
  | numberWith | numberInit | numberValue | numberDescription
  | exceptionWith | exceptionInit | exceptionName | exceptionReason | exceptionCallStack | exceptionRaise
  | exceptionDescription
  | portWith | portInit | portDelegate | portSetDelegate | portTimeout | portSetTimeout
  | portPostMachMessage | portPostPortMessage
  | adapterInit | adapterCallbacks | adapterMachMessage | adapterPortMessage
deriving DecidableEq

/-- The routines that a client can put behind methods of its own. -/
inductive SampleRoutine
  | noop | one | two | sum | pack | initSum | initNil | initReplace | value | setValue | makeChild | newChild
  | nothing | itself | commandName | fail | throwArgument | panic | onEvent | onEventRaise | echo
  | withValue | mix | offset | failAfterStoring
deriving DecidableEq

/-- The code behind a method, or a callback. -/
inductive Routine
  | builtin (r : BuiltinRoutine)
  | sample (r : SampleRoutine)
  | callback (c : Callback)
deriving DecidableEq

end Messaging
