set_option autoImplicit false

namespace Leadership

inductive Fault where
  | config (detail : String)
  | configParse (detail : String)
  | logging (detail : String)
  | io (detail : String)
  | alreadyShutdown
  | serviceShutdown
  | fatal (cause : Fault)
  | protocolViolation (detail : String)
  | callback (operation : String) (root : String) (contexts : List String)
  | callbackPanicked (operation : String) (message : String)
  | executorRejected (reason : String)
  | dispatchDropped
  | noRuntime
deriving DecidableEq, Repr, Inhabited

namespace Fault

def layers (root : String) (contexts : List String) : List String := contexts.reverse ++ [root]

-- A wrapped error shows its outermost layer only.
def outermost (root : String) (contexts : List String) : String := contexts.getLast?.getD root

def message : Fault → String
  | .config detail => "Configuration error: " ++ detail
  | .configParse detail => "Invalid configuration file: " ++ detail
  | .logging detail => "Logging setup failed: " ++ detail
  | .io detail => "I/O error: " ++ detail
  | .alreadyShutdown => "Leader election service has been shut down"
  | .serviceShutdown => "Leader election service is shutting down"
  | .fatal cause =>
    "Leader election service is shutting down after a fatal error: " ++ cause.message
  | .protocolViolation detail => "Protocol violation: " ++ detail
  | .callback operation root contexts =>
    "Callback '" ++ operation ++ "' failed: " ++ outermost root contexts
  | .callbackPanicked operation message =>
    "Callback '" ++ operation ++ "' panicked: " ++ message
  | .executorRejected reason => "Executor rejected work: " ++ reason
  | .dispatchDropped => "Dispatched work was dropped before it ran"
  | .noRuntime => "No tokio runtime available"

def sources : Fault → List String
  | .fatal cause => cause.message :: cause.sources
  | .callback _ root contexts => layers root contexts
  | .configParse detail | .io detail => [detail]
  | _ => []

def isShutdown : Fault → Bool
  | .alreadyShutdown | .serviceShutdown | .fatal _ => true
  | _ => false

def isCallbackFailure : Fault → Bool
  | .callback .. | .callbackPanicked .. => true
  | _ => false

def wrap : Nat → Fault → Fault
  | 0, f => f
  | n + 1, f => .fatal (wrap n f)

def osText : Nat → String
  | 1 => "Operation not permitted (os error 1)"
  | 2 => "No such file or directory (os error 2)"
  | 13 => "Permission denied (os error 13)"
  | 20 => "Not a directory (os error 20)"
  | 21 => "Is a directory (os error 21)"
  | n => "Unknown error " ++ toString n ++ " (os error " ++ toString n ++ ")"

end Fault
end Leadership
