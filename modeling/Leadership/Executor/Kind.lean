import Leadership.Executor.Plan

set_option autoImplicit false

namespace Leadership

inductive Executor where
  | parallel
  | serial
  | manual
  | stoppedParallel
  | stoppedSerial
deriving DecidableEq, Repr

namespace Executor

def name : Executor → String
  | .parallel | .stoppedParallel => "tokio"
  | .serial | .stoppedSerial => "serial"
  | .manual => "manual"

/-- The answer to a submission that nothing else stands against. A stopped worker pool takes work
and never runs it; a stopped worker says so. -/
def standing : Executor → Verdict
  | .stoppedParallel => .discard
  | .stoppedSerial => .reject (.executorRejected "serial executor worker has stopped")
  | _ => .accept

end Executor

end Leadership
