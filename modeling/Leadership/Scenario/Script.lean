import Leadership.Callback

set_option autoImplicit false

namespace Leadership.Scenario

inductive Action (σ : Type) where
  | gate
  | yield (times : Nat)
  | perform (steps : List σ)
  | fail (failure : Failure)
  -- Panics before there is anything to guard: the unit is lost.
  | burst (payload : Option String)

structure Scripts (σ : Type) where
  onGrant : List (List (Action σ)) := []
  onRevoke : List (List (Action σ)) := []
  onNotify : List (List (Action σ)) := []
  onError : List (List (Action σ)) := []

namespace Scripts
variable {σ : Type}

def take (s : Scripts σ) : Callback → List (Action σ) × Scripts σ
  | .grant .. => (s.onGrant.headD [], { s with onGrant := s.onGrant.tail })
  | .revoke _ => (s.onRevoke.headD [], { s with onRevoke := s.onRevoke.tail })
  | .notify _ => (s.onNotify.headD [], { s with onNotify := s.onNotify.tail })

def takeError (s : Scripts σ) : List (Action σ) × Scripts σ :=
  (s.onError.headD [], { s with onError := s.onError.tail })

end Scripts

namespace Action
variable {σ : Type}

-- An error handler can neither wait nor return an error. It performs steps until it is through, or panics.
def steps : List (Action σ) → List σ
  | .perform ss :: rest => ss ++ steps rest
  | _ => []

def panics : List (Action σ) → Bool
  | .perform _ :: rest => panics rest
  | .fail (.panicked _) :: _ | .burst _ :: _ => true
  | _ => false

end Action

end Leadership.Scenario
