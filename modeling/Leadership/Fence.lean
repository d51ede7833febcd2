import Leadership.Token

set_option autoImplicit false

namespace Leadership

-- The `n`-th token minted, or one that was not minted here.
inductive Fence where
  | minted (n : Nat)
  | outside (token : Token)
deriving DecidableEq

structure Leader (τ : Type) where
  address : String
  token : τ
deriving DecidableEq

end Leadership
