set_option autoImplicit false

namespace Leadership.Text

def inRuns (runs : List (Nat × Nat)) (c : Char) : Bool :=
  runs.any fun (first, last) => decide (first ≤ c.toNat ∧ c.toNat ≤ last)

end Leadership.Text
