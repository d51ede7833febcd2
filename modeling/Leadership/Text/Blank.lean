import Leadership.Text.Runs

set_option autoImplicit false

namespace Leadership.Text

-- The property White_Space (Unicode 17).
def blankRuns : List (Nat × Nat) :=
  [(0x9, 0xD), (0x20, 0x20), (0x85, 0x85), (0xA0, 0xA0), (0x1680, 0x1680), (0x2000, 0x200A),
   (0x2028, 0x2029), (0x202F, 0x202F), (0x205F, 0x205F), (0x3000, 0x3000)]

def isBlank (c : Char) : Bool := inRuns blankRuns c

def skipBlanks (cs : List Char) : List Char := cs.dropWhile isBlank

def allBlank (s : String) : Bool := s.toList.all isBlank

end Leadership.Text
