/-! Sets of characters as inclusive ranges of their code points. -/
namespace Colloquy.Text

def within (ranges : List (Nat × Nat)) (c : Char) : Bool :=
  ranges.any fun range => range.1 ≤ c.toNat && c.toNat ≤ range.2

end Colloquy.Text
