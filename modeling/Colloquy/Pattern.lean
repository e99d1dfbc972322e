import Colloquy.Pattern.Matching
import Colloquy.Pattern.Parser

/-! Patterns that compile. A pattern is determined by its text. -/
namespace Colloquy

structure Pattern where
  source : String
  node : Pattern.Node
  compiled : Pattern.parse source = .ok node

namespace Pattern

def compile (source : String) : Except Error Pattern :=
  match h : parse source with
  | .ok node => .ok ⟨source, node, h⟩
  | .error e => .error e

def isMatch (p : Pattern) (s : String) : Bool := p.node.occursIn s

theorem ext {p q : Pattern} (h : p.source = q.source) : p = q := by
  obtain ⟨s, n, hn⟩ := p
  obtain ⟨t, m, hm⟩ := q
  cases h
  have : n = m := Except.ok.inj (hn.symm.trans hm)
  subst this
  rfl

end Pattern

end Colloquy
