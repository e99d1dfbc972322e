import Colloquy.Proofs.Calls

/-! Programs that make calls and wait for the answers, so that others may act in between. -/
namespace Colloquy

inductive Program (Call : Type) (Answer : Call → Type) (α : Type) : Type where
  | done (a : α)
  | call (c : Call) (next : Answer c → Program Call Answer α)

namespace Program

variable {Call : Type} {Answer : Call → Type}

def bind : Program Call Answer α → (α → Program Call Answer β) → Program Call Answer β
  | .done a, rest => rest a
  | .call c next, rest => .call c fun answer => (next answer).bind rest

instance : Monad (Program Call Answer) where
  pure := .done
  bind := bind

def ask (c : Call) : Program Call Answer (Answer c) := .call c .done

end Program

def Store.remote : Store (Program StoreCall StoreCall.Answer) where
  name := "remote"
  save c := .ask (StoreCall.save c)
  load id := .ask (StoreCall.load id)
  delete id := .ask (StoreCall.delete id)
  list := .ask StoreCall.list

end Colloquy
