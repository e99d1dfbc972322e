import Colloquy.Proofs.Tables
import Colloquy.Store

/-! Calls on a store as data, and what they are to be answered with. -/
namespace Colloquy

inductive StoreCall where
  | save (c : Conversation)
  | load (id : String)
  | delete (id : String)
  | list

namespace StoreCall

abbrev Answer : StoreCall → Type
  | .save _ => Except StoreError Unit
  | .load _ => Except StoreError (Option Conversation)
  | .delete _ => Except StoreError Bool
  | .list => Except StoreError (List String)

def id? : StoreCall → Option String
  | .save c => some c.id
  | .load id | .delete id => some id
  | .list => none

-- What is under an id once the call succeeded.
def leaves (id : String) (held : Option Conversation) : StoreCall → Option Conversation
  | .save c => if id = c.id then some c else held
  | .delete other => if id = other then none else held
  | .load _ | .list => held

end StoreCall

structure Answered where
  call : StoreCall
  answer : call.Answer

namespace Store

def perform (store : Store m) : (call : StoreCall) → m call.Answer
  | .save c => store.save c
  | .load id => store.load id
  | .delete id => store.delete id
  | .list => store.list

def performAll [Monad m] (store : Store m) : List StoreCall → m (List Answered)
  | [] => return []
  | call :: rest => do
    let answer ← store.perform call
    let answers ← store.performAll rest
    return ⟨call, answer⟩ :: answers

-- The store in memory, with its table as the state.
abbrev tabled : Store (StateM (Table Conversation)) := .memory

theorem performAll_cons (store : Store (StateM σ)) (call : StoreCall) (rest : List StoreCall)
    (s : σ) : (store.performAll (call :: rest)).run s =
      (⟨call, ((store.perform call).run s).1⟩ ::
        ((store.performAll rest).run ((store.perform call).run s).2).1,
        ((store.performAll rest).run ((store.perform call).run s).2).2) := rfl

end Store

-- What is under an id after some calls on a store that was empty.
def lastSaved (calls : List StoreCall) (id : String) : Option Conversation :=
  calls.foldl (StoreCall.leaves id) none

theorem lastSaved_concat (calls : List StoreCall) (call : StoreCall) (id : String) :
    lastSaved (calls ++ [call]) id = call.leaves id (lastSaved calls id) := by
  unfold lastSaved
  rw [List.foldl_append]
  rfl

-- The right answer to a call that comes after others.
inductive Answered.Right (before : List StoreCall) : Answered → Prop where
  | saved (c : Conversation) : Right before ⟨.save c, .ok ()⟩
  | loaded (id : String) : Right before ⟨.load id, .ok (lastSaved before id)⟩
  | deleted (id : String) : Right before ⟨.delete id, .ok (lastSaved before id).isSome⟩
  | listed {ids : List String} (ordered : ids.Pairwise (· < ·))
      (stored : ∀ id, id ∈ ids ↔ (lastSaved before id).isSome = true) : Right before ⟨.list, .ok ids⟩

namespace Store

variable {t : Table Conversation} {before : List StoreCall}

theorem tabled_leaves (call : StoreCall) (id : String) :
    ((tabled.perform call).run t).2.find? id = call.leaves id (t.find? id) := by
  cases call with
  | save c => exact Table.find?_insert ..
  | load other => rfl
  | delete other => exact Table.find?_erase ..
  | list => rfl

theorem tabled_all_leaves (calls : List StoreCall) (id : String) :
    ((tabled.performAll calls).run t).2.find? id = calls.foldl (StoreCall.leaves id) (t.find? id) := by
  induction calls generalizing t with
  | nil => rfl
  | cons call rest ih =>
    rw [performAll_cons, List.foldl_cons, ← tabled_leaves]
    exact ih

theorem tabled_right (held : ∀ id, t.find? id = lastSaved before id) (call : StoreCall) :
    Answered.Right before ⟨call, ((tabled.perform call).run t).1⟩ := by
  cases call with
  | save c => exact .saved c
  | load id =>
    change Answered.Right before ⟨.load id, .ok (t.find? id)⟩
    rw [held]
    exact .loaded id
  | delete id =>
    change Answered.Right before ⟨.delete id, .ok (t.find? id).isSome⟩
    rw [held]
    exact .deleted id
  | list =>
    refine .listed t.ordered fun id => ?_
    rw [← held]
    exact Table.mem_keys

theorem tabled_all_right (calls : List StoreCall) (held : ∀ id, t.find? id = lastSaved before id)
    (k : Nat) (a : Answered) (there : ((tabled.performAll calls).run t).1[k]? = some a) :
    a.Right (before ++ calls.take k) := by
  induction calls generalizing t before k with
  | nil => cases there
  | cons call rest ih =>
    rw [performAll_cons] at there
    cases k with
    | zero =>
      cases Option.some.inj there
      rw [List.take_zero, List.append_nil]
      exact tabled_right held call
    | succ k =>
      have next (id : String) : ((tabled.perform call).run t).2.find? id =
          lastSaved (before ++ [call]) id := by
        rw [tabled_leaves, held, lastSaved_concat]
      rw [List.take_succ_cons, List.append_cons]
      exact ih next k there

end Store

end Colloquy
