import Colloquy.Snapshot

/-! Sources: independent providers of proposals. -/
namespace Colloquy

inductive SourceFault where
  | unknownState (state : String)
  | missingSetting (path : String)
  | failed (reason : String)
deriving DecidableEq, Repr

def SourceFault.message : SourceFault → String
  | .unknownState state => "state '" ++ state ++ "' is not in the flow"
  | .missingSetting path => "missing setting: " ++ path
  | .failed reason => reason

-- What a source wrote, and how it failed if it did.
structure Contribution where
  written : List Proposal
  fault : Option SourceFault := none
deriving DecidableEq, Repr

namespace Contribution

def ofExcept : Except SourceFault (List Proposal) → Contribution
  | .ok proposals => ⟨proposals, none⟩
  | .error fault => ⟨[], some fault⟩

def proposals (c : Contribution) : List Proposal := if c.fault.isSome then [] else c.written

end Contribution

structure Source where
  -- Names the source in the trace, and a guard among the tiers.
  name : String
  applies : Snapshot → Bool
  contribute : Snapshot → Contribution

-- Sources in order; an earlier one wins a tie.
abbrev Registry := List Source

end Colloquy
