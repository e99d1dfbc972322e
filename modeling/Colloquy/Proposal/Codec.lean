import Colloquy.Conversation.Codec

/-! Proposals as documents; the kind says which record follows. -/
namespace Colloquy

namespace Escalation

def encode (e : Escalation) : Document :=
  .table [("guard", .text e.guard), ("tier", .text e.tier.name)]

def decode (d : Document) : Decoded Escalation := do
  let f ← d.fields ["guard", "tier"]
  return {
    guard := ← f.required "guard" Document.text?
    tier := ← f.required "tier" Tier.decode }

end Escalation

namespace ActionProposal

def encode (p : ActionProposal) : List (String × Document) := [
    ("action", .text p.action),
    ("priority", .text p.priority.name),
    ("rank", .ofNat p.rank),
    ("combinable", .bool p.combinable),
    ("reason_code", .text p.reason),
    ("informational", .bool p.informational)]
  ++ (p.escalation.map fun e => ("escalation", e.encode)).toList

def decode (d : Document) : Decoded ActionProposal := do
  let f ← d.fields ["action", "priority", "rank", "combinable", "reason_code", "informational",
    "escalation"]
  return {
    action := ← f.required "action" Document.text?
    priority := ← f.required "priority" Proposal.priority?
    rank := ← f.withDefault "rank" 0 Document.count?
    combinable := ← f.withDefault "combinable" true Document.bool?
    reason := ← f.required "reason_code" Document.text?
    informational := ← f.withDefault "informational" false Document.bool?
    escalation := ← f.optional "escalation" Escalation.decode }

end ActionProposal

namespace TransitionProposal

def encode (p : TransitionProposal) : List (String × Document) := [
    ("target", .text p.target),
    ("priority", .text p.priority.name),
    ("rank", .ofNat p.rank),
    ("reason_code", .text p.reason),
    ("informational", .bool p.informational)]

def decode (d : Document) : Decoded TransitionProposal := do
  let f ← d.fields ["target", "priority", "rank", "reason_code", "informational"]
  return {
    target := ← f.required "target" Document.text?
    priority := ← f.required "priority" Proposal.priority?
    rank := ← f.withDefault "rank" 0 Document.count?
    reason := ← f.required "reason_code" Document.text?
    informational := ← f.withDefault "informational" false Document.bool? }

end TransitionProposal

namespace Proposal

def kindField : String := "kind"

def encode (p : Proposal) : Document :=
  .table ((kindField, .text p.kind.name) :: match p with
    | .action a => a.encode
    | .transition t => t.encode)

def ofKind (kind rest : Document) : Decoded Proposal := do
  match ← kind.text? with
  | "action" => action <$> ActionProposal.decode rest
  | "transition" => transition <$> TransitionProposal.decode rest
  | _ => throw .variant

-- The kind may stand anywhere in a table; in a list it comes first.
def decode : Document → Decoded Proposal
  | .table entries =>
    match entries.filter (·.1 == kindField) with
    | [] => throw (.missing kindField)
    | [(_, kind)] => (ofKind kind (.table (entries.filter (·.1 != kindField)))).undecided
    | _ => throw (.repeated kindField)
  | .list (kind :: rest) => (ofKind kind (.list rest)).undecided
  | .list [] => throw (.missing kindField)
  | _ => throw .kind

end Proposal

end Colloquy
