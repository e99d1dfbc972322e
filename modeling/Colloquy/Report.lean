import Colloquy.Conversation.Codec
import Colloquy.Turn

/-!
The status report of a conversation: what an operator reads about it, as text and as a document.
-/
namespace Colloquy

structure Report where
  conversation : Conversation
  goal : String
  isTerminal : Bool
  missingRequired : List String

namespace Report

def of (c : Conversation) (flow : Flow) : Report :=
  let view := flow.view c
  ⟨c, view.goal, view.isTerminal, view.missingRequired⟩

def dataLines (data : Data) : List String :=
  if data.isEmpty then ["  Data:       (none)"]
  else "  Data:" :: data.entries.map fun (field, value) => "    " ++ field ++ " = " ++ value.display

def countersLine (c : Counters) : String :=
  "  Counters:   streak=" ++ toString c.sameStateStreak
    ++ " objections=" ++ toString c.consecutiveObjections ++ "/" ++ toString c.totalObjections
    ++ " unclear=" ++ toString c.consecutiveUnclear

def lastTurnLine (r : DatedDecision) : String :=
  "  Last turn:  #" ++ toString r.turn ++ " " ++ r.decision.action ++ " -> " ++ r.decision.nextState
    ++ " [" ++ ", ".intercalate r.decision.reasons ++ "]"

def lines (r : Report) : List String :=
  let c := r.conversation
  ["Conversation: " ++ c.id, "  State:      " ++ c.current ++ (if r.isTerminal then " (terminal)" else "")]
  ++ (if r.goal.isEmpty then [] else ["  Goal:       " ++ r.goal])
  ++ ["  Turn:       " ++ toString c.turn]
  ++ dataLines c.data
  ++ (if r.missingRequired.isEmpty then []
      else ["  Missing:    " ++ ", ".intercalate r.missingRequired])
  ++ [countersLine c.counters]
  ++ c.tiers.entries.map (fun (guard, tier) => "  Guard:      " ++ guard ++ " at " ++ tier.name)
  ++ c.lastDecision.toList.map lastTurnLine
  ++ ["  Updated:    " ++ c.updatedAt.withOffset]

def text (r : Report) : String := "\n".intercalate r.lines

def encodeBody (r : Report) : List (String × Document) :=
  let c := r.conversation
  [("conversation_id", .text c.id),
   ("state", .text c.current),
   ("goal", .text r.goal),
   ("is_terminal", .bool r.isTerminal),
   ("turn", .ofNat c.turn),
   ("collected_data", .ofData c.data),
   ("missing_required", .ofTexts r.missingRequired),
   ("counters", c.counters.encode),
   ("guard_tiers", Conversation.encodeTiers c.tiers)]
  ++ (c.lastDecision.map fun d => ("last_decision", d.encode)).toList

def encode (r : Report) : Document :=
  .table (r.encodeBody ++ [
    ("started_at", .text r.conversation.startedAt.zulu),
    ("updated_at", .text r.conversation.updatedAt.zulu)])

end Report

end Colloquy
