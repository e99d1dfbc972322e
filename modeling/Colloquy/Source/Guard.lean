import Colloquy.Source.Standard

/-! Guards: sources that notice a conversation going nowhere. -/
namespace Colloquy.Source

def stallName : String := "stall"

def stallSettings? (s : Snapshot) : Option StallSettings :=
  s.flow.blueprint.stall.filter (·.enabled)

-- Where the state's own transition on a stall leads, else the state for all.
def skipTarget (s : Snapshot) (stall : StallSettings) : Option String :=
  let own := s.state?.bind fun state =>
    (state.transitions.find? Trigger.stalled).bind s.select
  (own.map (·.target)).or stall.skipState

-- The forced exit may be combined, so that the transition goes with it.
def stallProposals (s : Snapshot) (stall : StallSettings) : List Proposal :=
  let tier := s.nextTier stallName
  let leave (priority : Priority) (reason : String) : List Proposal :=
    (skipTarget s stall).toList.map fun target =>
      .transition { target := target, priority := priority, reason := reason }
  match tier with
  | .normal | .nudge => [.action {
      action := stall.offerSkipAction
      priority := .high
      reason := "stall_nudge"
      escalation := some ⟨stallName, .nudge⟩ }]
  | .offerAlternative => .action {
      action := stall.skipAction
      priority := .high
      reason := "stall_offer_alternative"
      escalation := some ⟨stallName, tier⟩ } :: leave .high "stall_offer_alternative"
  | .forcedExit => .action {
      action := stall.exitAction
      priority := .critical
      reason := "stall_forced_exit"
      escalation := some ⟨stallName, tier⟩ } :: leave .critical "stall_forced_exit"

def stallGuard : Source where
  name := stallName
  applies s := (stallSettings? s).any fun stall =>
    !s.isTerminal && stall.maxTurnsInState < s.turnsInState
  contribute s := .ofExcept do
    let stall ← needSetting "guards.stall" (stallSettings? s)
    return stallProposals s stall

def loopName : String := "conversation_loop"

def loopSettings? (s : Snapshot) : Option LoopSettings :=
  s.flow.blueprint.loop.filter (·.enabled)

def pastWindow (s : Snapshot) (settings : LoopSettings) : List TurnRecord :=
  s.recent (settings.window - 1)

def repeats (s : Snapshot) (settings : LoopSettings) : Nat :=
  (pastWindow s settings).countP (fun r => r.state == s.current && r.intent == s.intent) + 1

def isInformative (s : Snapshot) (settings : LoopSettings) : Bool :=
  settings.informativeCategory.any fun category =>
    s.inCategory category || (pastWindow s settings).any (s.flow.inCategory category ·.intent)

def loopProposal (s : Snapshot) (settings : LoopSettings) : ActionProposal :=
  let tier := s.nextTier loopName
  match tier with
  | .normal | .nudge => {
      action := settings.nudgeAction
      priority := .high
      reason := "loop_nudge"
      escalation := some ⟨loopName, .nudge⟩ }
  | .offerAlternative => {
      action := settings.rephraseAction
      priority := .high
      reason := "loop_rephrase"
      escalation := some ⟨loopName, tier⟩ }
  | .forcedExit => {
      action := settings.exitAction
      priority := .critical
      combinable := false
      reason := "loop_forced_exit"
      escalation := some ⟨loopName, tier⟩ }

def loopGuard : Source where
  name := loopName
  applies s := (loopSettings? s).isSome && !s.isTerminal
  contribute s := .ofExcept do
    let settings ← needSetting "guards.loop" (loopSettings? s)
    if settings.maxRepeats < repeats s settings && !isInformative s settings then
      return [.action (loopProposal s settings)]
    else return []

def objectionName : String := "objection_repetition"

def objectionSettings? (s : Snapshot) : Option ObjectionSettings :=
  s.flow.blueprint.objection.filter (·.enabled)

def objectionGuard : Source where
  name := objectionName
  applies s := (objectionSettings? s).any fun settings =>
    s.isObjection &&
      (settings.maxConsecutive < s.consecutiveObjections || settings.maxTotal < s.totalObjections)
  contribute s := .ofExcept do
    let settings ← needSetting "guards.objection" (objectionSettings? s)
    return [.action {
      action := settings.action
      priority := .critical
      combinable := false
      reason := "objection_limit"
      escalation := some ⟨objectionName, .forcedExit⟩ }]

end Colloquy.Source

namespace Colloquy

def Registry.standard : Registry := [
  Source.questionResponder, Source.stateRules, Source.dataCollector, Source.rejectionHandler,
  Source.fallback, Source.stallGuard, Source.loopGuard, Source.objectionGuard]

end Colloquy
