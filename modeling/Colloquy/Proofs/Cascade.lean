import Colloquy.Proofs.Offers
import Colloquy.Proofs.Ranking

/-! What a turn with the standard registry decides, as a table. -/
namespace Colloquy

open Resolution

-- The action of a turn, its source, and whether the conversation may move with it.
structure Verdict where
  action : String
  source : String
  moves : Bool
deriving DecidableEq, Repr

namespace Snapshot

-- The stored tier is the last but one at least, so a guard that fires makes its exit.
def exits (s : Snapshot) (guard : String) : Bool :=
  Tier.offerAlternative.level ≤ (s.conversation.tier guard).level

def offersAlternative (s : Snapshot) (guard : String) : Bool := s.conversation.tier guard == .nudge

def verdicts (s : Snapshot) : List (Option Verdict) := [
  s.rejection?.map fun rejection => ⟨rejection.action, Source.rejectionHandler.name, false⟩,
  (s.stall?.filter fun _ => s.exits Source.stallName).map fun stall =>
    ⟨stall.exitAction, Source.stallName, true⟩,
  (s.loop?.filter fun _ => s.exits Source.loopName).map fun loop =>
    ⟨loop.exitAction, Source.loopName, false⟩,
  s.objection?.map fun objection => ⟨objection.action, Source.objectionName, false⟩,
  s.answer?.map fun action => ⟨action, Source.questionResponder.name, true⟩,
  (s.stall?.filter fun _ => !s.exits Source.stallName).map fun stall =>
    ⟨if s.offersAlternative Source.stallName then stall.skipAction else stall.offerSkipAction,
      Source.stallName, true⟩,
  (s.loop?.filter fun _ => !s.exits Source.loopName).map fun loop =>
    ⟨if s.offersAlternative Source.loopName then loop.rephraseAction else loop.nudgeAction,
      Source.loopName, true⟩,
  s.rule?.map fun picked => ⟨picked.target, Source.stateRules.name, true⟩]

def verdict (s : Snapshot) : Verdict :=
  (s.verdicts.findSome? id).getD ⟨Source.defaultActionOf s, Source.fallback.name, true⟩

def destinations (s : Snapshot) : List (Option String) := [
  (s.stall?.filter fun _ => s.exits Source.stallName).bind (Source.skipTarget s),
  s.completion?.map (·.target),
  (s.stall?.filter fun _ => s.offersAlternative Source.stallName).bind (Source.skipTarget s),
  s.transition?.map (·.target)]

def destination (s : Snapshot) : String := (s.destinations.findSome? id).getD s.current

end Snapshot

def Proposal.moves : Proposal → Bool
  | .action p => p.combinable
  | .transition _ => true

namespace Source

variable {source : Source} {s : Snapshot}

def first (source : Source) (s : Snapshot) (kind : ProposalKind) (priority : Priority) :
    Option Proposal :=
  (source.offers s).find? fun p => p.kind == kind && p.priority == priority

def voice (source : Source) (s : Snapshot) (priority : Priority) : Option Verdict :=
  (source.first s .action priority).map fun p => ⟨p.value, source.name, p.moves⟩

def lead (source : Source) (s : Snapshot) (priority : Priority) : Option String :=
  (source.first s .transition priority).map (·.value)

theorem voice_single {o : Option α} {f : α → ActionProposal}
    (offers : source.offers s = o.toList.map fun a => .action (f a))
    (priorities : ∀ a, (f a).priority = priority) (p : Priority) :
    source.voice s p = if priority = p then
      o.map fun a => ⟨(f a).action, source.name, (f a).combinable⟩ else none := by
  rw [voice, first, offers]
  cases o with
  | none => simp
  | some a =>
    have same : ((f a).priority == p) = decide (priority = p) := by rw [priorities]; rfl
    by_cases equal : priority = p <;>
      simp [same, equal, Proposal.kind, Proposal.priority, Proposal.value, Proposal.moves]

theorem lead_single {o : Option α} {f : α → ActionProposal}
    (offers : source.offers s = o.toList.map fun a => .action (f a)) (p : Priority) :
    source.lead s p = none := by
  rw [lead, first, offers]
  cases o <;> simp [Proposal.kind]

theorem voice_stallGuard (s : Snapshot) (p : Priority) : stallGuard.voice s p =
    if (if s.exits stallName then .critical else .high) = p then
      s.stall?.map fun stall => ⟨if s.exits stallName then stall.exitAction
        else if s.offersAlternative stallName then stall.skipAction else stall.offerSkipAction,
        stallName, true⟩
    else none := by
  rw [voice, first, offers_stallGuard]
  cases s.stall? with
  | none => simp
  | some stall =>
    obtain ⟨tier, stored⟩ : ∃ tier, s.conversation.tier stallName = tier := ⟨_, rfl⟩
    simp only [Option.toList_some, List.flatMap_cons, List.flatMap_nil, List.append_nil,
      stallProposals, Snapshot.nextTier, Snapshot.exits, Snapshot.offersAlternative, stored]
    cases tier <;> cases skipTarget s stall <;> cases p <;> rfl

theorem lead_stallGuard (s : Snapshot) (p : Priority) : stallGuard.lead s p =
    if s.exits stallName ∧ p = .critical ∨ s.offersAlternative stallName ∧ p = .high then
      s.stall?.bind (skipTarget s)
    else none := by
  rw [lead, first, offers_stallGuard]
  cases s.stall? with
  | none => simp
  | some stall =>
    obtain ⟨tier, stored⟩ : ∃ tier, s.conversation.tier stallName = tier := ⟨_, rfl⟩
    simp only [Option.toList_some, List.flatMap_cons, List.flatMap_nil, List.append_nil,
      stallProposals, Snapshot.nextTier, Snapshot.exits, Snapshot.offersAlternative, stored,
      Option.bind_some]
    cases tier <;> cases skipTarget s stall <;> cases p <;> rfl

theorem voice_loopGuard (s : Snapshot) (p : Priority) : loopGuard.voice s p =
    if (if s.exits loopName then .critical else .high) = p then
      s.loop?.map fun loop => ⟨if s.exits loopName then loop.exitAction
        else if s.offersAlternative loopName then loop.rephraseAction else loop.nudgeAction,
        loopName, !s.exits loopName⟩
    else none := by
  rw [voice, first, offers_loopGuard]
  cases s.loop? with
  | none => simp
  | some loop =>
    obtain ⟨tier, stored⟩ : ∃ tier, s.conversation.tier loopName = tier := ⟨_, rfl⟩
    simp only [Option.toList_some, List.map_cons, List.map_nil, loopProposal, Snapshot.nextTier,
      Snapshot.exits, Snapshot.offersAlternative, stored]
    cases tier <;> cases p <;> rfl

theorem voice_stateRules {state : State} (known : s.state? = some state) (p : Priority) :
    stateRules.voice s p = if .normal = p then
      s.rule?.map fun picked => ⟨picked.target, stateRules.name, true⟩ else none := by
  rw [voice, first, offers_stateRules known]
  cases s.rule? <;> cases s.transition? <;> cases p <;> rfl

theorem lead_stateRules {state : State} (known : s.state? = some state) (p : Priority) :
    stateRules.lead s p = if .normal = p then s.transition?.map (·.target) else none := by
  rw [lead, first, offers_stateRules known]
  cases s.rule? <;> cases s.transition? <;> cases p <;> rfl

theorem voice_dataCollector {state : State} (known : s.state? = some state) (p : Priority) :
    dataCollector.voice s p = none := by
  rw [voice, first, offers_dataCollector known]
  cases s.completion? <;> rfl

theorem lead_dataCollector {state : State} (known : s.state? = some state) (p : Priority) :
    dataCollector.lead s p = if .high = p then s.completion?.map (·.target) else none := by
  rw [lead, first, offers_dataCollector known]
  cases s.completion? <;> cases p <;> rfl

theorem voice_fallback (s : Snapshot) (p : Priority) : fallback.voice s p =
    if .low = p then some ⟨defaultActionOf s, fallback.name, true⟩ else none := by
  rw [voice, first, offers_fallback]
  cases p <;> rfl

theorem lead_fallback (s : Snapshot) (p : Priority) :
    fallback.lead s p = if .low = p then some s.current else none := by
  rw [lead, first, offers_fallback]
  cases p <;> rfl

theorem stallProposals_unranked (s : Snapshot) (stall : StallSettings) :
    ∀ p ∈ stallProposals s stall, p.rank = 0 := by
  unfold stallProposals
  cases s.nextTier stallName <;>
    simp only [List.forall_mem_cons, List.forall_mem_map, List.not_mem_nil, false_implies,
      implies_true, and_true, Proposal.rank]

theorem loopProposal_unranked (s : Snapshot) (loop : LoopSettings) :
    (loopProposal s loop).rank = 0 := by
  unfold loopProposal
  cases s.nextTier loopName <;> rfl

end Source

theorem findSome?_cons_or (f : α → Option β) (a : α) (l : List α) :
    (a :: l).findSome? f = (f a).or (l.findSome? f) := by
  rw [List.findSome?_cons]
  cases f a <;> rfl

theorem filter_const (o : Option α) (keep : Bool) :
    (o.filter fun _ => keep) = if keep then o else none := by
  cases o <;> cases keep <;> rfl

namespace Registry

theorem proposals_offers (registry : Registry) (s : Snapshot) :
    registry.proposals s = registry.zipIdx.flatMap fun e =>
      (e.1.offers s).zipIdx.map fun p => ⟨e.1.name, e.2, p.2, p.1⟩ := by
  rw [proposals]
  congr 1
  funext e
  simp only [Source.offers]
  split <;> rfl

theorem proposals_tagged (registry : Registry) (s : Snapshot) :
    (registry.proposals s).map tag =
      registry.flatMap fun source => (source.offers s).map (source.name, ·) := by
  have forgetSeq (source : Source) (index : Nat) :
      ((source.offers s).zipIdx.map fun p => (⟨source.name, index, p.2, p.1⟩ : Collected)).map tag =
        (source.offers s).map (source.name, ·) := by
    conv => rhs; rw [← List.zipIdx_map_fst 0 (source.offers s)]
    rw [List.map_map, List.map_map]
    rfl
  conv => rhs; rw [← List.zipIdx_map_fst 0 registry]
  rw [proposals_offers, List.map_flatMap, List.flatMap_map]
  congr 1
  funext e
  exact forgetSeq e.1 e.2

theorem proposals_inOrder (registry : Registry) (s : Snapshot) :
    (registry.proposals s).Pairwise fun a b =>
      a.sourceIndex < b.sourceIndex ∨ a.sourceIndex = b.sourceIndex ∧ a.seq < b.seq := by
  rw [proposals_offers, List.pairwise_flatMap]
  constructor
  · intro e _
    rw [List.pairwise_map]
    exact (pairwise_zipIdx _).imp fun before => .inr ⟨rfl, before⟩
  · refine (pairwise_zipIdx registry).imp fun before a here b there => .inl ?_
    obtain ⟨_, _, rfl⟩ := List.mem_map.mp here
    obtain ⟨_, _, rfl⟩ := List.mem_map.mp there
    exact before

theorem chief_proposals (registry : Registry) (s : Snapshot) (kind : ProposalKind)
    (f : String × Proposal → β) :
    (chief kind ((registry.proposals s).map tag)).map f =
      Priority.all.reverse.findSome? fun priority => registry.findSome? fun source =>
        (source.first s kind priority).map fun p => f (source.name, p) := by
  rw [proposals_tagged, chief, List.map_findSome?]
  congr 1
  funext priority
  simp only [Function.comp, List.find?_flatMap, List.map_findSome?, List.find?_map]
  congr 1
  funext source
  exact Option.map_map ..

theorem standard_unranked {s : Snapshot} {state : State} (known : s.state? = some state) :
    ∀ source ∈ Registry.standard, ∀ p ∈ source.offers s, p.rank = 0 := by
  simp only [Registry.standard, List.forall_mem_cons, List.not_mem_nil, false_implies,
    implies_true, and_true, Source.offers_questionResponder, Source.offers_stateRules known,
    Source.offers_dataCollector known, Source.offers_rejectionHandler, Source.offers_fallback,
    Source.offers_stallGuard, Source.offers_loopGuard, Source.offers_objectionGuard,
    List.forall_mem_append, List.forall_mem_map, List.forall_mem_flatMap]
  refine ⟨fun _ _ => rfl, ⟨fun _ _ => rfl, fun _ _ => rfl⟩, fun _ _ => rfl, fun _ _ => rfl,
    ⟨rfl, rfl⟩, ?_, ?_, fun _ _ => rfl⟩
  · exact fun stall _ => Source.stallProposals_unranked s stall
  · exact fun loop _ => Source.loopProposal_unranked s loop

theorem standard_arranged {s : Snapshot} {state : State} (known : s.state? = some state) :
    Arranged (Registry.standard.proposals s) where
  inOrder := proposals_inOrder _ s
  unranked c member := by
    rw [proposals_offers] at member
    obtain ⟨⟨source, index⟩, place, member⟩ := List.mem_flatMap.mp member
    obtain ⟨⟨p, seq⟩, offered, rfl⟩ := List.mem_map.mp member
    exact standard_unranked known source (List.fst_mem_of_mem_zipIdx place) p
      (List.fst_mem_of_mem_zipIdx offered)

theorem standard_verdict {s : Snapshot} {state : State} (known : s.state? = some state) :
    Priority.all.reverse.findSome? (fun p => Registry.standard.findSome? (·.voice s p)) =
      some s.verdict := by
  have answers := Source.voice_single (Source.offers_questionResponder s) fun _ => rfl
  have rejects := Source.voice_single (Source.offers_rejectionHandler s) fun _ => rfl
  have objects := Source.voice_single (Source.offers_objectionGuard s) fun _ => rfl
  simp only [Priority.all, List.reverse_cons, List.reverse_nil, List.nil_append, List.cons_append,
    Registry.standard, findSome?_cons_or, List.findSome?_nil, Option.or_none, answers, rejects,
    objects, Source.voice_stateRules known, Source.voice_dataCollector known,
    Source.voice_fallback, Source.voice_stallGuard, Source.voice_loopGuard, Snapshot.verdict,
    Snapshot.verdicts, id]
  have named : Source.objectionGuard.name = Source.objectionName := rfl
  cases s.exits Source.stallName <;> cases s.exits Source.loopName <;> simp [filter_const, named]

theorem standard_destination {s : Snapshot} {state : State} (known : s.state? = some state) :
    Priority.all.reverse.findSome? (fun p => Registry.standard.findSome? (·.lead s p)) =
      some s.destination := by
  simp only [Priority.all, List.reverse_cons, List.reverse_nil, List.nil_append, List.cons_append,
    Registry.standard, findSome?_cons_or, List.findSome?_nil, Option.or_none,
    Source.lead_single (Source.offers_questionResponder s),
    Source.lead_single (Source.offers_rejectionHandler s),
    Source.lead_single (Source.offers_objectionGuard s),
    Source.lead_single (Source.offers_loopGuard s), Source.lead_stateRules known,
    Source.lead_dataCollector known, Source.lead_fallback, Source.lead_stallGuard,
    Snapshot.destination, Snapshot.destinations, id]
  cases s.exits Source.stallName <;> cases s.offersAlternative Source.stallName <;>
    simp [filter_const]

end Registry

theorem chief_kind {kind : ProposalKind} {ps : List (String × Proposal)} {e : String × Proposal}
    (head : chief kind ps = some e) : e.2.kind = kind := by
  obtain ⟨priority, _, found⟩ := List.exists_of_findSome?_eq_some head
  have held := List.find?_some found
  exact beq_iff_eq.mp (Bool.and_eq_true_iff.mp held).1

-- In a state of the flow the proposals of the standard registry always resolve.
theorem standard_decides {s : Snapshot} {state : State} (known : s.state? = some state) :
    let d := Turn.decision s (Turn.askedProposals .standard s)
    d.action = s.verdict.action ∧ d.winningSource = some s.verdict.source ∧
      d.transitionsSuppressed = !s.verdict.moves ∧ d.degraded = false ∧
      d.nextState = if s.verdict.moves then s.destination else s.current := by
  intro d
  have verdict := (Registry.chief_proposals .standard s .action fun e =>
    (⟨e.2.value, e.1, e.2.moves⟩ : Verdict)).trans (Registry.standard_verdict known)
  have destination := (Registry.chief_proposals .standard s .transition (·.2.value)).trans
    (Registry.standard_destination known)
  obtain ⟨⟨source, p⟩, head, spoken⟩ := Option.map_eq_some_iff.mp verdict
  have kind := chief_kind head
  cases p with
  | transition p => cases kind
  | action p =>
    have here : s.state?.isSome = true := Option.isSome_iff_exists.mpr ⟨state, known⟩
    have decided : d = Turn.decision s (Registry.proposals .standard s) :=
      congrArg (Turn.decision s) (Turn.asked_known .standard here)
    obtain ⟨action, winner, suppressed, sound, next⟩ :=
      chief_resolved (Registry.standard_arranged known) head (Turn.decision_resolved here _)
    rw [destination] at next
    rw [decided, ← spoken]
    exact ⟨action, winner, suppressed, sound, next⟩

-- A flow that greets and moves on, with two guards against staying.
def lobby : Blueprint where
  initialState := "lobby"
  intents := ["hello", "unclear"]
  actions := ["continue", "escalate_to_human", "greet", "offer", "skip", "leave", "nudge",
    "rephrase", "hand_over"]
  states := Table.ofList [
    ("lobby", {
      transitions := Table.empty.insert "hello" (.direct "hall")
      rules := Table.empty.insert "hello" (.direct "greet") }),
    ("hall", {}),
    ("street", { terminal := true })]
  stall := some {
    maxTurnsInState := 1
    offerSkipAction := "offer"
    skipAction := "skip"
    exitAction := "leave"
    skipState := some "street" }
  loop := some {
    maxRepeats := 1
    window := 3
    nudgeAction := "nudge"
    rephraseAction := "rephrase"
    exitAction := "hand_over" }

-- Said before, and both guards have offered an alternative.
def lingering : Conversation :=
  { Conversation.begin "visitor" "lobby" 20 .epoch with
    turn := 3
    history := [⟨3, "lobby", "hello", "rephrase", "lobby"⟩]
    counters := { sameStateStreak := 3 }
    tiers := Table.ofList [
      (Source.stallName, .offerAlternative), (Source.loopName, .offerAlternative)] }

end Colloquy
