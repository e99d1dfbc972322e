import Colloquy.Proofs.Escalation

/-! What is published about a conversation, and what can be known from it. -/
namespace Colloquy

structure Standing where
  tiers : Table Tier
  turn : Nat
  current : String

def Conversation.standing (c : Conversation) : Standing := ⟨c.tiers, c.turn, c.current⟩

-- Faults and reloads change nothing, and neither do events about other conversations.
def Standing.hear (id : String) (s : Standing) : Event → Standing
  | .guardEscalated about guard tier =>
    if about = id then { s with tiers := s.tiers.insert guard tier } else s
  | .turnResolved about turn _ nextState _ =>
    if about = id then { s with turn := turn, current := nextState } else s
  | .sourceFaulted .. => s
  | .flowReloaded _ => s

namespace Turn

-- Strictly above the tier the guard had before the turn, and above all to which the proposals that
-- come earlier in the turn escalate it.
def Exceeds (c : Conversation) (earlier : List Collected) (e : Escalation) : Prop :=
  (c.tier e.guard).level < e.tier.level ∧
    ∀ other ∈ escalations earlier, other.guard = e.guard → other.tier.level < e.tier.level

instance (c : Conversation) (earlier : List Collected) (e : Escalation) :
    Decidable (Exceeds c earlier e) :=
  inferInstanceAs (Decidable (_ ∧ _))

-- What a proposal escalates to, if that is noticed.
def noticed (c : Conversation) (asked : List Collected) (p : Collected × Nat) :
    Option Escalation :=
  p.1.proposal.escalation?.filter fun e => Exceeds c (asked.take p.2) e

theorem exceeds_iff {c : Conversation} {earlier : List Collected} {e : Escalation} :
    Exceeds c earlier e ↔ ((escalations earlier).foldl Conversation.raiseTier c).raises e = true := by
  unfold Conversation.raises
  rw [decide_eq_true_iff]
  constructor
  · rintro ⟨stored, others⟩
    obtain ⟨n, level⟩ := Nat.exists_eq_add_of_lt stored
    have bounded : (((escalations earlier).foldl Conversation.raiseTier c).tier e.guard).level ≤
        e.tier.level - 1 :=
      Conversation.tiers_bounded (by omega) fun other member same => by
        have := others other member same
        omega
    omega
  · intro above
    refine ⟨Nat.lt_of_le_of_lt (Conversation.tiers_rise c _ e.guard) above, ?_⟩
    intro other member same
    have reached := Conversation.tier_reached c member
    rw [same] at reached
    exact Nat.lt_of_le_of_lt reached above

-- Going through the proposals one by one comes to the same as looking at each with those before it.
theorem effective_noticed (c : Conversation) (earlier later : List Collected) :
    effective ((escalations earlier).foldl Conversation.raiseTier c) (escalations later) =
      (later.zipIdx earlier.length).filterMap (noticed c (earlier ++ later)) := by
  induction later generalizing earlier with
  | nil => rfl
  | cons p later ih =>
    have rest := ih (earlier ++ [p])
    rw [List.length_append, List.length_singleton, List.append_assoc, List.singleton_append] at rest
    have before : (earlier ++ p :: later).take earlier.length = earlier := List.take_left
    rw [List.zipIdx_cons]
    cases written : p.proposal.escalation? with
    | none =>
      have none : noticed c (earlier ++ p :: later) (p, earlier.length) = none := by
        rw [noticed, written, Option.filter_none]
      have grown : escalations (earlier ++ [p]) = escalations earlier := by
        simp [escalations, written]
      rw [grown] at rest
      rw [List.filterMap_cons_none none, ← rest]
      exact congrArg _ (List.filterMap_cons_none written)
    | some e =>
      have grown : escalations (earlier ++ [p]) = escalations earlier ++ [e] := by
        simp [escalations, written]
      have first : escalations (p :: later) = e :: escalations later :=
        List.filterMap_cons_some written
      rw [grown, List.foldl_append, List.foldl_cons, List.foldl_nil] at rest
      rw [first, effective]
      split
      · rename_i raised
        have seen : noticed c (earlier ++ p :: later) (p, earlier.length) = some e := by
          rw [noticed, written, before, Option.filter_some, if_pos]
          exact decide_eq_true (exceeds_iff.mpr raised)
        rw [List.filterMap_cons_some seen, ← rest]
      · rename_i refused
        have unseen : noticed c (earlier ++ p :: later) (p, earlier.length) = none := by
          rw [noticed, written, before, Option.filter_some, if_neg]
          simpa [exceeds_iff] using refused
        rw [Conversation.raiseTier_refused (by simpa using refused)] at rest
        rw [List.filterMap_cons_none unseen, ← rest]

end Turn

namespace Standing

variable {id : String}

theorem hear_faults (s : Standing) (faults : List FaultRecord) :
    (faults.map fun f => Event.sourceFaulted id f.source f.fault).foldl (hear id) s = s := by
  induction faults with
  | nil => rfl
  | cons f rest ih => exact ih

theorem hear_escalations (c : Conversation) (raised : List Escalation) :
    ((Turn.effective c raised).map fun e => Event.guardEscalated c.id e.guard e.tier).foldl
      (hear c.id) c.standing = (raised.foldl Conversation.raiseTier c).standing := by
  induction raised generalizing c with
  | nil => rfl
  | cons e rest ih =>
    have later := ih (c.raiseTier e)
    rw [Turn.effective]
    split
    · rename_i raised
      rw [List.map_cons, List.foldl_cons, List.foldl_cons, ← later,
        Conversation.raiseTier_raised raised]
      have heard : hear c.id c.standing (.guardEscalated c.id e.guard e.tier) =
          { c.standing with tiers := c.tiers.insert e.guard e.tier } := if_pos rfl
      rw [heard]
      rfl
    · rename_i refused
      rw [Conversation.raiseTier_refused (by simpa using refused)] at later
      rw [List.foldl_cons, Conversation.raiseTier_refused (by simpa using refused), later]

end Standing

theorem Engine.turn_events (engine : Engine) (c : Conversation) (input : TurnInput) (now : Instant) :
    let asked := Turn.askedProposals engine.registry (engine.snapshot c input)
    let result := engine.turn c input now
    result.events = result.faults.map (fun f => .sourceFaulted c.id f.source f.fault) ++
      (asked.zipIdx.filterMap (Turn.noticed c asked)).map
        (fun e => .guardEscalated c.id e.guard e.tier) ++
      [.turnResolved c.id result.conversation.turn result.decision.action
        result.conversation.current result.decision.degraded] := by
  intro asked result
  have noticed : Turn.effective c (Turn.escalations asked) =
      asked.zipIdx.filterMap (Turn.noticed c asked) := Turn.effective_noticed c [] asked
  rw [← noticed]
  rfl

theorem Engine.turn_heard (engine : Engine) (c : Conversation) (input : TurnInput) (now : Instant) :
    (engine.turn c input now).events.foldl (Standing.hear c.id) c.standing =
      (engine.turn c input now).conversation.standing := by
  let s := engine.snapshot c input
  let raised := Turn.escalations (Turn.askedProposals engine.registry s)
  let result := engine.turn c input now
  have tiers : result.conversation.tiers = (raised.foldl Conversation.raiseTier c).tiers :=
    Turn.commit_tiers s result.decision raised now
  have events : result.events = result.faults.map (fun f => .sourceFaulted c.id f.source f.fault) ++
      (Turn.effective c raised).map (fun e => .guardEscalated c.id e.guard e.tier) ++
      [.turnResolved c.id s.turn result.decision.action result.decision.nextState
        result.decision.degraded] := rfl
  change result.events.foldl _ _ = result.conversation.standing
  rw [events, List.foldl_append, List.foldl_append, Standing.hear_faults,
    Standing.hear_escalations]
  change (if c.id = c.id then _ else _) = _
  rw [if_pos rfl, Conversation.standing, Conversation.standing, tiers]
  rfl

namespace Course

def publishes (t : Course) : Step → List Event
  | .turn input now => (t.engine.turn t.conversation input now).events
  | .reload flow => [(t.engine.reload flow).2]
  | .reset _ => []

def published (t : Course) : List Step → List Event
  | [] => []
  | step :: rest => t.publishes step ++ (t.step step).published rest

theorem step_heard (t : Course) {step : Step} (goesOn : step.isReset = false) :
    (t.publishes step).foldl (Standing.hear t.conversation.id) t.conversation.standing =
      (t.step step).conversation.standing := by
  cases step with
  | turn input now => exact t.engine.turn_heard t.conversation input now
  | reload flow => rfl
  | reset now => cases goesOn

theorem run_heard (t : Course) {steps : List Step}
    (goesOn : ∀ step ∈ steps, step.isReset = false) :
    (t.published steps).foldl (Standing.hear t.conversation.id) t.conversation.standing =
      (t.run steps).conversation.standing := by
  induction steps generalizing t with
  | nil => rfl
  | cons step rest ih =>
    obtain ⟨first, later⟩ := List.forall_mem_cons.mp goesOn
    rw [published, List.foldl_append, t.step_heard first, ← (step_keeps t step).1]
    exact ih (t.step step) later

end Course

theorem events_tell (t : Course) :
    (∀ input now,
      let asked := Turn.askedProposals t.engine.registry (t.engine.snapshot t.conversation input)
      let result := t.engine.turn t.conversation input now
      result.events =
        result.faults.map (fun f => .sourceFaulted t.conversation.id f.source f.fault) ++
        (asked.zipIdx.filterMap (Turn.noticed t.conversation asked)).map
          (fun e => .guardEscalated t.conversation.id e.guard e.tier) ++
        [.turnResolved t.conversation.id result.conversation.turn result.decision.action
          result.conversation.current result.decision.degraded]) ∧
    ∀ steps, (∀ step ∈ steps, step.isReset = false) →
      (t.published steps).foldl (Standing.hear t.conversation.id) t.conversation.standing =
        (t.run steps).conversation.standing :=
  ⟨t.engine.turn_events t.conversation, fun _ goesOn => t.run_heard goesOn⟩

-- One source fails, and another escalates three times in one turn, the second time in vain.
def broken : Source where
  name := "broken"
  applies _ := true
  contribute _ := ⟨[], some (.failed "no answer")⟩

def ringing (tier : Tier) : Proposal :=
  .action { action := "greet", priority := .low, reason := "ring", escalation := some ⟨"fire", tier⟩ }

def siren : Source where
  name := "siren"
  applies _ := true
  contribute _ := ⟨[ringing .offerAlternative, ringing .nudge, ringing .forcedExit], none⟩

def alarm : Course :=
  .begin { flow := lobbyFlow, registry := [broken, siren] } "visitor" .epoch

-- The last turn finds a flow without its state.
def alarming : List Step := [.turn mumble .epoch, .turn mumble .epoch, .reload hallFlow,
  .turn mumble .epoch]

theorem alarm_told :
    (∀ step ∈ alarming, step.isReset = false) ∧
    alarm.published alarming = [
      .sourceFaulted "visitor" "broken" (.failed "no answer"),
      .guardEscalated "visitor" "fire" .offerAlternative,
      .guardEscalated "visitor" "fire" .forcedExit,
      .turnResolved "visitor" 1 "greet" "lobby" false,
      .sourceFaulted "visitor" "broken" (.failed "no answer"),
      .turnResolved "visitor" 2 "greet" "lobby" false,
      .flowReloaded 2,
      .turnResolved "visitor" 3 "escalate_to_human" "lobby" true] ∧
    (alarm.published alarming).foldl (Standing.hear "visitor") alarm.conversation.standing =
      (alarm.run alarming).conversation.standing := by
  have goesOn : ∀ step ∈ alarming, step.isReset = false := by decide
  exact ⟨goesOn, by decide_cbv, (events_tell alarm).2 alarming goesOn⟩

end Colloquy
