import Mathlib
import Colloquy.Proofs.Tiers

/-! How far the guards have escalated, as a function of the complete log. -/
namespace Colloquy

open Resolution

-- The tier a guard goes to if it fires; objections have no tiers in between.
def Snapshot.aim (s : Snapshot) (guard : String) : Tier :=
  if guard = Source.objectionName then .forcedExit else s.nextTier guard

theorem Snapshot.tier_le_aim (s : Snapshot) (guard : String) :
    (s.conversation.tier guard).level ≤ (s.aim guard).level := by
  unfold aim nextTier
  split <;> cases s.conversation.tier guard <;> decide

namespace Source

def guards : List Source := [stallGuard, loopGuard, objectionGuard]

def followers : List Source :=
  [questionResponder, stateRules, dataCollector, rejectionHandler, fallback]

def guardNames : List String := [stallName, loopName, objectionName]

theorem standard_split : Registry.standard = followers ++ guards := rfl

variable {source : Source} {s : Snapshot} {p : Proposal}

theorem name_of_guard (guard : source ∈ guards) : source.name ∈ guardNames :=
  List.mem_map_of_mem (f := name) guard

theorem guard_of_name (member : source ∈ Registry.standard) (named : source.name ∈ guardNames) :
    source ∈ guards := by
  have apart : ∀ name ∈ followers.map (·.name), name ∉ guardNames := by decide
  rw [standard_split] at member
  rcases List.mem_append.mp member with follower | guard
  · exact absurd named (apart _ (List.mem_map_of_mem follower))
  · exact guard

theorem stallProposals_shape (s : Snapshot) (stall : StallSettings) :
    ∃ a moves, stallProposals s stall = .action a :: List.map .transition moves ∧
      a.escalation = some ⟨stallName, s.nextTier stallName⟩ := by
  obtain ⟨tier, stored⟩ : ∃ tier, s.conversation.tier stallName = tier := ⟨_, rfl⟩
  simp only [stallProposals, Snapshot.nextTier, stored]
  cases tier with
  | normal => exact ⟨_, [], rfl, rfl⟩
  | nudge => exact ⟨_, (skipTarget s stall).toList.map _, congrArg _ (List.map_map ..).symm, rfl⟩
  | offerAlternative | forcedExit =>
    exact ⟨_, (skipTarget s stall).toList.map _, congrArg _ (List.map_map ..).symm, rfl⟩

theorem loopProposal_aim (s : Snapshot) (loop : LoopSettings) :
    (loopProposal s loop).escalation = some ⟨loopName, s.nextTier loopName⟩ := by
  unfold loopProposal Snapshot.nextTier
  cases s.conversation.tier loopName <;> rfl

-- A guard that fires takes one action, and with it goes to the tier it aims at.
theorem guard_offers (guard : source ∈ guards) (s : Snapshot) :
    source.offers s = [] ∨ ∃ a moves, source.offers s = .action a :: List.map .transition moves ∧
      a.escalation = some ⟨source.name, s.aim source.name⟩ := by
  simp only [guards, List.mem_cons, List.not_mem_nil, or_false] at guard
  rcases guard with rfl | rfl | rfl
  · rw [offers_stallGuard]
    cases s.stall? with
    | none => exact .inl rfl
    | some stall =>
      obtain ⟨a, moves, written, escalates⟩ := stallProposals_shape s stall
      exact .inr ⟨a, moves, by simp [written], escalates⟩
  · rw [offers_loopGuard]
    cases s.loop? with
    | none => exact .inl rfl
    | some loop => exact .inr ⟨_, [], rfl, loopProposal_aim s loop⟩
  · rw [offers_objectionGuard]
    cases s.objection? with
    | none => exact .inl rfl
    | some objection => exact .inr ⟨_, [], rfl, rfl⟩

theorem guard_aims (guard : source ∈ guards) (offered : p ∈ source.offers s)
    (acts : p.kind = .action) : p.escalation? = some ⟨source.name, s.aim source.name⟩ := by
  rcases guard_offers guard s with silent | ⟨a, moves, written, escalates⟩
  · rw [silent] at offered
    cases offered
  · rw [written] at offered
    rcases List.mem_cons.mp offered with rfl | move
    · exact escalates
    · obtain ⟨_, _, rfl⟩ := List.mem_map.mp move
      cases acts

theorem guard_acts (guard : source ∈ guards) (offered : p ∈ source.offers s) :
    ∃ q ∈ source.offers s, q.escalation? = some ⟨source.name, s.aim source.name⟩ := by
  rcases guard_offers guard s with silent | ⟨a, moves, written, escalates⟩
  · rw [silent] at offered
    cases offered
  · exact ⟨.action a, written ▸ List.mem_cons_self, escalates⟩

theorem follower_keeps {state : State} (known : s.state? = some state)
    (follower : source ∈ followers) (offered : p ∈ source.offers s) : p.escalation? = none := by
  simp only [followers, List.mem_cons, List.not_mem_nil, or_false] at follower
  rcases follower with rfl | rfl | rfl | rfl | rfl
  · rw [offers_questionResponder] at offered
    obtain ⟨_, _, rfl⟩ := List.mem_map.mp offered
    rfl
  · rw [offers_stateRules known] at offered
    rcases List.mem_append.mp offered with ruled | moved
    · obtain ⟨_, _, rfl⟩ := List.mem_map.mp ruled
      rfl
    · obtain ⟨_, _, rfl⟩ := List.mem_map.mp moved
      rfl
  · rw [offers_dataCollector known] at offered
    obtain ⟨_, _, rfl⟩ := List.mem_map.mp offered
    rfl
  · rw [offers_rejectionHandler] at offered
    obtain ⟨_, _, rfl⟩ := List.mem_map.mp offered
    rfl
  · rw [offers_fallback] at offered
    simp only [List.mem_cons, List.not_mem_nil, or_false] at offered
    rcases offered with rfl | rfl <;> rfl

end Source

-- Something the source wrote is among the proposals of the turn: it was asked, its gate held, and it
-- did not fail.
def Registry.hears (registry : Registry) (s : Snapshot) (source : String) : Bool :=
  (Turn.askedProposals registry s).any (·.source == source)

namespace Turn

variable {registry : Registry} {s : Snapshot}

theorem mem_asked {name : String} {p : Proposal} :
    (name, p) ∈ (askedProposals registry s).map tag ↔
      s.state?.isSome ∧ ∃ source ∈ registry, source.name = name ∧ p ∈ source.offers s := by
  unfold askedProposals
  split
  · rename_i known
    simp only [Registry.proposals_tagged, List.mem_flatMap, List.mem_map, Prod.mk.injEq, known,
      true_and]
    constructor
    · rintro ⟨source, member, p, offered, rfl, rfl⟩
      exact ⟨source, member, rfl, offered⟩
    · rintro ⟨source, member, rfl, offered⟩
      exact ⟨source, member, p, offered, rfl, rfl⟩
  · rename_i unknown
    simp [unknown]

theorem hears_iff {name : String} : registry.hears s name ↔
    ∃ p, (name, p) ∈ (askedProposals registry s).map tag := by
  simp only [Registry.hears, List.any_eq_true, beq_iff_eq, List.mem_map, tag, Prod.mk.injEq]
  constructor
  · rintro ⟨c, member, named⟩
    exact ⟨c.proposal, c, member, named, rfl⟩
  · rintro ⟨_, c, member, named, _⟩
    exact ⟨c, member, named⟩

theorem standard_hears {source : Source} (member : source ∈ Registry.standard) :
    Registry.standard.hears s source.name ↔ s.state?.isSome ∧ source.offers s ≠ [] := by
  have apart : (Registry.standard.map (·.name)).Nodup := by decide
  simp only [hears_iff, mem_asked, ne_eq, List.eq_nil_iff_forall_not_mem, not_forall, not_not]
  constructor
  · rintro ⟨p, known, other, listed, same, offered⟩
    rw [List.inj_on_of_nodup_map apart listed member same] at offered
    exact ⟨known, p, offered⟩
  · rintro ⟨known, p, offered⟩
    exact ⟨p, known, source, member, rfl, offered⟩

-- All that guards which fire escalate to, and nothing else.
theorem standard_escalates {e : Escalation} : e ∈ escalations (askedProposals .standard s) ↔
    e.guard ∈ Source.guardNames ∧ Registry.standard.hears s e.guard ∧ e.tier = s.aim e.guard := by
  rw [mem_escalations, hears_iff]
  constructor
  · rintro ⟨name, p, asked, escalates⟩
    obtain ⟨known, source, member, rfl, offered⟩ := mem_asked.mp asked
    obtain ⟨state, known⟩ := Option.isSome_iff_exists.mp known
    rw [Source.standard_split] at member
    rcases List.mem_append.mp member with follower | guard
    · rw [Source.follower_keeps known follower offered] at escalates
      cases escalates
    · have acts : p.kind = .action := by
        cases p with
        | action a => rfl
        | transition t => cases escalates
      rw [Source.guard_aims guard offered acts] at escalates
      cases Option.some.inj escalates
      exact ⟨Source.name_of_guard guard, ⟨p, asked⟩, rfl⟩
  · rintro ⟨named, ⟨p, asked⟩, aimed⟩
    obtain ⟨known, source, member, same, offered⟩ := mem_asked.mp asked
    have guard := Source.guard_of_name member (same ▸ named)
    obtain ⟨q, offered, escalates⟩ := Source.guard_acts guard offered
    refine ⟨source.name, q, mem_asked.mpr ⟨known, source, member, rfl, offered⟩, ?_⟩
    rw [escalates, same, ← aimed]

end Turn

namespace Conversation

variable {c : Conversation} {raised : List Escalation} {guard : String}

theorem tiers_bounded (bounded : (c.tier guard).level ≤ n)
    (all : ∀ e ∈ raised, e.guard = guard → e.tier.level ≤ n) :
    ((raised.foldl raiseTier c).tier guard).level ≤ n := by
  induction raised generalizing c with
  | nil => exact bounded
  | cons e rest ih =>
    apply ih
    · rw [tier_raiseTier]
      split
      · rename_i raised
        exact all e List.mem_cons_self raised.1.symm
      · exact bounded
    · exact fun other later => all other (List.mem_cons_of_mem _ later)

-- Where a guard escalates in one way only, and not downward, it comes to just that tier.
theorem tier_settles {e : Escalation} (member : e ∈ raised)
    (only : ∀ other ∈ raised, other.guard = e.guard → other.tier = e.tier)
    (above : (c.tier e.guard).level ≤ e.tier.level) :
    (raised.foldl raiseTier c).tier e.guard = e.tier := by
  have bounded : ((raised.foldl raiseTier c).tier e.guard).level ≤ e.tier.level :=
    tiers_bounded above fun other later same =>
      Nat.le_of_eq (congrArg Tier.level (only other later same))
  exact Tier.level_injective (Nat.le_antisymm bounded (tier_reached c member))

theorem find?_raiseTier {e : Escalation} (other : e.guard ≠ guard) :
    (c.raiseTier e).tiers.find? guard = c.tiers.find? guard := by
  unfold raiseTier
  split
  · simp [other.symm]
  · rfl

theorem find?_raiseTiers (others : ∀ e ∈ raised, e.guard ≠ guard) :
    (raised.foldl raiseTier c).tiers.find? guard = c.tiers.find? guard := by
  induction raised generalizing c with
  | nil => rfl
  | cons e rest ih =>
    rw [List.foldl_cons, ih fun other later => others other (List.mem_cons_of_mem _ later)]
    exact find?_raiseTier (others e List.mem_cons_self)

end Conversation

namespace Turn

variable {s : Snapshot} {guard : String}

theorem commit_find? (silent : guard ∉ Source.guardNames ∨ Registry.standard.hears s guard = false)
    (d : Decision) (now : Instant) :
    (commit s d (escalations (askedProposals .standard s)) now).tiers.find? guard =
      s.conversation.tiers.find? guard := by
  rw [commit_tiers]
  apply Conversation.find?_raiseTiers
  rintro e raised rfl
  obtain ⟨named, heard, _⟩ := standard_escalates.mp raised
  rcases silent with unnamed | unheard
  · exact unnamed named
  · rw [unheard] at heard
    cases heard

theorem commit_aims (named : guard ∈ Source.guardNames) (heard : Registry.standard.hears s guard)
    (d : Decision) (now : Instant) :
    (commit s d (escalations (askedProposals .standard s)) now).tier guard = s.aim guard := by
  have raised : ⟨guard, s.aim guard⟩ ∈ escalations (askedProposals .standard s) :=
    standard_escalates.mpr ⟨named, heard, rfl⟩
  rw [commit_tier]
  refine Conversation.tier_settles raised (fun other member same => ?_) (s.tier_le_aim guard)
  rw [(standard_escalates.mp member).2.2, same]

end Turn

-- The guard fired in the turn, whether or not its proposal won.
def Completed.fired (t : Completed) (guard : String) : Bool :=
  Registry.standard.hears t.snapshot guard

-- Stalls and loops go up step by step, objections to the last tier at once.
structure Course.Escalated (t : Course) : Prop where
  stall : t.conversation.tier Source.stallName =
    Tier.next^[t.log.countP (·.fired Source.stallName)] .normal
  loop : t.conversation.tier Source.loopName =
    Tier.next^[t.log.countP (·.fired Source.loopName)] .normal
  objection : t.conversation.tier Source.objectionName =
    if t.log.any (·.fired Source.objectionName) then .forcedExit else .normal
  others : ∀ guard ∉ Source.guardNames, t.conversation.tiers.find? guard = none

namespace Course

variable {t : Course} {guard : String}

theorem step_registry (t : Course) (step : Step) :
    (t.step step).engine.registry = t.engine.registry := by
  cases step <;> rfl

section Turn

variable (standard : t.engine.registry = .standard) (input : TurnInput) (now : Instant)
include standard

theorem turn_commits : ∃ d, (t.step (.turn input now)).conversation =
    let s := t.engine.snapshot t.conversation input
    Turn.commit s d (Turn.escalations (Turn.askedProposals .standard s)) now := by
  refine ⟨(t.engine.turn t.conversation input now).decision, ?_⟩
  rw [← standard]
  rfl

theorem turn_tier (named : guard ∈ Source.guardNames) :
    let s := t.engine.snapshot t.conversation input
    (t.step (.turn input now)).conversation.tier guard =
      if Registry.standard.hears s guard then s.aim guard else t.conversation.tier guard := by
  intro s
  obtain ⟨d, after⟩ := turn_commits standard input now
  rw [after]
  split
  · rename_i heard
    exact Turn.commit_aims named heard d now
  · rename_i unheard
    have kept := Turn.commit_find? (.inr (Bool.not_eq_true _ ▸ unheard)) d now
    rw [Conversation.tier, kept]
    rfl

-- Either the guard fires and goes one step up, or nothing happens to its tier.
theorem turn_climbs (climbs : guard ∈ [Source.stallName, Source.loopName]) :
    (t.step (.turn input now)).conversation.tier guard =
      if Registry.standard.hears (t.engine.snapshot t.conversation input) guard then
        (t.conversation.tier guard).next else t.conversation.tier guard := by
  have named : guard ∈ Source.guardNames := by
    rcases List.mem_cons.mp climbs with rfl | loop
    · decide
    · cases List.mem_singleton.mp loop
      decide
  have steps : guard ≠ Source.objectionName := by
    rintro rfl
    exact absurd climbs (by decide)
  rw [turn_tier standard input now named, Snapshot.aim, if_neg steps]
  rfl

theorem turn_counts (climbs : guard ∈ [Source.stallName, Source.loopName])
    (before : t.conversation.tier guard = Tier.next^[t.log.countP (·.fired guard)] .normal) :
    (t.step (.turn input now)).conversation.tier guard =
      Tier.next^[(t.step (.turn input now)).log.countP (·.fired guard)] .normal := by
  let turn : Completed :=
    ⟨t.engine.snapshot t.conversation input, t.engine.turn t.conversation input now⟩
  have grown : (t.step (.turn input now)).log.countP (·.fired guard) =
      t.log.countP (·.fired guard) + if turn.fired guard then 1 else 0 := by
    change (t.log ++ [turn]).countP _ = _
    rw [List.countP_append, List.countP_singleton]
  rw [turn_climbs standard input now climbs, grown]
  change (if turn.fired guard then _ else _) = _
  split
  · rw [Function.iterate_succ_apply', ← before]
  · exact before

theorem turn_escalated (escalated : t.Escalated) : (t.step (.turn input now)).Escalated where
  stall := turn_counts standard input now (by decide) escalated.stall
  loop := turn_counts standard input now (by decide) escalated.loop
  objection := by
    let turn : Completed :=
      ⟨t.engine.snapshot t.conversation input, t.engine.turn t.conversation input now⟩
    have grown : (t.step (.turn input now)).log.any (·.fired Source.objectionName) =
        (t.log.any (·.fired Source.objectionName) || turn.fired Source.objectionName) := by
      change (t.log ++ [turn]).any _ = _
      rw [List.any_append, List.any_cons, List.any_nil, Bool.or_false]
    rw [turn_tier standard input now (by decide), grown]
    change (if turn.fired Source.objectionName then Tier.forcedExit else _) = _
    cases turn.fired Source.objectionName with
    | true => simp
    | false => simpa using escalated.objection
  others := by
    intro guard unnamed
    obtain ⟨d, after⟩ := turn_commits standard input now
    rw [after, Turn.commit_find? (.inl unnamed)]
    exact escalated.others guard unnamed

-- What a guard does in a turn is what its tier comes to with the turn.
theorem turn_carries {c : Collected}
    (asked : c ∈ Turn.askedProposals .standard (t.engine.snapshot t.conversation input))
    (named : c.source ∈ Source.guardNames) (acts : c.proposal.kind = .action) :
    c.proposal.escalation? =
      some ⟨c.source, (t.step (.turn input now)).conversation.tier c.source⟩ := by
  let s := t.engine.snapshot t.conversation input
  have tagged : (c.source, c.proposal) ∈ (Turn.askedProposals .standard s).map tag :=
    List.mem_map_of_mem asked
  obtain ⟨_, source, member, same, offered⟩ := Turn.mem_asked.mp tagged
  have guard := Source.guard_of_name member (same ▸ named)
  have heard : Registry.standard.hears s c.source := Turn.hears_iff.mpr ⟨_, tagged⟩
  rw [turn_tier standard input now named, if_pos heard, Source.guard_aims guard offered acts, same]

end Turn

theorem fresh_escalated (engine : Engine) (id initial origin : String) (limit : Nat)
    (now : Instant) : Escalated ⟨engine, .begin id initial limit now, origin, []⟩ :=
  ⟨rfl, rfl, rfl, fun _ _ => rfl⟩

theorem step_escalated (t : Course) (step : Step)
    (kept : t.engine.registry = .standard ∧ t.Escalated) :
    (t.step step).engine.registry = .standard ∧ (t.step step).Escalated := by
  obtain ⟨standard, escalated⟩ := kept
  refine ⟨(step_registry t step).trans standard, ?_⟩
  cases step with
  | turn input now => exact turn_escalated standard input now escalated
  | reload flow => exact { escalated with }
  | reset now => exact fresh_escalated ..

end Course

theorem tiers_of_log (flow : Flow) (id : String) (now : Instant) (steps : List Step) :
    let t := (Course.begin { flow := flow } id now).run steps
    t.Escalated ∧ ∀ input later,
      let after := (t.step (.turn input later)).conversation
      (∀ guard, (t.conversation.tier guard).level ≤ (after.tier guard).level) ∧
      (∀ guard ∈ [Source.stallName, Source.loopName],
        after.tier guard = t.conversation.tier guard ∨
        after.tier guard = (t.conversation.tier guard).next) ∧
      ∀ c ∈ Turn.askedProposals .standard (t.engine.snapshot t.conversation input),
        c.source ∈ Source.guardNames → c.proposal.kind = .action →
          c.proposal.escalation? = some ⟨c.source, after.tier c.source⟩ := by
  intro t
  obtain ⟨standard, escalated⟩ : t.engine.registry = .standard ∧ t.Escalated :=
    Course.run_keeps Course.step_escalated _ ⟨rfl, Course.fresh_escalated ..⟩ steps
  refine ⟨escalated, fun input later => ?_⟩
  intro after
  refine ⟨?rises, ?climbs, ?carries⟩
  case rises =>
    intro guard
    obtain ⟨d, commits⟩ := Course.turn_commits standard input later
    change _ ≤ ((t.step (.turn input later)).conversation.tier guard).level
    rw [commits, Turn.commit_tier]
    exact Conversation.tiers_rise t.conversation _ guard
  case climbs =>
    intro guard climbs
    change (t.step (.turn input later)).conversation.tier guard = _ ∨
      (t.step (.turn input later)).conversation.tier guard = _
    rw [Course.turn_climbs standard input later climbs]
    split
    · exact .inr rfl
    · exact .inl rfl
  case carries =>
    intro c asked named acts
    exact Course.turn_carries standard input later asked named acts

def lobbyFlow : Flow := ⟨lobby, lobby.vocabulary⟩

def hallFlow : Flow :=
  let hall : Blueprint := { lobby with
    initialState := "hall"
    states := Table.ofList [("hall", {}), ("street", { terminal := true })] }
  ⟨hall, hall.vocabulary⟩

def mumble : TurnInput := ⟨"mumble", .empty⟩

def mumbling : List Step := [.turn mumble .epoch, .turn mumble .epoch, .reload hallFlow,
  .turn mumble .epoch, .reload lobbyFlow]

def mumbled : Course := (Course.begin { flow := lobbyFlow } "visitor" .epoch).run mumbling

def mumbledSkip : Collected where
  source := Source.stallName
  sourceIndex := 5
  seq := 0
  proposal := .action {
    action := "skip"
    priority := .high
    reason := "stall_offer_alternative"
    escalation := some ⟨Source.stallName, .offerAlternative⟩ }

theorem mumbled_escalated :
    let after := (mumbled.step (.turn mumble .epoch)).conversation
    (mumbled.log.map (·.fired Source.stallName) = [false, true, false] ∧
      mumbled.conversation.tier Source.stallName = .nudge ∧
      mumbled.conversation.tiers.find? Source.fallback.name = none) ∧
    mumbledSkip ∈ Turn.askedProposals .standard
        (mumbled.engine.snapshot mumbled.conversation mumble) ∧
      after.tier Source.stallName = .offerAlternative ∧
      (after.tier Source.loopName = mumbled.conversation.tier Source.loopName ∨
        after.tier Source.loopName = (mumbled.conversation.tier Source.loopName).next) := by
  intro after
  obtain ⟨escalated, turns⟩ := tiers_of_log lobbyFlow "visitor" .epoch mumbling
  obtain ⟨_, climbs, carries⟩ := turns mumble .epoch
  have fired : mumbled.log.map (·.fired Source.stallName) = [false, true, false] := by decide_cbv
  have skips : mumbledSkip ∈ Turn.askedProposals .standard
      (mumbled.engine.snapshot mumbled.conversation mumble) := by
    decide_cbv
  have counted : mumbled.log.countP (·.fired Source.stallName) = 1 := by
    have ones := congrArg (List.countP id) fired
    rwa [List.countP_map] at ones
  have nudged : mumbled.conversation.tier Source.stallName = .nudge :=
    escalated.stall.trans (congrArg (Tier.next^[·] .normal) counted)
  have carried := carries mumbledSkip skips (by decide) rfl
  refine ⟨⟨fired, nudged, escalated.others _ (by decide)⟩, skips, ?_, climbs _ (by decide)⟩
  exact (Escalation.mk.inj (Option.some.inj carried)).2.symm

end Colloquy
