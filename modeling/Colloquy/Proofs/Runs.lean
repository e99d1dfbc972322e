import Colloquy.Proofs.Cascade
import Colloquy.Proofs.WellFormed

/-! Runs of an engine whose flow passed its checks. -/
namespace Colloquy

namespace Snapshot

variable {s : Snapshot} {state : State}

theorem state_fits (fits : s.flow.blueprint.WellFormed) (known : s.state? = some state) :
    s.flow.blueprint.StateFits state := fits.states s.current state known

theorem default_declared (fits : s.flow.blueprint.WellFormed) :
    Source.defaultActionOf s ∈ s.flow.blueprint.actions := by
  rw [Source.defaultActionOf]
  cases chosen : s.state?.bind (·.defaultAction) with
  | none => exact fits.defaultAction
  | some action =>
    obtain ⟨state, known, default⟩ := Option.bind_eq_some_iff.mp chosen
    exact (state_fits fits known).default action default

theorem answer_declared (fits : s.flow.blueprint.WellFormed) (answered : s.answer? = some action) :
    action ∈ s.flow.blueprint.actions := by
  obtain ⟨q, asked, answer⟩ := Option.bind_eq_some_iff.mp answered
  have fitting := fits.questions q (questions_configured asked)
  rcases Option.or_eq_some_iff.mp answer with own | ⟨_, default⟩
  · exact (fitting.answers s.intent action own).2
  · exact fitting.default action default

theorem rule_declared (fits : s.flow.blueprint.WellFormed) (ruled : s.rule? = some picked) :
    picked.target ∈ s.flow.blueprint.actions := by
  obtain ⟨state, known, followed⟩ := Option.bind_eq_some_iff.mp ruled
  obtain ⟨outcome, found, selected⟩ := Option.bind_eq_some_iff.mp followed
  exact ((state_fits fits known).rules s.intent outcome found).2.2 _ (select_mem selected)

theorem taken_declared (fits : s.flow.blueprint.WellFormed) (known : s.state? = some state)
    (taken : (state.transitions.find? trigger).bind s.select = some picked) :
    s.flow.hasState picked.target := by
  obtain ⟨outcome, found, selected⟩ := Option.bind_eq_some_iff.mp taken
  exact ((state_fits fits known).transitions trigger outcome found).2.2 _ (select_mem selected)

theorem skip_declared (fits : s.flow.blueprint.WellFormed)
    (configured : s.flow.blueprint.stall = some stall)
    (skipped : Source.skipTarget s stall = some target) : s.flow.hasState target := by
  rcases Option.or_eq_some_iff.mp skipped with own | ⟨_, shared⟩
  · obtain ⟨picked, taken, rfl⟩ := Option.map_eq_some_iff.mp own
    obtain ⟨state, known, taken⟩ := Option.bind_eq_some_iff.mp taken
    exact taken_declared fits known taken
  · exact (fits.stall stall configured).skipState target shared

theorem verdict_declared (fits : s.flow.blueprint.WellFormed) :
    s.verdict.action ∈ s.flow.blueprint.actions := by
  have rows : ∀ row ∈ s.verdicts, ∀ v, row = some v → v.action ∈ s.flow.blueprint.actions := by
    simp only [verdicts, List.forall_mem_cons, List.not_mem_nil, false_implies, implies_true,
      and_true, Option.map_eq_some_iff, Option.filter_eq_some_iff]
    refine ⟨?rejection, ?exit, ?loopExit, ?objection, ?answer, ?offer, ?nudge, ?rule⟩
    case rejection =>
      rintro _ ⟨r, caught, rfl⟩
      exact (fits.rejection r (rejection_configured caught)).2
    case exit =>
      rintro _ ⟨stall, ⟨fires, _⟩, rfl⟩
      exact (fits.stall stall (stall_configured fires)).actions.2.2
    case loopExit =>
      rintro _ ⟨loop, ⟨fires, _⟩, rfl⟩
      exact (fits.loop loop (loop_configured fires)).actions.2.2
    case objection =>
      rintro _ ⟨objection, fires, rfl⟩
      exact (fits.objection objection (objection_configured fires)).2
    case answer =>
      rintro _ ⟨action, answered, rfl⟩
      exact answer_declared fits answered
    case offer =>
      rintro _ ⟨stall, ⟨fires, _⟩, rfl⟩
      have actions := (fits.stall stall (stall_configured fires)).actions
      dsimp only
      split
      · exact actions.2.1
      · exact actions.1
    case nudge =>
      rintro _ ⟨loop, ⟨fires, _⟩, rfl⟩
      have actions := (fits.loop loop (loop_configured fires)).actions
      dsimp only
      split
      · exact actions.2.1
      · exact actions.1
    case rule =>
      rintro _ ⟨picked, ruled, rfl⟩
      exact rule_declared fits ruled
  rw [verdict]
  cases chosen : s.verdicts.findSome? id with
  | none => exact default_declared fits
  | some v =>
    obtain ⟨row, member, holds⟩ := List.exists_of_findSome?_eq_some chosen
    exact rows row member v holds

theorem destination_declared (fits : s.flow.blueprint.WellFormed) (known : s.state? = some state) :
    s.flow.hasState s.destination := by
  have rows : ∀ row ∈ s.destinations, ∀ target, row = some target → s.flow.hasState target := by
    simp only [destinations, List.forall_mem_cons, List.not_mem_nil, false_implies, implies_true,
      and_true, Option.map_eq_some_iff, Option.bind_eq_some_iff, Option.filter_eq_some_iff]
    refine ⟨?exit, ?completion, ?offer, ?transition⟩
    case exit =>
      rintro target ⟨stall, ⟨fires, _⟩, skipped⟩
      exact skip_declared fits (stall_configured fires) skipped
    case completion =>
      rintro _ ⟨picked, completed, rfl⟩
      obtain ⟨state, held, taken⟩ := Option.bind_eq_some_iff.mp completed
      exact taken_declared fits (Option.filter_eq_some_iff.mp held).1 taken
    case offer =>
      rintro target ⟨stall, ⟨fires, _⟩, skipped⟩
      exact skip_declared fits (stall_configured fires) skipped
    case transition =>
      rintro _ ⟨picked, moved, rfl⟩
      obtain ⟨state, known, taken⟩ := Option.bind_eq_some_iff.mp moved
      exact taken_declared fits known taken
  rw [destination]
  cases chosen : s.destinations.findSome? id with
  | none => exact Option.isSome_iff_exists.mpr ⟨state, known⟩
  | some target =>
    obtain ⟨row, member, holds⟩ := List.exists_of_findSome?_eq_some chosen
    exact rows row member target holds

end Snapshot

theorem Registry.faults_nil {registry : Registry} {s : Snapshot} :
    registry.faults s = [] ↔ ∀ source ∈ registry, source.Reliable s := by
  simp only [Registry.faults, List.filterMap_eq_nil_iff, Source.Reliable, ite_eq_right_iff,
    Option.map_eq_none_iff]

-- The conversations an engine begins and goes on with while its flow stays in force.
inductive Engine.Reached (engine : Engine) : Conversation → Prop where
  | start (id : String) (now : Instant) : Reached engine (engine.start id now)
  | turn (input : TurnInput) (now : Instant) :
      Reached engine c → Reached engine (engine.turn c input now).conversation
  | reset (now : Instant) : Reached engine c → Reached engine (engine.reset c now)

-- What a conversation holds is in the flow, and it can remember a turn.
structure Conversation.Declared (flow : Flow) (c : Conversation) : Prop where
  current : flow.hasState c.current
  intents : ∀ record ∈ c.history, flow.isIntent record.intent
  remembers : 1 ≤ c.historyLimit

namespace Conversation

theorem lastOf_mem {l : List α} (member : a ∈ lastOf n l) : a ∈ l := List.mem_of_mem_drop member

theorem lastOf_getLast? (l : List α) (a : α) (room : 1 ≤ n) :
    (lastOf n (l ++ [a])).getLast? = some a := by
  rw [lastOf, List.getLast?_drop, if_neg]
  · exact List.getLast?_concat ..
  · rw [List.length_append, List.length_singleton]
    omega

theorem raiseTier_frame (c : Conversation) (e : Escalation) :
    ∃ tiers, c.raiseTier e = { c with tiers := tiers } := by
  rw [raiseTier]
  split
  · exact ⟨_, rfl⟩
  · exact ⟨c.tiers, rfl⟩

theorem raiseTiers_frame (c : Conversation) (raised : List Escalation) :
    ∃ tiers, raised.foldl raiseTier c = { c with tiers := tiers } := by
  induction raised generalizing c with
  | nil => exact ⟨c.tiers, rfl⟩
  | cons e rest ih =>
    obtain ⟨first, raised⟩ := raiseTier_frame c e
    obtain ⟨tiers, more⟩ := ih (c.raiseTier e)
    exact ⟨tiers, by rw [List.foldl_cons, more, raised]⟩

end Conversation

-- Raising tiers changes nothing else, so history is that before the turn and one record.
theorem Turn.commit_history (s : Snapshot) (d : Decision) (raised : List Escalation)
    (now : Instant) :
    (commit s d raised now).history = Conversation.lastOf s.conversation.historyLimit
      (s.conversation.history ++ [record s d]) ∧
    (commit s d raised now).historyLimit = s.conversation.historyLimit := by
  obtain ⟨tiers, raising⟩ :=
    Conversation.raiseTiers_frame (s.conversation.pushHistory (record s d)) raised
  rw [commit, raising]
  exact ⟨rfl, rfl⟩

theorem Flow.intentOf_declared {flow : Flow} (fits : flow.blueprint.WellFormed)
    (compiled : flow.vocabulary = flow.blueprint.vocabulary) (label : String) :
    flow.isIntent (flow.intentOf label) := by
  rw [Flow.intentOf]
  split
  · assumption
  · rw [Flow.isIntent, compiled]
    exact declares_intent.mpr fits.unknownIntent

structure TurnResult.Declared (flow : Flow) (result : TurnResult) : Prop where
  degraded : result.decision.degraded = false
  faults : result.faults = []
  action : flow.isAction result.decision.action
  nextState : flow.hasState result.decision.nextState
  current : flow.hasState result.conversation.current
  recorded : ∃ record, result.conversation.history.getLast? = some record ∧
    record.turn = result.conversation.turn ∧ flow.isIntent record.intent

section Built

variable {b : Blueprint} {flow : Flow} {c : Conversation}

theorem begin_declared (built : Flow.build b = .ok flow) (id : String) (now : Instant) :
    (Conversation.begin id flow.initialState flow.engine.historyLimit now).Declared flow := by
  obtain ⟨fits, rfl⟩ := built_iff.mp built
  exact ⟨fits.initial, by simp [Conversation.begin], Nat.le_max_right ..⟩

theorem turn_declared (built : Flow.build b = .ok flow) (declared : c.Declared flow)
    (input : TurnInput) (now : Instant) :
    let result := processTurn .standard flow c input now
    result.Declared flow ∧ result.conversation.Declared flow := by
  intro result
  obtain ⟨fits, rfl⟩ := built_iff.mp built
  let flow : Flow := ⟨b, b.vocabulary⟩
  let s := Snapshot.capture flow c (flow.intentOf input.label) input.extracted
  obtain ⟨state, found⟩ := Option.isSome_iff_exists.mp declared.current
  have known : s.state? = some state := found
  obtain ⟨action, _, _, sound, next⟩ := standard_decides known
  have chosen : flow.isAction result.decision.action :=
    declares_action.mpr (action ▸ s.verdict_declared fits)
  have nextState : flow.hasState result.decision.nextState := by
    rw [show result.decision.nextState = _ from next]
    split
    · exact s.destination_declared fits known
    · exact declared.current
  have intent : flow.isIntent s.intent := Flow.intentOf_declared fits rfl input.label
  obtain ⟨history, limit⟩ := Turn.commit_history s result.decision
    (Turn.escalations (Turn.askedProposals .standard s)) now
  have faultless : result.faults = [] := by
    change Turn.askedFaults .standard s = []
    rw [Turn.askedFaults, known, Option.isSome_some, if_pos rfl, Registry.faults_nil]
    exact Source.standard_reliable known
  constructor
  · exact ⟨sound, faultless, chosen, nextState, nextState, _,
      (congrArg List.getLast? history).trans (Conversation.lastOf_getLast? _ _ declared.remembers),
      rfl, intent⟩
  · refine ⟨nextState, fun r member => ?_, limit ▸ declared.remembers⟩
    rw [show result.conversation.history = _ from history] at member
    rcases List.mem_append.mp (Conversation.lastOf_mem member) with old | new
    · exact declared.intents r old
    · cases List.mem_singleton.mp new
      exact intent

theorem reached_declared (built : Flow.build b = .ok flow)
    (reached : Engine.Reached { flow := flow } c) : c.Declared flow := by
  induction reached with
  | start id now => exact begin_declared built id now
  | turn input now _ ih => exact (turn_declared built ih input now).2
  | reset now _ _ => exact begin_declared built _ now

theorem every_turn_declared (built : Flow.build b = .ok flow)
    (reached : Engine.Reached { flow := flow } c) (input : TurnInput) (now : Instant) :
    (Engine.turn { flow := flow } c input now).Declared flow :=
  (turn_declared built (reached_declared built reached) input now).1

end Built

-- A greeting, a new beginning, and something that the flow has no name for.
theorem lobby_declared :
    let engine : Engine := { flow := ⟨lobby, lobby.vocabulary⟩ }
    let greeted := engine.turn (engine.start "visitor" .epoch) ⟨"hello", .empty⟩ .epoch
    let again := engine.reset greeted.conversation .epoch
    Flow.build lobby = .ok engine.flow ∧ engine.Reached again ∧
      (engine.turn again ⟨"mumble", .empty⟩ .epoch).Declared engine.flow := by
  intro engine greeted again
  have built : Flow.build lobby = .ok engine.flow := by rfl
  have reached : engine.Reached again := .reset _ (.turn _ _ (.start "visitor" .epoch))
  exact ⟨built, reached, every_turn_declared built reached _ _⟩

end Colloquy
