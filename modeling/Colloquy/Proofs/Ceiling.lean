import Mathlib
import Colloquy.Proofs.Tiers

/-! How long a conversation can stay in one state before the stall guard makes its exit. -/
namespace Colloquy

namespace Snapshot

variable {s : Snapshot} {stall : StallSettings}

theorem verdict_exit (unrejected : s.rejection? = none) (fires : s.stall? = some stall)
    (exits : s.exits Source.stallName = true) :
    s.verdict = ⟨stall.exitAction, Source.stallName, true⟩ := by
  simp [verdict, verdicts, unrejected, fires, exits, Option.filter_some]

theorem destination_exit (fires : s.stall? = some stall) (exits : s.exits Source.stallName = true)
    (skipped : Source.skipTarget s stall = some target) : s.destination = target := by
  simp [destination, destinations, fires, exits, skipped, Option.filter_some]

theorem stall_fires (configured : s.flow.blueprint.stall = some stall)
    (enabled : stall.enabled = true) (goesOn : s.isTerminal = false)
    (long : stall.maxTurnsInState < s.turnsInState) : s.stall? = some stall := by
  simp [stall?, Source.stallSettings?, configured, enabled, goesOn, long]

end Snapshot

def Flow.goesOn (flow : Flow) (state : String) : Prop :=
  (flow.state? state).any (·.terminal) = false

-- The tier has risen with every turn past the limit, as far as there are tiers.
def Pressed (flow : Flow) (stall : StallSettings) (c : Conversation) : Prop :=
  flow.goesOn c.current → min (c.counters.sameStateStreak - stall.maxTurnsInState) Tier.forcedExit.level ≤
    (c.tier Source.stallName).level

-- A turn that no rejection catches, with somewhere else to go from a state that goes on.
structure Escapable (stall : StallSettings) (s : Snapshot) : Prop where
  unrejected : s.rejection? = none
  elsewhere : s.isTerminal = false →
    ∃ target, Source.skipTarget s stall = some target ∧ target ≠ s.current

inductive Engine.ReachedBy (engine : Engine) (kind : Snapshot → Prop) : Conversation → Prop where
  | start (id : String) (now : Instant) : ReachedBy engine kind (engine.start id now)
  | turn (input : TurnInput) (now : Instant) (allowed : kind (engine.snapshot c input)) :
      ReachedBy engine kind c → ReachedBy engine kind (engine.turn c input now).conversation
  | reset (now : Instant) : ReachedBy engine kind c → ReachedBy engine kind (engine.reset c now)

theorem Engine.ReachedBy.reached {engine : Engine} {kind : Snapshot → Prop}
    (path : engine.ReachedBy kind c) : engine.Reached c := by
  induction path with
  | start id now => exact .start id now
  | turn input now _ _ ih => exact .turn input now ih
  | reset now _ ih => exact .reset now ih

section Standing

variable {flow : Flow} {stall : StallSettings} {c : Conversation} {state : State}

theorem fresh_pressed (id initial : String) (limit : Nat) (now : Instant) :
    Pressed flow stall (.begin id initial limit now) := by
  intro _
  simp [Conversation.begin]

theorem turn_streak (c : Conversation) (input : TurnInput) (now : Instant) :
    let next := (Engine.turn { flow := flow } c input now).conversation
    next.counters.sameStateStreak =
      if next.current = c.current then countAfter c.counters.sameStateStreak else 0 := rfl

-- The guard escalates whenever it fires, so its tier goes at least one step up.
theorem turn_raises (known : flow.state? c.current = some state) (input : TurnInput)
    (now : Instant) (fires : (Engine.snapshot { flow := flow } c input).stall? = some stall) :
    min ((c.tier Source.stallName).level + 1) Tier.forcedExit.level ≤
      ((Engine.turn { flow := flow } c input now).conversation.tier Source.stallName).level := by
  have reached := Conversation.tier_reached c (Source.stall_escalates fires)
  have level := Tier.level_next (c.tier Source.stallName)
  rw [Engine.turn_tier known]
  exact level ▸ reached

theorem turn_pressed (configured : flow.blueprint.stall = some stall)
    (enabled : stall.enabled = true) (known : flow.state? c.current = some state)
    (pressed : Pressed flow stall c) (input : TurnInput) (now : Instant) :
    Pressed flow stall (Engine.turn { flow := flow } c input now).conversation := by
  let s := Engine.snapshot { flow := flow } c input
  intro goesOn
  rw [turn_streak]
  split
  · rename_i stays
    rw [stays] at goesOn
    have before := pressed goesOn
    have counted := countAfter_le c.counters.sameStateStreak
    by_cases long : stall.maxTurnsInState < s.turnsInState
    · have fires : s.stall? = some stall := Snapshot.stall_fires configured enabled goesOn long
      have raised := turn_raises known input now fires
      omega
    · have short : countAfter c.counters.sameStateStreak ≤ stall.maxTurnsInState :=
        Nat.le_of_not_lt long
      omega
  · omega

-- Three turns past the limit the exit is made, whatever else is proposed.
theorem turn_leaves (configured : flow.blueprint.stall = some stall)
    (enabled : stall.enabled = true) (known : flow.state? c.current = some state)
    (pressed : Pressed flow stall c) (input : TurnInput) (now : Instant) :
    let s := Engine.snapshot { flow := flow } c input
    s.isTerminal = false → stall.maxTurnsInState + 3 ≤ s.turnsInState → s.rejection? = none →
      Source.skipTarget s stall = some target →
      (Engine.turn { flow := flow } c input now).decision.nextState = target := by
  intro s goesOn long unrejected skipped
  have streak : stall.maxTurnsInState + 2 ≤ c.counters.sameStateStreak :=
    Nat.le_of_succ_le_succ (Nat.le_trans long (countAfter_le _))
  have fires : s.stall? = some stall := by
    apply Snapshot.stall_fires configured enabled goesOn
    exact Nat.lt_of_lt_of_le (Nat.lt_add_of_pos_right (Nat.succ_pos 2)) long
  have exits : s.exits Source.stallName = true := by
    have reached := pressed goesOn
    apply decide_eq_true
    change 2 ≤ (c.tier Source.stallName).level
    change min _ 3 ≤ _ at reached
    omega
  obtain ⟨_, _, _, _, next⟩ := standard_decides (s := s) known
  rw [Snapshot.verdict_exit unrejected fires exits, if_pos rfl,
    Snapshot.destination_exit fires exits skipped] at next
  exact next

-- No turn with a way out ends with a streak of more than two turns past the limit.
theorem turn_bounded (configured : flow.blueprint.stall = some stall)
    (enabled : stall.enabled = true) (known : flow.state? c.current = some state)
    (pressed : Pressed flow stall c) (input : TurnInput) (now : Instant)
    (escapable : Escapable stall (Engine.snapshot { flow := flow } c input)) :
    let next := (Engine.turn { flow := flow } c input now).conversation
    flow.goesOn next.current → next.counters.sameStateStreak ≤ stall.maxTurnsInState + 2 := by
  intro next goesOn
  rw [turn_streak]
  split
  · rename_i stays
    change next.current = c.current at stays
    rw [stays] at goesOn
    rcases Nat.lt_or_ge (stall.maxTurnsInState + 2) (countAfter c.counters.sameStateStreak)
      with long | within
    · obtain ⟨target, skipped, elsewhere⟩ := escapable.elsewhere goesOn
      have left := turn_leaves configured enabled known pressed input now goesOn long
        escapable.unrejected skipped
      exact absurd (left.symm.trans stays) elsewhere
    · exact within
  · exact Nat.zero_le _

end Standing

section Built

variable {b : Blueprint} {flow : Flow} {stall : StallSettings}

theorem built_blueprint (built : Flow.build b = .ok flow) : flow.blueprint = b := by
  obtain ⟨_, rfl⟩ := built_iff.mp built
  rfl

theorem reached_known (built : Flow.build b = .ok flow)
    (reached : Engine.Reached { flow := flow } c) : ∃ state, flow.state? c.current = some state :=
  Option.isSome_iff_exists.mp (reached_declared built reached).current

theorem reached_pressed (built : Flow.build b = .ok flow)
    (configured : flow.blueprint.stall = some stall) (enabled : stall.enabled = true)
    (reached : Engine.Reached { flow := flow } c) : Pressed flow stall c := by
  induction reached with
  | start id now => exact fresh_pressed _ _ _ _
  | turn input now before ih =>
    obtain ⟨state, known⟩ := reached_known built before
    exact turn_pressed configured enabled known ih input now
  | reset now _ _ => exact fresh_pressed _ _ _ _

theorem reached_bounded (built : Flow.build b = .ok flow)
    (configured : flow.blueprint.stall = some stall) (enabled : stall.enabled = true)
    (path : Engine.ReachedBy { flow := flow } (Escapable stall) c) :
    flow.goesOn c.current → c.counters.sameStateStreak ≤ stall.maxTurnsInState + 2 := by
  cases path with
  | start id now => exact fun _ => Nat.zero_le _
  | turn input now escapable before =>
    have reached := before.reached
    obtain ⟨state, known⟩ := reached_known built reached
    have pressed := reached_pressed built configured enabled reached
    exact turn_bounded configured enabled known pressed input now escapable
  | reset now _ => exact fun _ => Nat.zero_le _

theorem stall_ceiling (built : Flow.build b = .ok flow) (configured : b.stall = some stall)
    (enabled : stall.enabled = true) :
    (∀ c input now target, Engine.Reached { flow := flow } c →
      let s := Engine.snapshot { flow := flow } c input
      let result := Engine.turn { flow := flow } c input now
      s.isTerminal = false → stall.maxTurnsInState + 3 ≤ s.turnsInState →
        s.rejection? = none → Source.skipTarget s stall = some target →
        result.decision.nextState = target ∧ result.conversation.current = target) ∧
    ∀ c, Engine.ReachedBy { flow := flow } (Escapable stall) c → flow.goesOn c.current →
      c.counters.sameStateStreak ≤ stall.maxTurnsInState + 2 := by
  have within : flow.blueprint.stall = some stall := by
    rw [built_blueprint built]
    exact configured
  constructor
  · intro c input now target reached s result goesOn long unrejected skipped
    obtain ⟨state, known⟩ := reached_known built reached
    have pressed := reached_pressed built within enabled reached
    have left := turn_leaves within enabled known pressed input now goesOn long unrejected skipped
    exact ⟨left, left⟩
  · intro c path
    exact reached_bounded built within enabled path

end Built

def deskStall : StallSettings where
  maxTurnsInState := 1
  offerSkipAction := "offer"
  skipAction := "skip"
  exitAction := "leave"
  skipState := some "street"

def deskState : State where
  requiredData := ["name"]
  transitions := Table.empty.insert Trigger.dataComplete (.direct "hall")
  rules := Table.empty.insert "price" (.direct "quote")

-- The guard against repetition answers every turn, and its exit holds the conversation.
def desk : Blueprint where
  initialState := "desk"
  intents := ["price", "unclear"]
  actions := ["continue", "escalate_to_human", "offer", "skip", "leave", "nudge", "rephrase",
    "hand_over", "quote"]
  fields := Table.empty.insert "name" {}
  states := Table.ofList [("desk", deskState), ("hall", {}), ("street", { terminal := true })]
  stall := some deskStall
  loop := some {
    maxRepeats := 0
    nudgeAction := "nudge"
    rephraseAction := "rephrase"
    exitAction := "hand_over" }

def deskEngine : Engine := { flow := ⟨desk, desk.vocabulary⟩ }

def deskAsked : Nat → Conversation
  | 0 => deskEngine.start "visitor" .epoch
  | n + 1 => (deskEngine.turn (deskAsked n) ⟨"price", .empty⟩ .epoch).conversation

theorem desk_escapable {c : Conversation} (stays : c.current = "desk") (input : TurnInput) :
    Escapable deskStall (deskEngine.snapshot c input) := by
  have known : (deskEngine.snapshot c input).state? = some deskState := by
    change deskEngine.flow.state? c.current = _
    rw [stays]
    rfl
  refine ⟨rfl, fun _ => ⟨"street", ?_, ?_⟩⟩
  · rw [Source.skipTarget, known]
    rfl
  · change "street" ≠ c.current
    rw [stays]
    decide

theorem deskAsked_path (n : Nat) (stays : ∀ k < n, (deskAsked k).current = "desk") :
    deskEngine.ReachedBy (Escapable deskStall) (deskAsked n) := by
  induction n with
  | zero => exact .start "visitor" .epoch
  | succ n ih =>
    refine .turn _ _ (desk_escapable (stays n (Nat.lt_succ_self n)) _) (ih fun k below => ?_)
    exact stays k (Nat.lt_succ_of_lt below)

theorem deskAsked_stays (k : Nat) (early : k < 3) : (deskAsked k).current = "desk" := by
  match k with
  | 0 => rfl
  | 1 => decide_cbv
  | 2 => decide_cbv

-- The name comes with the question when it is asked for the fourth time.
def deskInput : TurnInput := ⟨"price", Table.empty.insert "name" (.text "Ada")⟩

def deskTurn : Snapshot := deskEngine.snapshot (deskAsked 3) deskInput

-- There are a rule, a transition once all data is there and the exit of the other guard.
theorem desk_contested :
    (deskTurn.rule?.isSome ∧ deskTurn.completion?.isSome ∧ deskTurn.loop?.isSome ∧
      deskTurn.exits Source.loopName) ∧
    deskTurn.isTerminal = false ∧ deskStall.maxTurnsInState + 3 ≤ deskTurn.turnsInState ∧
    Source.skipTarget deskTurn deskStall = some "street" := by
  decide_cbv

theorem desk_left :
    Flow.build desk = .ok deskEngine.flow ∧
    (deskTurn.rule?.isSome ∧ deskTurn.completion?.isSome ∧ deskTurn.loop?.isSome ∧
      deskTurn.exits Source.loopName) ∧
    (deskTurn.isTerminal = false ∧ deskStall.maxTurnsInState + 3 ≤ deskTurn.turnsInState ∧
      Source.skipTarget deskTurn deskStall = some "street") ∧
    (deskEngine.turn (deskAsked 3) deskInput .epoch).conversation.current = "street" ∧
    deskEngine.ReachedBy (Escapable deskStall) (deskAsked 3) ∧
    (deskAsked 3).counters.sameStateStreak ≤ deskStall.maxTurnsInState + 2 := by
  have built : Flow.build desk = .ok deskEngine.flow := by rfl
  obtain ⟨rivals, goesOn, long, skipped⟩ := desk_contested
  have path := deskAsked_path 3 deskAsked_stays
  obtain ⟨leaves, bounded⟩ := stall_ceiling built (rfl : desk.stall = some deskStall) rfl
  have left := leaves (deskAsked 3) deskInput .epoch "street" path.reached goesOn long rfl skipped
  exact ⟨built, rivals, ⟨goesOn, long, skipped⟩, left.2, path, bounded (deskAsked 3) path goesOn⟩

end Colloquy
