import Colloquy.Proofs.Escalation

/-!
What the guard against repetition goes by, and that forgetting older turns makes no difference.
-/
namespace Colloquy

namespace Conversation

-- The end of a list is that of any suffix which is long enough.
theorem lastOf_of_suffix {l m : List α} (within : l <:+ m) (enough : min n m.length ≤ l.length) :
    lastOf n l = lastOf n m := by
  have inside : lastOf n l <:+ m := (lastOf_suffix n l).trans within
  have bound : l.length ≤ m.length := within.length_le
  have length : (lastOf n l).length = (lastOf n m).length := by
    rw [length_lastOf, length_lastOf]
    omega
  have nested := List.suffix_of_suffix_length_le inside (lastOf_suffix n m) (Nat.le_of_eq length)
  exact nested.eq_of_length length

theorem lastOf_concat (n : Nat) (l : List α) (a : α) :
    lastOf (n + 1) (l ++ [a]) = lastOf n l ++ [a] := by
  rw [lastOf, lastOf, List.length_append, List.length_singleton, Nat.add_sub_add_right,
    List.drop_append_of_le_length (Nat.sub_le ..)]

end Conversation

open Conversation (lastOf)

def Step.isReload : Step → Bool
  | .reload _ => true
  | .turn .. | .reset _ => false

namespace Course

-- A conversation that just began, or began again after whatever came before.
inductive Fresh (engine : Engine) : Course → Prop where
  | start (id : String) (now : Instant) : Fresh engine (begin engine id now)
  | reset (earlier : Course) (inForce : earlier.engine = engine) (now : Instant) :
      Fresh engine (earlier.step (.reset now))

structure Settled (engine : Engine) (t : Course) : Prop where
  unchanged : t.engine = engine
  reached : engine.Reached t.conversation
  limit : t.conversation.historyLimit = max engine.flow.engine.historyLimit 1
  chronicled : t.Chronicled

variable {engine : Engine} {t : Course}

theorem begin_settled (engine : Engine) (id : String) (now : Instant) :
    (begin engine id now).Settled engine :=
  ⟨rfl, .start id now, rfl, fresh_chronicled ..⟩

theorem Fresh.settled (fresh : Fresh engine t) : t.Settled engine := by
  cases fresh with
  | start id now => exact begin_settled engine id now
  | reset earlier inForce now =>
    subst inForce
    exact begin_settled earlier.engine earlier.conversation.id now

theorem step_settled {step : Step} (settled : t.Settled engine) (stays : step.isReload = false) :
    (t.step step).Settled engine := by
  obtain ⟨rfl, reached, limit, chronicled⟩ := settled
  cases step with
  | turn input now =>
    have kept := ((step_keeps t (.turn input now)).2 rfl).2
    exact ⟨rfl, reached.turn input now, kept.trans limit, turn_chronicled chronicled input now⟩
  | reload flow => cases stays
  | reset now => exact begin_settled t.engine t.conversation.id now

theorem run_settled {steps : List Step} (settled : t.Settled engine)
    (stays : ∀ step ∈ steps, step.isReload = false) : (t.run steps).Settled engine := by
  induction steps generalizing t with
  | nil => exact settled
  | cons step rest ih =>
    obtain ⟨first, later⟩ := List.forall_mem_cons.mp stays
    exact ih (step_settled settled first) later

-- As many turns as the history has room for are remembered as they are in the log.
theorem Chronicled.remembers (chronicled : t.Chronicled) (room : n ≤ t.conversation.historyLimit) :
    lastOf n t.conversation.history = lastOf n t.records := by
  apply Conversation.lastOf_of_suffix chronicled.remembered
  rw [chronicled.length]
  omega

theorem Settled.remembers (settled : t.Settled engine) (room : n ≤ engine.flow.engine.historyLimit) :
    lastOf n t.conversation.history = lastOf n t.records :=
  settled.chronicled.remembers (settled.limit ▸ Nat.le_trans room (Nat.le_max_left ..))

end Course

namespace Source

variable {s : Snapshot} {loop : LoopSettings} {history : List TurnRecord}

def recalling (s : Snapshot) (history : List TurnRecord) : Snapshot :=
  { s with conversation := { s.conversation with history := history } }

-- The history matters to the guard as far as its window goes.
theorem loop_recalls (configured : loopSettings? s = some loop)
    (same : lastOf (loop.window - 1) history = pastWindow s loop) :
    loopGuard.offers (recalling s history) = loopGuard.offers s := by
  have past : pastWindow (recalling s history) loop = pastWindow s loop := same
  have configured' : loopSettings? (recalling s history) = some loop := configured
  have terminal : (recalling s history).isTerminal = s.isTerminal := rfl
  have repeated : repeats (recalling s history) loop = repeats s loop := by
    rw [repeats, past]
    rfl
  have informed : isInformative (recalling s history) loop = isInformative s loop := by
    rw [isInformative, past]
    rfl
  have fires : (recalling s history).loop? = s.loop? := by
    rw [Snapshot.loop?, Snapshot.loop?, configured, configured', Option.filter_some,
      Option.filter_some, terminal, repeated, informed]
  rw [offers_loopGuard, offers_loopGuard, fires]
  rfl

theorem loop_offers (configured : loopSettings? s = some loop) : loopGuard.offers s ≠ [] ↔
    s.isTerminal = false ∧ loop.maxRepeats < repeats s loop ∧ isInformative s loop = false := by
  rw [offers_loopGuard, Snapshot.loop?, configured, Option.filter_some]
  split <;> simp_all

end Source

namespace Source

variable {s : Snapshot} {loop : LoopSettings} (record : TurnRecord)

theorem repeats_counts (state : record.state = s.current) (intent : record.intent = s.intent) :
    repeats s loop = (pastWindow s loop ++ [record]).countP
      fun r => r.state == s.current && r.intent == s.intent := by
  rw [repeats, List.countP_append, List.countP_singleton, state, intent]
  simp

theorem informative_within (intent : record.intent = s.intent) : isInformative s loop = false ↔
    ∀ category, loop.informativeCategory = some category →
      ∀ r ∈ pastWindow s loop ++ [record], s.flow.inCategory category r.intent = false := by
  rw [isInformative, Option.any_eq_false]
  simp only [Bool.or_eq_false_iff, List.any_eq_false, Bool.not_eq_true, List.forall_mem_append,
    List.forall_mem_singleton, intent]
  constructor
  · intro all category named
    obtain ⟨this, past⟩ := all category named
    exact ⟨past, this⟩
  · intro all category named
    obtain ⟨past, this⟩ := all category named
    exact ⟨this, past⟩

end Source

theorem loop_fires_iff {b : Blueprint} {flow : Flow} {loop : LoopSettings} {start : Course}
    {steps : List Step} (built : Flow.build b = .ok flow) (configured : b.loop = some loop)
    (enabled : loop.enabled = true) (fresh : Course.Fresh { flow := flow } start)
    (stays : ∀ step ∈ steps, step.isReload = false) (input : TurnInput) (now : Instant) :
    let t := start.run steps
    let s := t.engine.snapshot t.conversation input
    let window := lastOf loop.window (t.step (.turn input now)).records
    (Registry.standard.hears s Source.loopName ↔
      s.isTerminal = false ∧
      loop.maxRepeats < window.countP (fun r => r.state == s.current && r.intent == s.intent) ∧
      ∀ category, loop.informativeCategory = some category →
        ∀ r ∈ window, flow.inCategory category r.intent = false) ∧
    Source.loopGuard.offers (Source.recalling s t.records) = Source.loopGuard.offers s := by
  intro t s window
  have settled := Course.run_settled fresh.settled stays
  have known := (reached_declared built settled.reached).current
  obtain ⟨fits, rfl⟩ := built_iff.mp built
  obtain ⟨positive, room⟩ := (fits.loop loop configured).window
  have inForce : s.flow = ⟨b, b.vocabulary⟩ := congrArg Engine.flow settled.unchanged
  have asked : s.state?.isSome := by
    change (s.flow.state? t.conversation.current).isSome
    rw [inForce]
    exact known
  have settings : Source.loopSettings? s = some loop := by
    rw [Source.loopSettings?, inForce, configured, Option.filter_some, if_pos enabled]
  have past : lastOf (loop.window - 1) t.records = Source.pastWindow s loop :=
    (settled.remembers (Nat.le_trans (Nat.sub_le ..) room)).symm
  let record := Turn.record s (t.engine.turn t.conversation input now).decision
  have seen : window = Source.pastWindow s loop ++ [record] := by
    obtain ⟨n, size⟩ := Nat.exists_eq_add_of_le' positive
    have grown : (t.step (.turn input now)).records = t.records ++ [record] := List.map_append
    rw [← past]
    change lastOf loop.window (t.step (.turn input now)).records = _
    rw [grown, size, Conversation.lastOf_concat, Nat.add_sub_cancel]
  refine ⟨?_, Source.loop_recalls settings past⟩
  have standard : Source.loopGuard ∈ Registry.standard := by simp [Registry.standard]
  have hears := Turn.standard_hears (s := s) standard
  rw [show Source.loopName = Source.loopGuard.name from rfl, hears, Source.loop_offers settings, seen,
    Source.repeats_counts record rfl rfl,
    Source.informative_within record rfl, inForce]
  exact and_iff_right asked

def forgetful : Blueprint where
  initialState := "booth"
  intents := ["unclear", "price"]
  actions := ["continue", "escalate_to_human", "nudge", "rephrase", "hand_over"]
  engine := { historyLimit := 2 }
  states := Table.empty.insert "booth" {}
  loop := some {
    maxRepeats := 1
    window := 2
    nudgeAction := "nudge"
    rephraseAction := "rephrase"
    exitAction := "hand_over" }

def forgetfulFlow : Flow := ⟨forgetful, forgetful.vocabulary⟩

-- Begun under another flow, and begun again under this one.
def forgotten : Course :=
  ((Course.begin { flow := lobbyFlow } "visitor" .epoch).run
    [.turn mumble .epoch, .reload forgetfulFlow]).step (.reset .epoch)

def forgetting : List Step :=
  [.turn ⟨"price", .empty⟩ .epoch, .turn ⟨"price", .empty⟩ .epoch, .turn mumble .epoch]

def forgotTurn : Snapshot :=
  let t := forgotten.run forgetting
  t.engine.snapshot t.conversation mumble

theorem forgetful_fires :
    let t := forgotten.run forgetting
    Flow.build forgetful = .ok forgetfulFlow ∧
      (t.records.length = 3 ∧ t.conversation.history.length = 2) ∧
      Registry.standard.hears forgotTurn Source.loopName ∧
      Source.loopGuard.offers (Source.recalling forgotTurn t.records) =
        Source.loopGuard.offers forgotTurn := by
  intro t
  have built : Flow.build forgetful = .ok forgetfulFlow := by rfl
  have fresh : Course.Fresh { flow := forgetfulFlow } forgotten := .reset
    ((Course.begin { flow := lobbyFlow } "visitor" .epoch).run
      [.turn mumble .epoch, .reload forgetfulFlow]) rfl .epoch
  have stays : ∀ step ∈ forgetting, step.isReload = false := by decide
  have lengths : t.records.length = 3 ∧ t.conversation.history.length = 2 := by decide_cbv
  obtain ⟨fires, recalled⟩ := loop_fires_iff built rfl rfl fresh stays mumble .epoch
  refine ⟨built, lengths, fires.mpr ⟨by decide_cbv, by decide_cbv, ?_⟩, recalled⟩
  intro category named
  cases named

end Colloquy
