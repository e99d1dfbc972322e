import Colloquy.Proofs.Course

/-!
What the counters count: each is a function of the complete log, short of the greatest count.
-/
namespace Colloquy

-- The longest run of such turns that the log ends with has `n` of them.
structure Trailing (kind : Completed → Prop) (log : List Completed) (n : Nat) : Prop where
  reached : ∃ suffix, suffix <:+ log ∧ suffix.length = n ∧ ∀ t ∈ suffix, kind t
  longest : ∀ suffix, suffix <:+ log → (∀ t ∈ suffix, kind t) → suffix.length ≤ n

namespace Trailing

variable {kind : Completed → Prop} {log : List Completed}

theorem none : Trailing kind [] 0 where
  reached := ⟨[], List.nil_suffix, rfl, fun _ member => by cases member⟩
  longest := by
    intro suffix within _
    rw [List.suffix_nil.mp within]
    exact Nat.le_refl _

theorem le_length (trailing : Trailing kind log n) : n ≤ log.length := by
  obtain ⟨suffix, within, rfl, _⟩ := trailing.reached
  exact within.length_le

theorem goesOn (trailing : Trailing kind log n) {t : Completed} (held : kind t) :
    Trailing kind (log ++ [t]) (n + 1) where
  reached := by
    obtain ⟨suffix, ⟨before, whole⟩, length, all⟩ := trailing.reached
    refine ⟨suffix ++ [t], ⟨before, ?_⟩, ?_, ?_⟩
    · rw [← List.append_assoc, whole]
    · rw [List.length_append, length, List.length_singleton]
    · intro turn member
      rcases List.mem_append.mp member with old | new
      · exact all turn old
      · cases List.mem_singleton.mp new
        exact held
  longest := by
    intro suffix within all
    rcases List.suffix_concat_iff.mp within with rfl | ⟨front, rfl, inside⟩
    · exact Nat.zero_le _
    · have bound := trailing.longest front inside fun turn member =>
        all turn (List.mem_append_left _ member)
      rw [List.length_append, List.length_singleton]
      exact Nat.succ_le_succ bound

theorem breaks {t : Completed} (refused : ¬ kind t) : Trailing kind (log ++ [t]) 0 where
  reached := ⟨[], List.nil_suffix, rfl, fun _ member => by cases member⟩
  longest := by
    intro suffix within all
    rcases List.suffix_concat_iff.mp within with rfl | ⟨front, rfl, _⟩
    · exact Nat.le_refl _
    · exact absurd (all t (List.mem_append_right _ (List.mem_singleton_self t))) refused

-- The count goes on like the turns as long as it does not begin again.
theorem counts (trailing : Trailing kind log n) (short : log.length + 1 < countBound)
    {t : Completed} (held : kind t) : Trailing kind (log ++ [t]) (countAfter n) := by
  have bound : n + 1 < countBound :=
    Nat.lt_of_le_of_lt (Nat.succ_le_succ trailing.le_length) short
  rw [countAfter_short bound]
  exact trailing.goesOn held

theorem step (trailing : Trailing kind log n) (short : log.length + 1 < countBound)
    (t : Completed) [Decidable (kind t)] :
    Trailing kind (log ++ [t]) (if kind t then countAfter n else 0) := by
  split
  · rename_i held
    exact trailing.counts short held
  · rename_i refused
    exact breaks refused

end Trailing

namespace Completed

def flow (t : Completed) : Flow := t.snapshot.flow

def isObjection (t : Completed) : Bool := t.flow.isObjection t.record.intent

def isUnclear (t : Completed) : Bool := t.flow.isUnclear t.record.intent

end Completed

structure Course.Counted (t : Course) : Prop where
  sameStateStreak : Trailing (·.record.state = t.conversation.current) t.log
    t.conversation.counters.sameStateStreak
  consecutiveObjections : Trailing (·.isObjection) t.log
    t.conversation.counters.consecutiveObjections
  totalObjections : t.conversation.counters.totalObjections = t.log.countP (·.isObjection)
  consecutiveUnclear : Trailing (·.isUnclear) t.log t.conversation.counters.consecutiveUnclear

namespace Course

theorem fresh_counted (engine : Engine) (id initial origin : String) (limit : Nat) (now : Instant) :
    Counted ⟨engine, .begin id initial limit now, origin, []⟩ :=
  ⟨.none, .none, rfl, .none⟩

-- This turn was processed in the state that it began in, wherever it led.
theorem turn_trailing {t : Course} (counted : t.Counted) (short : t.log.length + 1 < countBound)
    (input : TurnInput) (now : Instant) :
    Trailing (·.record.state = t.conversation.current) (t.step (.turn input now)).log
      (t.engine.snapshot t.conversation input).turnsInState :=
  counted.sameStateStreak.counts short rfl

theorem turn_counted {t : Course} (counted : t.Counted) (short : t.log.length + 1 < countBound)
    (input : TurnInput) (now : Instant) : (t.step (.turn input now)).Counted := by
  let s := t.engine.snapshot t.conversation input
  let result := t.engine.turn t.conversation input now
  let turn : Completed := ⟨s, result⟩
  have counters : (t.step (.turn input now)).conversation.counters =
    Turn.nextCounters s result.decision.nextState := rfl
  constructor
  case sameStateStreak =>
    rw [counters]
    by_cases stays : result.decision.nextState = s.current
    · have streak := turn_trailing counted short input now
      rw [Turn.nextCounters, if_pos stays]
      have same : (t.step (.turn input now)).conversation.current = t.conversation.current := stays
      rw [same]
      exact streak
    · rw [Turn.nextCounters, if_neg stays]
      exact Trailing.breaks (Ne.symm stays)
  case consecutiveObjections => exact counted.consecutiveObjections.step short turn
  case totalObjections =>
    rw [counters]
    have before := counted.totalObjections
    have bound : t.conversation.counters.totalObjections + 1 < countBound := by
      rw [before]
      exact Nat.lt_of_le_of_lt (Nat.succ_le_succ List.countP_le_length) short
    change _ = (t.log ++ [turn]).countP _
    rw [List.countP_append, List.countP_singleton, ← before]
    change (if turn.isObjection then countAfter t.conversation.counters.totalObjections else _) = _
    split
    · exact countAfter_short bound
    · rfl
  case consecutiveUnclear => exact counted.consecutiveUnclear.step short turn

theorem length_turn (t : Course) (input : TurnInput) (now : Instant) :
    (t.step (.turn input now)).log.length = t.log.length + 1 := List.length_append

-- A reset begins a new log, so a short log may follow on a long one.
theorem step_counted (t : Course) (step : Step)
    (counted : t.log.length < countBound → t.Counted) :
    (t.step step).log.length < countBound → (t.step step).Counted := by
  intro short
  cases step with
  | turn input now =>
    rw [length_turn] at short
    exact turn_counted (counted (Nat.lt_of_succ_lt short)) short input now
  | reload flow => exact { counted short with }
  | reset now => exact fresh_counted ..

end Course

-- What is kept after a turn is what its sources were shown.
theorem Turn.nextCounters_shown (s : Snapshot) (next : String) :
    s.consecutiveObjections = (nextCounters s next).consecutiveObjections ∧
    s.totalObjections = (nextCounters s next).totalObjections ∧
    s.consecutiveUnclear = (nextCounters s next).consecutiveUnclear :=
  ⟨rfl, rfl, rfl⟩

theorem counts_of_log (engine : Engine) (id : String) (now : Instant) (steps : List Step) :
    let t := (Course.begin engine id now).run steps
    (t.log.length < countBound → t.Counted) ∧ ∀ input later,
      let s := t.engine.snapshot t.conversation input
      let after := t.step (.turn input later)
      s.consecutiveObjections = after.conversation.counters.consecutiveObjections ∧
      s.totalObjections = after.conversation.counters.totalObjections ∧
      s.consecutiveUnclear = after.conversation.counters.consecutiveUnclear ∧
      (after.log.length < countBound →
        Trailing (·.record.state = s.current) after.log s.turnsInState) := by
  intro t
  have counted : t.log.length < countBound → t.Counted :=
    Course.run_keeps Course.step_counted _ (fun _ => Course.fresh_counted ..) steps
  refine ⟨counted, fun input later => ?_⟩
  intro s after
  obtain ⟨consecutive, total, unclear⟩ :=
    Turn.nextCounters_shown s (t.engine.turn t.conversation input later).decision.nextState
  refine ⟨consecutive, total, unclear, fun short => ?_⟩
  rw [Course.length_turn] at short
  exact Course.turn_trailing (counted (Nat.lt_of_succ_lt short)) short input later

end Colloquy
