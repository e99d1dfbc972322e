import Colloquy.Proofs.Runs

/-!
An engine at work on one conversation, over any course of turns, reloads and resets. No step looks
at the log; it is there to say what the conversation is made of.
-/
namespace Colloquy

def Engine.snapshot (engine : Engine) (c : Conversation) (input : TurnInput) : Snapshot :=
  .capture engine.flow c (engine.flow.intentOf input.label) input.extracted

-- A turn that is over: what its sources looked at, and what came of it.
structure Completed where
  snapshot : Snapshot
  result : TurnResult

def Completed.record (t : Completed) : TurnRecord := Turn.record t.snapshot t.result.decision

inductive Step where
  | turn (input : TurnInput) (now : Instant)
  | reload (flow : Flow)
  | reset (now : Instant)

def Step.isReset : Step → Bool
  | .reset _ => true
  | .turn .. | .reload _ => false

structure Course where
  engine : Engine
  conversation : Conversation
  -- Where the conversation was put when it began or was last reset, and all its turns since.
  origin : String
  log : List Completed

namespace Course

def begin (engine : Engine) (id : String) (now : Instant) : Course where
  engine := engine
  conversation := engine.start id now
  origin := engine.flow.initialState
  log := []

def step (t : Course) : Step → Course
  | .turn input now =>
    let result := t.engine.turn t.conversation input now
    { t with
      conversation := result.conversation
      log := t.log ++ [⟨t.engine.snapshot t.conversation input, result⟩] }
  | .reload flow => { t with engine := (t.engine.reload flow).1 }
  | .reset now =>
    { t with
      conversation := t.engine.reset t.conversation now
      origin := t.engine.flow.initialState
      log := [] }

def run (t : Course) (steps : List Step) : Course := steps.foldl step t

def records (t : Course) : List TurnRecord := t.log.map Completed.record

end Course

theorem Course.run_keeps {holds : Course → Prop} (kept : ∀ t step, holds t → holds (t.step step))
    (t : Course) (start : holds t) (steps : List Step) : holds (t.run steps) := by
  induction steps generalizing t with
  | nil => exact start
  | cons step rest ih => exact ih (t.step step) (kept t step start)

theorem Turn.commit_keeps (s : Snapshot) (d : Decision) (raised : List Escalation) (now : Instant) :
    (commit s d raised now).id = s.conversation.id ∧
    (commit s d raised now).startedAt = s.conversation.startedAt := by
  obtain ⟨tiers, raising⟩ :=
    Conversation.raiseTiers_frame (s.conversation.pushHistory (record s d)) raised
  rw [commit, raising]
  exact ⟨rfl, rfl⟩

theorem Course.step_keeps (t : Course) (step : Step) :
    (t.step step).conversation.id = t.conversation.id ∧
    (step.isReset = false →
      (t.step step).conversation.startedAt = t.conversation.startedAt ∧
      (t.step step).conversation.historyLimit = t.conversation.historyLimit) := by
  cases step with
  | turn input now =>
    let s := t.engine.snapshot t.conversation input
    let proposals := Turn.askedProposals t.engine.registry s
    let d := (t.engine.turn t.conversation input now).decision
    obtain ⟨id, startedAt⟩ := Turn.commit_keeps s d (Turn.escalations proposals) now
    obtain ⟨_, limit⟩ := Turn.commit_history s d (Turn.escalations proposals) now
    exact ⟨id, fun _ => ⟨startedAt, limit⟩⟩
  | reload flow => exact ⟨rfl, fun _ => ⟨rfl, rfl⟩⟩
  | reset now => exact ⟨rfl, fun never => by cases never⟩

-- The state after some turns: that of the last one, or the one before all of them.
def stateAfter (origin : String) (records : List TurnRecord) : String :=
  (records.getLast?.map (·.nextState)).getD origin

structure Course.Chronicled (t : Course) : Prop where
  turn : t.conversation.turn = t.records.length % countBound
  remembered : t.conversation.history <:+ t.records
  length : t.conversation.history.length = min t.records.length t.conversation.historyLimit
  -- Turns are counted from one, and each was processed where the ones before it led.
  linked : ∀ k record, t.records[k]? = some record →
    record.turn = (k + 1) % countBound ∧ record.state = stateAfter t.origin (t.records.take k)
  current : t.conversation.current = stateAfter t.origin t.records
  decided : ∀ record, t.records.getLast? = some record →
    ∃ d, t.conversation.lastDecision = some ⟨t.conversation.turn, d⟩ ∧
      d.action = record.action ∧ d.nextState = record.nextState

theorem stateAfter_concat (origin : String) (records : List TurnRecord) (record : TurnRecord) :
    stateAfter origin (records ++ [record]) = record.nextState := by
  simp [stateAfter]

theorem Conversation.lastOf_suffix (n : Nat) (l : List α) : lastOf n l <:+ l :=
  List.drop_suffix _ l

theorem Conversation.length_lastOf (n : Nat) (l : List α) :
    (lastOf n l).length = min l.length n := by
  rw [lastOf, List.length_drop]
  omega

namespace Course

theorem fresh_chronicled (engine : Engine) (id initial : String) (limit : Nat) (now : Instant) :
    Chronicled ⟨engine, .begin id initial limit now, initial, []⟩ where
  turn := rfl
  remembered := List.nil_suffix
  length := (Nat.zero_min _).symm
  linked := by
    intro k record listed
    cases listed
  current := rfl
  decided := by
    intro record last
    cases last

-- One more turn is numbered after the others and starts where they led.
theorem linked_concat {origin : String} {records : List TurnRecord}
    (linked : ∀ k record, records[k]? = some record →
      record.turn = (k + 1) % countBound ∧ record.state = stateAfter origin (records.take k))
    {next : TurnRecord} (turn : next.turn = (records.length + 1) % countBound)
    (state : next.state = stateAfter origin records) (k : Nat) (record : TurnRecord)
    (listed : (records ++ [next])[k]? = some record) :
    record.turn = (k + 1) % countBound ∧
      record.state = stateAfter origin ((records ++ [next]).take k) := by
  by_cases inside : k < records.length
  · rw [List.getElem?_append_left inside] at listed
    rw [List.take_append_of_le_length (Nat.le_of_lt inside)]
    exact linked k record listed
  · obtain ⟨bound, _⟩ := List.getElem?_eq_some_iff.mp listed
    rw [List.length_append, List.length_singleton] at bound
    have last : k = records.length := by omega
    subst last
    rw [List.getElem?_concat_length] at listed
    cases Option.some.inj listed
    rw [List.take_left]
    exact ⟨turn, state⟩

theorem turn_chronicled {t : Course} (chronicled : t.Chronicled) (input : TurnInput)
    (now : Instant) : (t.step (.turn input now)).Chronicled := by
  let s := t.engine.snapshot t.conversation input
  let d := (t.engine.turn t.conversation input now).decision
  have grown : (t.step (.turn input now)).records = t.records ++ [Turn.record s d] :=
    List.map_append
  have counted : s.turn = (t.records.length + 1) % countBound := by
    change countAfter t.conversation.turn = _
    rw [chronicled.turn, countAfter_mod]
  obtain ⟨history, limit⟩ : (t.step (.turn input now)).conversation.history =
        Conversation.lastOf t.conversation.historyLimit
          (t.conversation.history ++ [Turn.record s d]) ∧
      (t.step (.turn input now)).conversation.historyLimit = t.conversation.historyLimit :=
    Turn.commit_history s d (Turn.escalations (Turn.askedProposals t.engine.registry s)) now
  constructor
  case turn =>
    rw [grown, List.length_append, List.length_singleton]
    exact counted
  case remembered =>
    rw [grown, history]
    apply (Conversation.lastOf_suffix _ _).trans
    exact (List.suffix_append_inj_of_length_eq rfl).mpr ⟨chronicled.remembered, rfl⟩
  case length =>
    have before := chronicled.length
    rw [grown, history, limit, Conversation.length_lastOf, List.length_append,
      List.length_append, List.length_singleton]
    omega
  case linked =>
    rw [grown]
    apply linked_concat chronicled.linked
    · exact counted
    · exact chronicled.current
  case current =>
    rw [grown, stateAfter_concat]
    rfl
  case decided =>
    rw [grown]
    intro record last
    rw [List.getLast?_concat] at last
    cases Option.some.inj last
    exact ⟨d, rfl, rfl, rfl⟩

theorem step_chronicled (t : Course) (step : Step) (chronicled : t.Chronicled) :
    (t.step step).Chronicled := by
  cases step with
  | turn input now => exact turn_chronicled chronicled input now
  | reload flow => exact { chronicled with }
  | reset now => exact fresh_chronicled ..

-- Short of the greatest count the numbers are those of the log itself.
theorem Chronicled.numbered {t : Course} (chronicled : t.Chronicled)
    (short : t.records.length < countBound) : t.conversation.turn = t.records.length ∧
      ∀ k record, t.records[k]? = some record → record.turn = k + 1 := by
  refine ⟨chronicled.turn.trans (Nat.mod_eq_of_lt short), fun k record listed => ?_⟩
  obtain ⟨inside, _⟩ := List.getElem?_eq_some_iff.mp listed
  rw [(chronicled.linked k record listed).1]
  exact Nat.mod_eq_of_lt (Nat.lt_of_le_of_lt inside short)

theorem course_chronicled (engine : Engine) (id : String) (now : Instant) (steps : List Step) :
    let t := (begin engine id now).run steps
    t.Chronicled ∧
    (t.records.length < countBound → t.conversation.turn = t.records.length ∧
      ∀ k record, t.records[k]? = some record → record.turn = k + 1) ∧
    t.conversation.id = id ∧ ∀ step,
      (t.step step).conversation.id = id ∧
      (step.isReset = false →
        (t.step step).conversation.startedAt = t.conversation.startedAt ∧
        (t.step step).conversation.historyLimit = t.conversation.historyLimit) := by
  intro t
  have chronicled : t.Chronicled := run_keeps step_chronicled _ (fresh_chronicled ..) steps
  have keeps (t : Course) (step : Step) (named : t.conversation.id = id) :
      (t.step step).conversation.id = id := (step_keeps t step).1.trans named
  have named : t.conversation.id = id := run_keeps keeps _ rfl steps
  refine ⟨chronicled, chronicled.numbered, named, fun step => ?_⟩
  obtain ⟨same, kept⟩ := step_keeps t step
  exact ⟨same.trans named, kept⟩

end Course

end Colloquy
