import Colloquy.Proofs.Traffic

/-! Turns of a session in which the flow may be replaced while the classifier is at work. -/
namespace Colloquy

namespace Session

def under (s : Session) (flow : Flow) : Session := { s with engine := (s.engine.reload flow).1 }

variable (s : Session) (c : Conversation) (text : String)

def opening : Opening := Opening.of s.engine.flow c text

-- What the turn is asked, whichever flow it is processed under.
def input : TurnInput := (s.opening c text).input (s.heard (s.opening c text))

def snapshotUnder (flow : Flow) : Snapshot := (s.under flow).engine.snapshot c (s.input c text)

def replyUnder (flow : Flow) (now : Instant) : Reply :=
  (s.under flow).complete c (s.opening c text) (s.heard (s.opening c text)) now

-- Where nothing is published meanwhile, this is the turn of a session.
theorem turn_eq_replyUnder (now : Instant) :
    s.turn c text now = s.replyUnder c text s.engine.flow now := rfl

end Session

-- A turn under way: the flow in force by now, and once the classifier is done, what the sources
-- looked at and what was replied.
structure Exchange where
  flow : Flow
  ended : Option (Snapshot × Reply)

namespace Exchange

section

variable (s : Session) (c : Conversation) (text : String)

inductive Moves (t : Exchange) : Exchange → Prop where
  | reload (flow : Flow) : Moves t { t with flow := flow }
  -- The classifier has answered, failed or run out of time.
  | answer (now : Instant) (waiting : t.ended = none) :
      Moves t
        { t with ended := some (s.snapshotUnder c text t.flow, s.replyUnder c text t.flow now) }

inductive Reached : Exchange → Prop where
  | opened : Reached ⟨s.engine.flow, none⟩
  | move {t t' : Exchange} (reached : Reached t) (moves : Moves s c text t t') : Reached t'

-- A turn that has ended was processed as a whole under one flow.
def Settled (t : Exchange) : Prop :=
  ∀ snapshot reply, t.ended = some (snapshot, reply) → ∃ flow now,
    snapshot = s.snapshotUnder c text flow ∧ reply = s.replyUnder c text flow now

end

variable {s : Session} {c : Conversation} {text : String} {t t' : Exchange}

theorem Moves.settled (moves : Moves s c text t t') (settled : Settled s c text t) :
    Settled s c text t' := by
  cases moves with
  | reload flow => exact settled
  | answer now waiting =>
    rintro snapshot reply ended
    cases ended
    exact ⟨t.flow, now, rfl, rfl⟩

theorem Reached.settled (reached : Reached s c text t) : Settled s c text t := by
  induction reached with
  | opened =>
    intro snapshot reply ended
    cases ended
  | move _ moves ih => exact moves.settled ih

-- Whatever is published meanwhile, the turn can come to its end, under the last flow of all; and if
-- nothing is, its reply is that of the session's own turn.
theorem Reached.completes (s : Session) (c : Conversation) (text : String) (flows : List Flow)
    (now : Instant) :
    let flow := flows.getLastD s.engine.flow
    ∃ t reply, Reached s c text t ∧ t.flow = flow ∧
      t.ended = some (s.snapshotUnder c text flow, reply) ∧ reply = s.replyUnder c text flow now ∧
      (flows = [] → reply = s.turn c text now) := by
  intro flow
  have published (first : Flow) (before : Reached s c text ⟨first, none⟩) :
      Reached s c text ⟨flows.getLastD first, none⟩ := by
    induction flows generalizing first with
    | nil => exact before
    | cons next rest ih =>
      rw [List.getLastD_cons]
      exact ih next (.move before (.reload next))
  refine ⟨_, _, .move (published _ .opened) (.answer now rfl), rfl, rfl, rfl, ?_⟩
  rintro rfl
  exact (s.turn_eq_replyUnder c text now).symm

end Exchange

theorem Flow.intentOf_unknown_iff {flow : Flow} {label : String} :
    flow.intentOf label = flow.engine.unknownIntent ↔
      (flow.isIntent label = true → label = flow.engine.unknownIntent) := by
  unfold Flow.intentOf
  split
  · rename_i declared
    exact ⟨fun same _ => same, fun same => same declared⟩
  · rename_i undeclared
    exact ⟨fun _ declared => absurd declared undeclared, fun _ => rfl⟩

theorem unclassified_intent_iff {s : Session} {c : Conversation} {text : String} {t : Exchange}
    (reached : Exchange.Reached s c text t) {snapshot : Snapshot} {reply : Reply}
    (ended : t.ended = some (snapshot, reply)) {e : CollaboratorError}
    (failed : s.heard (s.opening c text) = .error e) :
    let record := Turn.record snapshot reply.result.decision
    let before := s.engine.flow.engine.unknownIntent
    reply.result.conversation.history =
      Conversation.lastOf c.historyLimit (c.history ++ [record]) ∧
    (record.intent = snapshot.flow.engine.unknownIntent ↔
      (snapshot.flow.isIntent before = true → before = snapshot.flow.engine.unknownIntent)) := by
  intro record before
  obtain ⟨flow, now, rfl, rfl⟩ := reached.settled snapshot reply ended
  have asked : s.input c text = ⟨before, .empty⟩ := by
    unfold Session.input
    rw [failed]
    rfl
  constructor
  · exact (Turn.commit_history (s.snapshotUnder c text flow) _ _ now).1
  · have recorded : record.intent = flow.intentOf before := by
      change flow.intentOf (s.input c text).label = _
      rw [asked]
    rw [recorded]
    exact Flow.intentOf_unknown_iff

def foyer : Blueprint where
  initialState := "foyer"
  intents := ["hello", "unclear"]
  actions := ["continue", "escalate_to_human"]
  states := Table.empty.insert "foyer" {}

def relabelled : Blueprint :=
  { foyer with intents := ["hello", "lost", "unclear"], engine := { unknownIntent := "lost" } }

def weeded : Blueprint :=
  { foyer with intents := ["hello", "lost"], engine := { unknownIntent := "lost" } }

def relabelledFlow : Flow := ⟨relabelled, relabelled.vocabulary⟩

def weededFlow : Flow := ⟨weeded, weeded.vocabulary⟩

def foyerSession : Session where
  engine := { flow := ⟨foyer, foyer.vocabulary⟩ }
  classifier := silent
  generator := wordless
  limit := 10

def caller : Conversation := foyerSession.engine.start "visitor" .epoch

theorem unclear_relabelled :
    (Flow.build foyer = .ok foyerSession.engine.flow ∧
      Flow.build relabelled = .ok relabelledFlow) ∧
    foyerSession.heard (foyerSession.opening caller "good day") = .error (.timeout "silent" 10) ∧
    ∃ t snapshot reply, Exchange.Reached foyerSession caller "good day" t ∧
      t.ended = some (snapshot, reply) ∧ snapshot.flow = relabelledFlow ∧
      reply.result.conversation.history.map (·.intent) = ["unclear"] ∧
      snapshot.flow.engine.unknownIntent = "lost" := by
  obtain ⟨t, _, reached, _, ended, rfl, _⟩ :=
    Exchange.Reached.completes foyerSession caller "good day" [relabelledFlow] .epoch
  exact ⟨⟨by rfl, by rfl⟩, by rfl, t, _, _, reached, ended, by rfl, by rfl, by rfl⟩

-- The name is gone for good in the flow that comes last, so it stands for what is unknown there.
theorem unclear_weeded :
    ∃ t snapshot reply, Exchange.Reached foyerSession caller "good day" t ∧
      t.ended = some (snapshot, reply) ∧ snapshot.flow = weededFlow ∧
      foyerSession.heard (foyerSession.opening caller "good day") =
        .error (.timeout "silent" 10) ∧
      (Turn.record snapshot reply.result.decision).intent = snapshot.flow.engine.unknownIntent := by
  obtain ⟨t, _, reached, _, ended, rfl, _⟩ :=
    Exchange.Reached.completes foyerSession caller "good day" [relabelledFlow, weededFlow] .epoch
  have failed : foyerSession.heard (foyerSession.opening caller "good day") =
      .error (.timeout "silent" 10) := by rfl
  have foreign : ¬ weededFlow.isIntent "unclear" = true := by decide
  refine ⟨t, _, _, reached, ended, by rfl, failed, ?_⟩
  exact (unclassified_intent_iff reached ended failed).2.mpr fun declared => absurd declared foreign

end Colloquy
