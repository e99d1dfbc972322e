import Colloquy.Engine
import Colloquy.Proofs.Places

/-! What each standard source offers in a turn, in terms of what it looks at. -/
namespace Colloquy

theorem select_mem {flow : Flow} {facts : Facts} {o : Outcome} {picked : Selected}
    (selected : flow.select facts o = some picked) : picked.target ∈ o.targets := by
  cases o with
  | direct target =>
    cases Option.some.inj selected
    exact List.mem_singleton_self _
  | chain clauses =>
    obtain ⟨clause, found, rfl⟩ := Option.map_eq_some_iff.mp selected
    exact List.mem_map_of_mem (List.mem_of_find?_eq_some found)

namespace Snapshot

def questions? (s : Snapshot) : Option QuestionSettings :=
  s.flow.blueprint.questions.filter fun q => q.enabled && s.inCategory q.category

def answer? (s : Snapshot) : Option String := s.questions?.bind (·.answerFor s.intent)

def rejection? (s : Snapshot) : Option RejectionSettings :=
  s.flow.blueprint.rejection.filter fun r => r.enabled && s.inCategory r.category

def rule? (s : Snapshot) : Option Selected :=
  s.state?.bind fun state => (state.rules.find? s.intent).bind s.select

def transition? (s : Snapshot) : Option Selected :=
  s.state?.bind fun state => (state.transitions.find? s.intent).bind s.select

-- The transition of a state that requires data, once none is missing.
def completion? (s : Snapshot) : Option Selected :=
  (s.state?.filter fun state => !state.requiredData.isEmpty && s.missingRequired.isEmpty).bind
    fun state => (state.transitions.find? Trigger.dataComplete).bind s.select

def stall? (s : Snapshot) : Option StallSettings :=
  (Source.stallSettings? s).filter fun stall =>
    !s.isTerminal && stall.maxTurnsInState < s.turnsInState

def loop? (s : Snapshot) : Option LoopSettings :=
  (Source.loopSettings? s).filter fun loop =>
    !s.isTerminal && (loop.maxRepeats < Source.repeats s loop && !Source.isInformative s loop)

def objection? (s : Snapshot) : Option ObjectionSettings :=
  (Source.objectionSettings? s).filter fun objection =>
    s.isObjection && (objection.maxConsecutive < s.consecutiveObjections ||
      objection.maxTotal < s.totalObjections)

variable {s : Snapshot}

theorem questions_configured (asked : s.questions? = some q) :
    s.flow.blueprint.questions = some q := (Option.filter_eq_some_iff.mp asked).1

theorem rejection_configured (caught : s.rejection? = some r) :
    s.flow.blueprint.rejection = some r := (Option.filter_eq_some_iff.mp caught).1

theorem stall_configured (fires : s.stall? = some stall) : s.flow.blueprint.stall = some stall :=
  (Option.filter_eq_some_iff.mp (Option.filter_eq_some_iff.mp fires).1).1

theorem loop_configured (fires : s.loop? = some loop) : s.flow.blueprint.loop = some loop :=
  (Option.filter_eq_some_iff.mp (Option.filter_eq_some_iff.mp fires).1).1

theorem objection_configured (fires : s.objection? = some objection) :
    s.flow.blueprint.objection = some objection :=
  (Option.filter_eq_some_iff.mp (Option.filter_eq_some_iff.mp fires).1).1

end Snapshot

namespace Source

-- What a source has in the turn: nothing if it does not apply or fails.
def offers (source : Source) (s : Snapshot) : List Proposal :=
  if source.applies s then (source.contribute s).proposals else []

def Reliable (source : Source) (s : Snapshot) : Prop :=
  source.applies s = true → (source.contribute s).fault = none

section Setting

variable (source : Source) {s : Snapshot} {setting : Option α} {gate : α → Bool}
  {body : α → Except SourceFault (List Proposal)} {written : α → List Proposal}

theorem offers_setting (applies : source.applies s = setting.any gate)
    (contribute : source.contribute s = .ofExcept (needSetting path setting >>= body))
    (returns : ∀ a, body a = .ok (written a)) :
    source.offers s = (setting.filter gate).elim [] written := by
  unfold offers
  rw [applies, contribute]
  cases setting with
  | none => rfl
  | some a =>
    have wrote : (needSetting path (some a) >>= body) = .ok (written a) := returns a
    rw [wrote]
    cases held : gate a <;>
      simp [held, Contribution.ofExcept, Contribution.proposals, Option.filter_some]

theorem reliable_setting (applies : source.applies s = setting.any gate)
    (contribute : source.contribute s = .ofExcept (needSetting path setting >>= body))
    (returns : ∀ a, body a = .ok (written a)) : source.Reliable s := by
  unfold Reliable
  rw [applies, contribute]
  cases setting with
  | none => exact fun never => absurd never Bool.false_ne_true
  | some a =>
    have wrote : (needSetting path (some a) >>= body) = .ok (written a) := returns a
    rw [wrote]
    exact fun _ => rfl

end Setting

theorem offers_questionResponder (s : Snapshot) : questionResponder.offers s =
    s.answer?.toList.map fun action =>
      .action { action := action, priority := .high, reason := "question_answered" } := by
  rw [offers_setting questionResponder rfl rfl fun _ => rfl, Snapshot.answer?]
  change s.questions?.elim [] _ = _
  cases s.questions? <;> rfl

theorem offers_rejectionHandler (s : Snapshot) : rejectionHandler.offers s =
    s.rejection?.toList.map fun r => .action {
      action := r.action
      priority := .critical
      combinable := false
      reason := "rejection" } := by
  rw [offers_setting rejectionHandler rfl rfl fun _ => rfl]
  change s.rejection?.elim [] _ = _
  cases s.rejection? <;> rfl

theorem offers_stallGuard (s : Snapshot) :
    stallGuard.offers s = s.stall?.toList.flatMap (stallProposals s) := by
  rw [offers_setting stallGuard rfl rfl fun _ => rfl]
  change s.stall?.elim [] _ = _
  cases s.stall? <;> simp

-- The gate of the loop guard does not look at the window; what it writes does.
theorem loopGuard_applies (s : Snapshot) :
    loopGuard.applies s = (loopSettings? s).any fun _ => !s.isTerminal := by
  change ((loopSettings? s).isSome && _) = _
  cases loopSettings? s <;> simp

theorem loopGuard_returns (s : Snapshot) (settings : LoopSettings) :
    (if settings.maxRepeats < repeats s settings && !isInformative s settings then
        return [.action (loopProposal s settings)]
      else return []) =
      (.ok (if settings.maxRepeats < repeats s settings && !isInformative s settings then
        [.action (loopProposal s settings)] else []) : Except SourceFault (List Proposal)) := by
  split <;> rfl

theorem offers_loopGuard (s : Snapshot) :
    loopGuard.offers s = s.loop?.toList.map fun loop => .action (loopProposal s loop) := by
  rw [offers_setting loopGuard (loopGuard_applies s) rfl (loopGuard_returns s), Snapshot.loop?]
  cases loopSettings? s with
  | none => rfl
  | some loop =>
    rw [Option.filter_some, Option.filter_some]
    cases !s.isTerminal with
    | false => rfl
    | true =>
      rw [if_pos rfl, Option.elim_some, Bool.true_and]
      split <;> rfl

theorem offers_objectionGuard (s : Snapshot) : objectionGuard.offers s =
    s.objection?.toList.map fun objection => .action {
      action := objection.action
      priority := .critical
      combinable := false
      reason := "objection_limit"
      escalation := some ⟨objectionName, .forcedExit⟩ } := by
  rw [offers_setting objectionGuard rfl rfl fun _ => rfl]
  change s.objection?.elim [] _ = _
  cases s.objection? <;> rfl

theorem offers_fallback (s : Snapshot) : fallback.offers s = [
    .action { action := defaultActionOf s, priority := .low, reason := "fallback_default" },
    .transition { target := s.current, priority := .low, reason := "stay_in_state" }] := rfl

theorem offers_stateRules {s : Snapshot} {state : State} (known : s.state? = some state) :
    stateRules.offers s =
      s.rule?.toList.map (fun picked => .action {
        action := picked.target
        priority := .normal
        reason := reasonFor "state_rule" picked.condition }) ++
      s.transition?.toList.map fun picked => .transition {
        target := picked.target
        priority := .normal
        reason := reasonFor "state_transition" picked.condition } := by
  have asked : needState s = .ok state := by rw [needState, known]; rfl
  have wrote : stateRules.contribute s = .ofExcept (needState s >>= _) := rfl
  rw [asked] at wrote
  simp only [offers, wrote, Snapshot.rule?, Snapshot.transition?, known]
  rfl

theorem dataCollector_contributes {s : Snapshot} {state : State} (known : s.state? = some state) :
    dataCollector.contribute s = .ofExcept (if !s.missingRequired.isEmpty then .ok [] else
      .ok (((state.transitions.find? Trigger.dataComplete).bind s.select).toList.map fun picked =>
        .transition {
          target := picked.target
          priority := .high
          reason := "data_complete" })) := by
  have asked : needState s = .ok state := by rw [needState, known]; rfl
  have wrote : dataCollector.contribute s =
    .ofExcept (if !s.missingRequired.isEmpty then .ok [] else needState s >>= _) := rfl
  rw [wrote, asked]
  rfl

theorem offers_dataCollector {s : Snapshot} {state : State} (known : s.state? = some state) :
    dataCollector.offers s = s.completion?.toList.map fun picked => .transition {
      target := picked.target
      priority := .high
      reason := "data_complete" } := by
  have gate : dataCollector.applies s =
      (!state.requiredData.isEmpty && state.transitions.contains Trigger.dataComplete) := by
    change s.state?.any _ = _
    rw [known]
    rfl
  rw [offers, gate, dataCollector_contributes known, Snapshot.completion?, known,
    Option.filter_some]
  cases state.requiredData.isEmpty with
  | true => rfl
  | false =>
    cases s.missingRequired.isEmpty with
    | false => cases state.transitions.contains Trigger.dataComplete <;> rfl
    | true =>
      cases found : state.transitions.find? Trigger.dataComplete with
      | none => simp [Table.contains, found]
      | some o => simp [Table.contains, found, Contribution.ofExcept, Contribution.proposals]

theorem standard_reliable {s : Snapshot} {state : State} (known : s.state? = some state) :
    ∀ source ∈ Registry.standard, source.Reliable s := by
  have asked : needState s = .ok state := by rw [needState, known]; rfl
  simp only [Registry.standard, List.forall_mem_cons, List.not_mem_nil, false_implies,
    implies_true, and_true]
  refine ⟨?_, ?_, ?_, ?_, ?_, ?_, ?_, ?_⟩
  · exact reliable_setting questionResponder rfl rfl fun _ => rfl
  · intro _
    have wrote : stateRules.contribute s = .ofExcept (needState s >>= _) := rfl
    rw [wrote, asked]
    rfl
  · intro _
    rw [dataCollector_contributes known]
    split <;> rfl
  · exact reliable_setting rejectionHandler rfl rfl fun _ => rfl
  · exact fun _ => rfl
  · exact reliable_setting stallGuard rfl rfl fun _ => rfl
  · exact reliable_setting loopGuard (loopGuard_applies s) rfl (loopGuard_returns s)
  · exact reliable_setting objectionGuard rfl rfl fun _ => rfl

end Source

end Colloquy
