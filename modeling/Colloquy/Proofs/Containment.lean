import Colloquy.Proofs.Tiers
import Mathlib.Data.List.Induction

/-! What a source that declines or fails can do to a turn: nothing. -/
namespace Colloquy

namespace Source

-- Asked in the turn, without failing.
def isHeard (source : Source) (s : Snapshot) : Bool :=
  source.applies s && (source.contribute s).fault.isNone

def isFaulty (source : Source) (s : Snapshot) : Bool :=
  source.applies s && (source.contribute s).fault.isSome

theorem offers_unheard {source : Source} {s : Snapshot} (unheard : source.isHeard s = false) :
    source.offers s = [] := by
  unfold isHeard at unheard
  unfold offers Contribution.proposals
  cases applies : source.applies s with
  | false => rfl
  | true =>
    rw [applies, Bool.true_and] at unheard
    cases fault : (source.contribute s).fault with
    | none => simp [fault] at unheard
    | some f => rfl

end Source

def Registry.heard (registry : Registry) (s : Snapshot) : Registry :=
  registry.filter (·.isHeard s)

theorem filter_zipIdx (p : α → Bool) (l : List α) :
    (l.filter p).zipIdx = (l.zipIdx.filter (p ·.1)).map fun e => (e.1, (l.take e.2).countP p) := by
  induction l using List.reverseRecOn with
  | nil => rfl
  | append_singleton l a ih =>
    -- Places inside `l` are counted in `l` alone.
    have inside : (l.zipIdx.filter (p ·.1)).map (fun e => (e.1, ((l ++ [a]).take e.2).countP p)) =
        (l.filter p).zipIdx := by
      rw [ih]
      apply List.map_congr_left
      intro e member
      have place := List.snd_lt_of_mem_zipIdx (List.mem_filter.mp member).1
      rw [List.take_append_of_le_length (by omega)]
    rw [List.filter_append, List.zipIdx_append, List.zipIdx_append, List.filter_append,
      List.map_append, inside]
    by_cases kept : p a = true
    · simp [kept, List.countP_eq_length_filter]
    · simp [kept]

theorem countP_take_lt {p : α → Bool} {l : List α} (listed : l[i]? = some a) (kept : p a = true)
    (before : i < j) : (l.take i).countP p < (l.take j).countP p := by
  obtain ⟨bound, rfl⟩ := List.getElem?_eq_some_iff.mp listed
  have next : (l.take (i + 1)).countP p = (l.take i).countP p + 1 := by
    rw [List.take_succ_eq_append_getElem bound, List.countP_append, List.countP_singleton, kept]
    rfl
  have further : (l.take (i + 1)).countP p ≤ (l.take j).countP p :=
    (List.take_prefix_take_left (Nat.succ_le_of_lt before)).sublist.countP_le
  omega

theorem flatMap_filter {p : α → Bool} {f : α → List β} {l : List α}
    (silent : ∀ a ∈ l, p a = false → f a = []) : (l.filter p).flatMap f = l.flatMap f := by
  induction l with
  | nil => rfl
  | cons a rest ih =>
    obtain ⟨here, later⟩ := List.forall_mem_cons.mp silent
    rw [List.flatMap_cons, ← ih later]
    cases kept : p a with
    | true => rw [List.filter_cons_of_pos kept, List.flatMap_cons]
    | false => rw [List.filter_cons_of_neg (by simp [kept]), here kept, List.nil_append]

def Collected.renumber (number : Nat → Nat) (c : Collected) : Collected :=
  { c with sourceIndex := number c.sourceIndex }

@[simp] theorem Collected.proposal_renumber (number : Nat → Nat) (c : Collected) :
    (c.renumber number).proposal = c.proposal := rfl

-- Sources with numbers that compare as before.
def KeepsOrder (number : Nat → Nat) (ps : List Collected) : Prop :=
  ∀ a ∈ ps, ∀ b ∈ ps,
    compare (number a.sourceIndex) (number b.sourceIndex) = compare a.sourceIndex b.sourceIndex

namespace Resolution

variable {number : Nat → Nat} {ps : List Collected}

theorem partition_renumber (keeps : KeepsOrder number ps) (kind : ProposalKind) :
    partition kind (ps.map (·.renumber number)) =
      (partition kind ps).map fun e => (e.1.renumber number, e.2) := by
  unfold partition
  rw [List.map_mergeSort]
  · rw [List.zipIdx_map, List.filter_map]
    rfl
  · intro a here b there
    have first := List.fst_mem_of_mem_zipIdx (List.mem_filter.mp here).1
    have second := List.fst_mem_of_mem_zipIdx (List.mem_filter.mp there).1
    have same : compareCollected (a.1.renumber number) (b.1.renumber number) =
        compareCollected a.1 b.1 := by
      unfold compareCollected Collected.renumber
      rw [keeps a.1 first b.1 second]
    rw [same]

-- The winner is told by its position, and everything else by what was proposed.
theorem outcomeOf_renumber (winner : Option (Collected × Nat)) (suppressed : Bool)
    (e : Collected × Nat) :
    outcomeOf (winner.map fun w => (w.1.renumber number, w.2)) suppressed
      (e.1.renumber number, e.2) = outcomeOf winner suppressed e := by
  unfold outcomeOf
  cases winner <;> rfl

theorem traceEntry_renumber (c : Collected) (outcome : TraceOutcome) :
    traceEntry (c.renumber number) outcome = traceEntry c outcome := rfl

theorem lead_renumber (head : Option (Collected × Nat)) (defaultAction : Option String) :
    lead? (head.map fun w => (w.1.renumber number, w.2)) defaultAction =
      lead? head defaultAction := by
  apply lead_congr
  rw [Option.map_map]
  rfl

theorem nextState_renumber (combinable : Bool) (head : Option (Collected × Nat))
    (current : String) :
    nextState combinable (head.map fun w => (w.1.renumber number, w.2)) current =
      nextState combinable head current := by
  cases head with
  | none => rfl
  | some w =>
    obtain ⟨⟨_, _, _, proposal⟩, _⟩ := w
    cases combinable <;> cases proposal <;> rfl

theorem resolve_renumber (keeps : KeepsOrder number ps) (current : String)
    (defaultAction : Option String) :
    resolve (ps.map (·.renumber number)) current defaultAction =
      resolve ps current defaultAction := by
  unfold resolve
  simp only [partition_renumber keeps, List.head?_map, lead_renumber]
  cases lead? (partition .action ps).head? defaultAction with
  | none => rfl
  | some lead =>
    simp only [nextState_renumber, List.zipIdx_map, List.map_map, ← List.map_append,
      List.filter_map, Function.comp_def, Prod.map, id, Collected.proposal_renumber,
      traceEntry_renumber, outcomeOf_renumber]

end Resolution

namespace Registry

variable (registry : Registry) (s : Snapshot)

-- How many sources are heard before the one with a number.
def heardBefore (index : Nat) : Nat := (registry.take index).countP (·.isHeard s)

theorem proposals_heard : (registry.heard s).proposals s =
    (registry.proposals s).map (·.renumber (registry.heardBefore s)) := by
  have silent : ∀ e ∈ registry.zipIdx, e.1.isHeard s = false →
      (e.1.offers s).zipIdx.map (fun p => (⟨e.1.name, e.2, p.2, p.1⟩ : Collected)) = [] := by
    intro e _ unheard
    rw [Source.offers_unheard unheard]
    rfl
  rw [proposals_offers, proposals_offers, heard, filter_zipIdx, List.flatMap_map,
    ← flatMap_filter silent, List.map_flatMap]
  simp only [List.map_map]
  rfl

theorem proposed_heard {c : Collected} (member : c ∈ registry.proposals s) :
    ∃ source, registry[c.sourceIndex]? = some source ∧ source.isHeard s = true := by
  rw [proposals_offers] at member
  obtain ⟨⟨source, index⟩, place, member⟩ := List.mem_flatMap.mp member
  obtain ⟨⟨p, seq⟩, offered, rfl⟩ := List.mem_map.mp member
  refine ⟨source, List.mem_zipIdx_iff_getElem?.mp place, ?_⟩
  by_contra unheard
  rw [Source.offers_unheard (Bool.eq_false_iff.mpr unheard)] at offered
  cases offered

theorem heardBefore_keepsOrder : KeepsOrder (registry.heardBefore s) (registry.proposals s) := by
  intro a here b there
  obtain ⟨first, firstAt, firstHeard⟩ := registry.proposed_heard s here
  obtain ⟨second, secondAt, secondHeard⟩ := registry.proposed_heard s there
  rcases Nat.lt_trichotomy a.sourceIndex b.sourceIndex with before | same | after
  · have fewer := countP_take_lt (p := (·.isHeard s)) firstAt firstHeard before
    rw [Nat.compare_eq_lt.mpr before]
    exact Nat.compare_eq_lt.mpr fewer
  · rw [same, Nat.compare_eq_eq.mpr rfl, Nat.compare_eq_eq.mpr rfl]
  · have more := countP_take_lt (p := (·.isHeard s)) secondAt secondHeard after
    rw [Nat.compare_eq_gt.mpr after]
    exact Nat.compare_eq_gt.mpr more

-- Each source that fails leaves one record, in the order of the registry.
theorem faults_listed : List.Forall₂
    (fun source record => record.source = source.name ∧
      (source.contribute s).fault = some record.fault)
    (registry.filter (·.isFaulty s)) (registry.faults s) := by
  induction registry with
  | nil => exact .nil
  | cons source rest ih =>
    unfold faults at ih ⊢
    rw [List.filterMap_cons]
    cases applies : source.applies s with
    | false => simpa [Source.isFaulty, applies] using ih
    | true =>
      cases fault : (source.contribute s).fault with
      | none => simpa [Source.isFaulty, applies, fault] using ih
      | some f => simpa [Source.isFaulty, applies, fault] using ih

end Registry

namespace Turn

theorem asked_heard (registry : Registry) (s : Snapshot) :
    askedProposals (registry.heard s) s =
      (askedProposals registry s).map (·.renumber (registry.heardBefore s)) := by
  unfold askedProposals
  split
  · exact registry.proposals_heard s
  · rfl

theorem asked_keepsOrder (registry : Registry) (s : Snapshot) :
    KeepsOrder (registry.heardBefore s) (askedProposals registry s) := by
  unfold askedProposals
  split
  · exact registry.heardBefore_keepsOrder s
  · exact fun _ never => by cases never

theorem escalations_renumber (number : Nat → Nat) (ps : List Collected) :
    escalations (ps.map (·.renumber number)) = escalations ps := by
  unfold escalations
  rw [List.filterMap_map]
  rfl

theorem decision_renumber {number : Nat → Nat} {ps : List Collected} (s : Snapshot)
    (keeps : KeepsOrder number ps) :
    decision s (ps.map (·.renumber number)) = decision s ps := by
  unfold decision
  rw [Resolution.resolve_renumber keeps]
  have traced (cause : DegradedCause) :
      degraded s (ps.map (·.renumber number)) cause = degraded s ps cause := by
    unfold degraded
    rw [List.map_map]
    rfl
  rw [traced, traced]

theorem decision_degraded (s : Snapshot) (ps : List Collected) :
    (decision s ps).degraded = s.state?.isNone := by
  cases state : s.state? with
  | none =>
    rw [decision_unknown state]
    rfl
  | some _ =>
    have known : s.state?.isSome = true := Option.isSome_iff_exists.mpr ⟨_, state⟩
    obtain ⟨_, _, led⟩ := Resolution.resolved_led (decision_resolved known ps)
    exact led.sound

end Turn

theorem faults_contained (registry : Registry) (flow : Flow) (c : Conversation) (input : TurnInput)
    (now later : Instant) :
    let s := Snapshot.capture flow c (flow.intentOf input.label) input.extracted
    let result := processTurn registry flow c input now
    let without := processTurn (registry.heard s) flow c input later
    (result.decision = without.decision ∧ result.view = without.view ∧
      result.conversation = { without.conversation with updatedAt := now }) ∧
    (flow.hasState c.current →
      List.Forall₂ (fun source record => record.source = source.name ∧
        (source.contribute s).fault = some record.fault)
        (registry.filter (·.isFaulty s)) result.faults) ∧
    (result.decision.degraded = true ↔ flow.state? c.current = none) ∧
    (flow.state? c.current = none → result.decision.action = flow.engine.escalationAction ∧
      result.conversation.current = c.current ∧ result.conversation.tiers = c.tiers) ∧
    result.conversation.turn = countAfter c.turn ∧
    (c.turn + 1 < countBound → result.conversation.turn = c.turn + 1) := by
  intro s result without
  have renumbered := Turn.asked_heard registry s
  have decided : result.decision = without.decision := by
    have same : Turn.decision s (Turn.askedProposals (registry.heard s) s) =
        Turn.decision s (Turn.askedProposals registry s) := by
      rw [renumbered, Turn.decision_renumber s (Turn.asked_keepsOrder registry s)]
    exact congrArg (fun d : Decision => { d with dataUpdates := Turn.dataUpdates s }) same.symm
  have committed : result.conversation = { without.conversation with updatedAt := now } := by
    have same : Turn.escalations (Turn.askedProposals (registry.heard s) s) =
        Turn.escalations (Turn.askedProposals registry s) := by
      rw [renumbered, Turn.escalations_renumber]
    change Turn.commit s result.decision (Turn.escalations (Turn.askedProposals registry s)) now =
      Turn.commit s without.decision
        (Turn.escalations (Turn.askedProposals (registry.heard s) s)) now
    rw [decided, same]
  have viewed : result.view = without.view := by
    change flow.view result.conversation = flow.view without.conversation
    rw [committed]
    rfl
  have degraded : result.decision.degraded = (flow.state? c.current).isNone :=
    Turn.decision_degraded s _
  refine ⟨⟨decided, viewed, committed⟩, ?faults, ?degraded, ?unknown, rfl, countAfter_short⟩
  case faults =>
    intro known
    have asked : result.faults = registry.faults s := if_pos known
    rw [asked]
    exact registry.faults_listed s
  case degraded =>
    rw [degraded, Option.isNone_iff_eq_none]
  case unknown =>
    intro unknown
    have lost : s.state? = none := unknown
    have decided := Turn.decision_unknown lost (Turn.askedProposals registry s)
    refine ⟨congrArg Decision.action decided, congrArg Decision.nextState decided, ?_⟩
    change (Turn.commit s result.decision (Turn.escalations (Turn.askedProposals registry s))
      now).tiers = c.tiers
    rw [Turn.commit_tiers, Turn.asked_unknown registry lost]
    rfl

end Colloquy
