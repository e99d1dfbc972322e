import Colloquy.Turn

/-! Who leads a partition, and what a decision takes from the leaders. -/
namespace Colloquy

def leastBy (le : α → α → Bool) : List α → Option α
  | [] => none
  | a :: rest =>
    match leastBy le rest with
    | none => some a
    | some b => some (if le a b then a else b)

theorem leastBy_mem {le : α → α → Bool} {l : List α} (least : leastBy le l = some a) : a ∈ l := by
  induction l generalizing a with
  | nil => cases least
  | cons b rest ih =>
    unfold leastBy at least
    cases found : leastBy le rest with
    | none =>
      rw [found] at least
      cases Option.some.inj least
      exact List.mem_cons_self
    | some c =>
      simp only [found] at least
      split at least <;> cases Option.some.inj least
      · exact List.mem_cons_self
      · exact List.mem_cons_of_mem _ (ih found)

-- A further member goes behind those that it is not below.
theorem mergeSort_split {le : α → α → Bool} (trans : ∀ a b c, le a b → le b c → le a c)
    (total : ∀ a b, le a b || le b a) (a : α) (rest : List α) :
    ∃ before after, (a :: rest).mergeSort le = before ++ a :: after ∧
      rest.mergeSort le = before ++ after ∧
      (∀ b ∈ before, le a b = false) ∧ ∀ b ∈ after, le a b = true := by
  obtain ⟨before, after, whole, without, above⟩ := List.mergeSort_cons trans total a rest
  refine ⟨before, after, whole, without, fun b member => by simpa using above b member, ?_⟩
  have sorted := List.pairwise_mergeSort trans total (a :: rest)
  rw [whole] at sorted
  exact (List.pairwise_cons.mp (List.pairwise_append.mp sorted).2.1).1

theorem head_mergeSort {le : α → α → Bool} (trans : ∀ a b c, le a b → le b c → le a c)
    (total : ∀ a b, le a b || le b a) (l : List α) : (l.mergeSort le).head? = leastBy le l := by
  induction l with
  | nil => simp [leastBy]
  | cons a rest ih =>
    obtain ⟨before, after, whole, without, above, below⟩ := mergeSort_split trans total a rest
    rw [without] at ih
    rw [whole, leastBy, ← ih]
    cases before with
    | cons b before => simp [above b List.mem_cons_self]
    | nil =>
      cases after with
      | nil => rfl
      | cons b after => simp [below b List.mem_cons_self]

section Levels

variable {le : α → α → Bool} {level : α → Nat}

theorem leastBy_top {l : List α}
    (ordered : l.Pairwise fun a b => le a b = decide (level b ≤ level a))
    (found : l.find? (level · == top) = some a) (bound : ∀ b ∈ l, level b ≤ top) :
    leastBy le l = some a := by
  induction l with
  | nil => cases found
  | cons b rest ih =>
    obtain ⟨first, ordered⟩ := List.pairwise_cons.mp ordered
    rw [leastBy]
    by_cases high : level b = top
    · rw [List.find?_cons_of_pos (by simpa using high)] at found
      cases Option.some.inj found
      cases least : leastBy le rest with
      | none => rfl
      | some c =>
        have member := leastBy_mem least
        have below : level c ≤ level a := high ▸ bound c (List.mem_cons_of_mem _ member)
        simp [first c member, below]
    · rw [List.find?_cons_of_neg (by simpa using high)] at found
      rw [ih ordered found fun c member => bound c (List.mem_cons_of_mem _ member)]
      have member := List.mem_of_find?_eq_some found
      have reached : level a = top := by simpa using List.find?_some found
      have below : ¬ level a ≤ level b := by
        have := bound b List.mem_cons_self
        omega
      simp [first a member, below]

-- Looking for each level in turn, from the highest.
theorem leastBy_levels {l : List α} {levels : List Nat}
    (ordered : l.Pairwise fun a b => le a b = decide (level b ≤ level a))
    (descending : levels.Pairwise (· > ·)) (all : ∀ a ∈ l, level a ∈ levels) :
    leastBy le l = levels.findSome? fun n => l.find? (level · == n) := by
  induction levels with
  | nil =>
    cases l with
    | nil => rfl
    | cons a rest => exact absurd (all a List.mem_cons_self) List.not_mem_nil
  | cons top levels ih =>
    obtain ⟨below, descending⟩ := List.pairwise_cons.mp descending
    rw [List.findSome?_cons]
    cases found : l.find? (level · == top) with
    | some a =>
      refine leastBy_top ordered found fun b member => ?_
      rcases List.mem_cons.mp (all b member) with same | lower
      · exact Nat.le_of_eq same
      · exact Nat.le_of_lt (below _ lower)
    | none =>
      refine ih descending fun a member => ?_
      have other : level a ≠ top := by simpa using List.find?_eq_none.mp found a member
      exact (List.mem_cons.mp (all a member)).resolve_left other

end Levels

namespace Resolution

theorem compareCollected_isLE (a b : Collected) : (compareCollected a b).isLE ↔
    b.proposal.priority.level < a.proposal.priority.level ∨
    b.proposal.priority.level = a.proposal.priority.level ∧
      (a.proposal.rank < b.proposal.rank ∨ a.proposal.rank = b.proposal.rank ∧
        (a.sourceIndex < b.sourceIndex ∨ a.sourceIndex = b.sourceIndex ∧ a.seq ≤ b.seq)) := by
  simp only [compareCollected, Ordering.isLE_then_iff_or, Nat.compare_eq_lt, Nat.compare_eq_eq,
    Nat.isLE_compare]

theorem compareCollected_trans (a b c : Collected) (first : (compareCollected a b).isLE)
    (second : (compareCollected b c).isLE) : (compareCollected a c).isLE := by
  rw [compareCollected_isLE] at first second ⊢
  omega

theorem compareCollected_total (a b : Collected) :
    (compareCollected a b).isLE || (compareCollected b a).isLE := by
  rw [Bool.or_eq_true, compareCollected_isLE, compareCollected_isLE]
  omega

theorem mem_partition {kind : ProposalKind} {ps : List Collected} {e : Collected × Nat} :
    e ∈ partition kind ps ↔ e ∈ ps.zipIdx ∧ e.1.proposal.kind = kind := by
  unfold partition
  rw [List.mem_mergeSort, List.mem_filter, beq_iff_eq]

theorem partition_head? (kind : ProposalKind) (ps : List Collected) :
    (partition kind ps).head? = leastBy (fun a b => (compareCollected a.1 b.1).isLE)
      (ps.zipIdx.filter (·.1.proposal.kind == kind)) :=
  head_mergeSort (fun a b c => compareCollected_trans a.1 b.1 c.1)
    (fun a b => compareCollected_total a.1 b.1) _

theorem find?_zipIdx (l : List α) (p : α → Bool) :
    (l.zipIdx.find? fun e => p e.1).map (·.1) = l.find? p := by
  have found := List.find?_map (p := p) (f := Prod.fst) (l := l.zipIdx)
  rw [List.zipIdx_map_fst] at found
  exact found.symm

theorem pairwise_zipIdx (l : List α) : l.zipIdx.Pairwise (·.2 < ·.2) := by
  have listed := List.pairwise_lt_range' (s := 0) (n := l.length)
  rw [← List.zipIdx_map_snd] at listed
  exact List.pairwise_map.mp listed

-- They stand in the order of their sources, and none has a rank of its own.
structure Arranged (ps : List Collected) : Prop where
  inOrder : ps.Pairwise fun a b =>
    a.sourceIndex < b.sourceIndex ∨ a.sourceIndex = b.sourceIndex ∧ a.seq < b.seq
  unranked : ∀ c ∈ ps, c.proposal.rank = 0

def tag (c : Collected) : String × Proposal := (c.source, c.proposal)

-- The first one of a kind that has the highest priority.
def chief (kind : ProposalKind) (ps : List (String × Proposal)) : Option (String × Proposal) :=
  Priority.all.reverse.findSome? fun priority =>
    ps.find? fun p => p.2.kind == kind && p.2.priority == priority

theorem Arranged.level_order {ps : List Collected} (arranged : Arranged ps) (kind : ProposalKind) :
    (ps.zipIdx.filter (·.1.proposal.kind == kind)).Pairwise fun a b =>
      (compareCollected a.1 b.1).isLE =
        decide (b.1.proposal.priority.level ≤ a.1.proposal.priority.level) := by
  have ordered : ps.zipIdx.Pairwise fun a b => a.1.sourceIndex < b.1.sourceIndex ∨
      a.1.sourceIndex = b.1.sourceIndex ∧ a.1.seq < b.1.seq := by
    have listed := arranged.inOrder
    rw [← List.zipIdx_map_fst 0 ps] at listed
    exact List.pairwise_map.mp listed
  refine List.Pairwise.filter _ (ordered.imp_of_mem ?_)
  intro a b here there before
  have unranked {e : Collected × Nat} (member : e ∈ ps.zipIdx) : e.1.proposal.rank = 0 :=
    arranged.unranked e.1 (List.fst_mem_of_mem_zipIdx member)
  rw [Bool.eq_iff_iff, decide_eq_true_iff, compareCollected_isLE, unranked here, unranked there]
  omega

theorem partition_chief {ps : List Collected} (arranged : Arranged ps) (kind : ProposalKind) :
    (partition kind ps).head?.map (fun e => tag e.1) = chief kind (ps.map tag) := by
  have levels : (Priority.all.reverse.map Priority.level).Pairwise (· > ·) := by decide
  have all (e : Collected × Nat) :
      e.1.proposal.priority.level ∈ Priority.all.reverse.map Priority.level := by
    cases e.1.proposal.priority <;> decide
  rw [partition_head?, leastBy_levels (arranged.level_order kind) levels fun e _ => all e,
    List.findSome?_map, chief, List.map_findSome?]
  congr 1
  funext priority
  have same (e : Collected × Nat) : (e.1.proposal.priority.level == priority.level) =
      (e.1.proposal.priority == priority) := by
    rw [Bool.eq_iff_iff, beq_iff_eq, beq_iff_eq]
    exact ⟨Priority.level_injective, fun equal => equal ▸ rfl⟩
  simp only [Function.comp, same, List.find?_filter, List.find?_map, Bool.decide_and,
    Bool.decide_eq_true]
  rw [← Function.comp_def tag, ← Option.map_map]
  exact congrArg (Option.map tag) <| find?_zipIdx ps fun c =>
    c.proposal.kind == kind && c.proposal.priority == priority

-- Of the winner only what it proposed matters, and its source.
theorem lead_congr {head head' : Option (Collected × Nat)}
    (same : head.map (fun e => tag e.1) = head'.map fun e => tag e.1)
    (defaultAction : Option String) : lead? head defaultAction = lead? head' defaultAction := by
  cases head with
  | none => rw [Option.map_eq_none_iff.mp same.symm]
  | some w =>
    obtain ⟨w', rfl, tags⟩ := Option.map_eq_some_iff.mp same.symm
    obtain ⟨⟨_, _, _, _⟩, _⟩ := w
    obtain ⟨⟨_, _, _, proposal⟩, _⟩ := w'
    obtain ⟨rfl, rfl⟩ := Prod.mk.inj tags
    cases proposal <;> rfl

theorem nextState_head {ps : List Collected} (combinable : Bool) (current : String) :
    nextState combinable (partition .transition ps).head? current = if combinable then
      ((partition .transition ps).head?.map fun e => e.1.proposal.value).getD current
      else current := by
  cases combinable with
  | false => rfl
  | true =>
    cases head : (partition .transition ps).head? with
    | none => rfl
    | some e =>
      obtain ⟨⟨_, _, _, proposal⟩, _⟩ := e
      have kind := (mem_partition.mp (List.mem_of_head? head)).2
      cases proposal with
      | action p => cases kind
      | transition p => rfl

-- What becomes of a member of the list, once it is known whether transitions are set aside.
def outcomeIn (ps : List Collected) (suppressed : Bool) (e : Collected × Nat) : TraceOutcome :=
  match e.1.proposal.kind with
  | .action => outcomeOf (partition .action ps).head? false e
  | .transition => outcomeOf (partition .transition ps).head? suppressed e

def keptReasons (ps : List Collected) (suppressed : Bool) : List String :=
  ((partition .action ps ++ partition .transition ps).filter fun e =>
    keepsReason (outcomeIn ps suppressed e)).map (·.1.proposal.reason)

-- A decision as its lead and the partitions make it.
structure Led (ps : List Collected) (current : String) (lead : Lead) (d : Decision) : Prop where
  action : d.action = lead.action
  winningSource : d.winningSource = lead.source
  suppressed : d.transitionsSuppressed = !lead.combinable
  sound : d.degraded = false
  nextState : d.nextState =
    Resolution.nextState lead.combinable (partition .transition ps).head? current
  trace : d.trace = ps.zipIdx.map fun e => traceEntry e.1 (outcomeIn ps (!lead.combinable) e)
  reasons : d.reasons = (keptReasons ps (!lead.combinable)).foldl addReason [lead.reason]

section Resolved

variable {ps : List Collected} {current : String} {defaultAction : Option String}

theorem resolves_led {lead : Lead}
    (leads : lead? (partition .action ps).head? defaultAction = some lead) (current : String) :
    ∃ d, resolve ps current defaultAction = .ok d ∧ Led ps current lead d := by
  unfold resolve
  simp only [leads]
  exact ⟨_, rfl, rfl, rfl, rfl, rfl, rfl, rfl, rfl⟩

-- Nobody leads, and there is no default action.
theorem resolve_leaderless (leads : lead? (partition .action ps).head? defaultAction = none)
    (current : String) : resolve ps current defaultAction = .error .exhausted := by
  unfold resolve
  simp only [leads]

theorem resolved_led {d : Decision} (resolved : resolve ps current defaultAction = .ok d) :
    ∃ lead, lead? (partition .action ps).head? defaultAction = some lead ∧
      Led ps current lead d := by
  cases leads : lead? (partition .action ps).head? defaultAction with
  | none => cases (resolve_leaderless leads current).symm.trans resolved
  | some lead =>
    obtain ⟨_, again, led⟩ := resolves_led leads current
    cases Except.ok.inj (resolved.symm.trans again)
    exact ⟨lead, rfl, led⟩

end Resolved

theorem chief_resolved {ps : List Collected} (arranged : Arranged ps) {source : String}
    {p : ActionProposal} (lead : chief .action (ps.map tag) = some (source, .action p))
    {current : String} {defaultAction : Option String} {d : Decision}
    (resolved : resolve ps current defaultAction = .ok d) :
    d.action = p.action ∧ d.winningSource = some source ∧
      d.transitionsSuppressed = !p.combinable ∧ d.degraded = false ∧
      d.nextState = if p.combinable then
        ((chief .transition (ps.map tag)).map (·.2.value)).getD current else current := by
  rw [← partition_chief arranged] at lead ⊢
  obtain ⟨⟨c, position⟩, head, tagged⟩ := Option.map_eq_some_iff.mp lead
  obtain ⟨rfl, same⟩ := Prod.mk.inj tagged
  have leads : lead? (partition .action ps).head? defaultAction =
      some ⟨p.action, p.combinable, some c.source, p.reason⟩ := by
    obtain ⟨_, _, _, _⟩ := c
    cases same
    rw [head]
    rfl
  obtain ⟨_, leads', led⟩ := resolved_led resolved
  cases leads.symm.trans leads'
  refine ⟨led.action, led.winningSource, led.suppressed, led.sound, led.nextState.trans ?_⟩
  rw [Option.map_map]
  exact nextState_head p.combinable current

end Resolution

namespace Turn

open Resolution

variable {s : Snapshot}

theorem asked_known (registry : Registry) (known : s.state?.isSome = true) :
    askedProposals registry s = registry.proposals s := if_pos known

theorem asked_unknown (registry : Registry) (unknown : s.state? = none) :
    askedProposals registry s = [] := by
  unfold askedProposals
  rw [unknown]
  rfl

theorem decision_unknown (unknown : s.state? = none) (ps : List Collected) :
    decision s ps = degraded s ps .unknownState := by
  unfold decision
  rw [unknown]
  rfl

-- The flow has a default action, so in a state that it knows somebody leads.
theorem decision_resolved (known : s.state?.isSome = true) (ps : List Collected) :
    resolve ps s.current (some s.flow.engine.defaultAction) = .ok (decision s ps) := by
  obtain ⟨lead, leads⟩ :
      ∃ lead, lead? (partition .action ps).head? (some s.flow.engine.defaultAction) = some lead := by
    unfold lead?
    split <;> exact ⟨_, rfl⟩
  obtain ⟨d, resolved, _⟩ := resolves_led leads s.current
  obtain ⟨state, found⟩ := Option.isSome_iff_exists.mp known
  unfold decision
  rw [found, resolved]
  rfl

end Turn

end Colloquy
