import Colloquy.Proofs.Traces

/-! Proposals that make no difference: a decision depends on those that won or were retained. -/
namespace Colloquy

theorem split_unique {p : α → Bool} {before after before' after' : List α}
    (same : before ++ after = before' ++ after')
    (off : ∀ a ∈ before, p a = false) (on : ∀ a ∈ after, p a = true)
    (off' : ∀ a ∈ before', p a = false) (on' : ∀ a ∈ after', p a = true) :
    before = before' ∧ after = after' := by
  have counted {x y : List α} (off : ∀ a ∈ x, p a = false) (on : ∀ a ∈ y, p a = true) :
      (x ++ y).countP p = y.length := by
    have none : x.countP p = 0 := List.countP_eq_zero.mpr fun a member => by simp [off a member]
    rw [List.countP_append, none, List.countP_eq_length.mpr on, Nat.zero_add]
  have lengths : after.length = after'.length := by
    rw [← counted off on, ← counted off' on', same]
  exact List.append_inj' same lengths

-- A list may be thinned out before it is sorted or after.
theorem filter_mergeSort {le : α → α → Bool} (trans : ∀ a b c, le a b → le b c → le a c)
    (total : ∀ a b, le a b || le b a) (p : α → Bool) (l : List α) :
    (l.mergeSort le).filter p = (l.filter p).mergeSort le := by
  induction l with
  | nil => simp
  | cons a rest ih =>
    obtain ⟨before, after, whole, without, above, below⟩ := mergeSort_split trans total a rest
    rw [without, List.filter_append] at ih
    rw [whole, List.filter_append]
    by_cases kept : p a = true
    · obtain ⟨before', after', whole', without', above', below'⟩ :=
        mergeSort_split trans total a (rest.filter p)
      rw [without'] at ih
      have member {l : List α} {b : α} (inside : b ∈ l.filter p) : b ∈ l :=
        (List.mem_filter.mp inside).1
      obtain ⟨front, back⟩ := split_unique ih (fun b inside => above b (member inside))
        (fun b inside => below b (member inside)) above' below'
      rw [List.filter_cons_of_pos kept, List.filter_cons_of_pos kept, whole', front, back]
    · rw [List.filter_cons_of_neg kept, List.filter_cons_of_neg kept, ih]

namespace Resolution

-- The members of a kind that are not overridden, in the order of resolution.
def contenders (kind : ProposalKind) (ps : List Collected) : List Collected :=
  ((partition kind ps).map (·.1)).filter fun c =>
    (partition kind ps).head?.any (·.1.proposal.priority == c.proposal.priority) ||
      c.proposal.informational

section Contenders

variable {ps qs : List Collected}

theorem contenders_head? (kind : ProposalKind) (ps : List Collected) :
    (contenders kind ps).head? = (partition kind ps).head?.map (·.1) := by
  unfold contenders
  cases partition kind ps with
  | nil => rfl
  | cons w rest => simp

theorem kept_contends {kind : ProposalKind} {e : Collected × Nat} (member : e ∈ partition kind ps) :
    keepsReason (outcomeOf (partition kind ps).head? false e) =
      ((partition kind ps).head?.any (·.1.proposal.priority == e.1.proposal.priority) ||
        e.1.proposal.informational) := by
  obtain ⟨listed, rfl⟩ := ((partition_ranked kind ps).members e).mp member
  obtain ⟨w, foremost⟩ := exists_foremost listed
  rw [outcomeOf_foremost foremost listed, foremost.head]
  by_cases same : w = e
  · simp [same, keepsReason]
  · rw [if_neg same]
    split <;> simp_all [keepsReason]

theorem kept_of_kind (kind : ProposalKind) (ps : List Collected) (suppressed : Bool) :
    ((partition kind ps).filter fun e => keepsReason (outcomeIn ps suppressed e)).map
        (·.1.proposal.reason) =
      if kind == .transition && suppressed then []
      else (contenders kind ps).map (·.proposal.reason) := by
  have outcome (e : Collected × Nat) (member : e ∈ partition kind ps) : outcomeIn ps suppressed e =
      outcomeOf (partition kind ps).head? (kind == .transition && suppressed) e := by
    have ofKind := (mem_partition.mp member).2
    subst ofKind
    exact outcomeIn_kind ps suppressed e
  split
  · rename_i aside
    rw [List.filter_eq_nil_iff.mpr, List.map_nil]
    intro e member
    simp [outcome e member, aside, outcomeOf, keepsReason]
  · rename_i free
    unfold contenders
    rw [List.filter_map, List.map_map]
    refine congrArg _ (List.filter_congr fun e member => ?_)
    rw [outcome e member, eq_false_of_ne_true free]
    exact kept_contends member

theorem keptReasons_contenders (ps : List Collected) (suppressed : Bool) :
    keptReasons ps suppressed = (contenders .action ps).map (·.proposal.reason) ++
      if suppressed then [] else (contenders .transition ps).map (·.proposal.reason) := by
  unfold keptReasons
  rw [List.filter_append, List.map_append, kept_of_kind, kept_of_kind]
  rfl

structure Agreeing (d d' : Decision) : Prop where
  action : d'.action = d.action
  nextState : d'.nextState = d.nextState
  reasons : d'.reasons = d.reasons
  transitionsSuppressed : d'.transitionsSuppressed = d.transitionsSuppressed
  winningSource : d'.winningSource = d.winningSource

theorem resolves_agreeing {current : String} {defaultAction : Option String} {d : Decision}
    (resolved : resolve ps current defaultAction = .ok d)
    (actions : contenders .action qs = contenders .action ps)
    (transitions : d.transitionsSuppressed = false →
      contenders .transition qs = contenders .transition ps) :
    ∃ d', resolve qs current defaultAction = .ok d' ∧ Agreeing d d' := by
  obtain ⟨lead, leads, led⟩ := resolved_led resolved
  have tagged (rs : List Collected) : (partition .action rs).head?.map (fun e => tag e.1) =
      (contenders .action rs).head?.map tag := by
    rw [contenders_head?, Option.map_map]
    rfl
  have heads : (partition .action qs).head?.map (fun e => tag e.1) =
      (partition .action ps).head?.map fun e => tag e.1 := by
    rw [tagged, tagged, actions]
  have leads' := (lead_congr heads defaultAction).trans leads
  obtain ⟨d', resolved', led'⟩ := resolves_led leads' current
  rw [led.suppressed] at transitions
  refine ⟨d', resolved', led'.action.trans led.action.symm, ?next, ?reasons,
    led'.suppressed.trans led.suppressed.symm, led'.winningSource.trans led.winningSource.symm⟩
  case next =>
    rw [led.nextState, led'.nextState, nextState_head, nextState_head]
    cases combinable : lead.combinable with
    | false => rfl
    | true =>
      have same := transitions (by rw [combinable]; rfl)
      have value (rs : List Collected) : (partition .transition rs).head?.map
          (fun e => e.1.proposal.value) = (contenders .transition rs).head?.map (·.proposal.value) := by
        rw [contenders_head?, Option.map_map]
        rfl
      rw [value, value, same]
  case reasons =>
    rw [led.reasons, led'.reasons, keptReasons_contenders, keptReasons_contenders, actions]
    cases combinable : lead.combinable with
    | false => rfl
    | true => rw [transitions (by rw [combinable]; rfl)]

-- What a list is thinned out to, where the winner of a kind has this priority.
def contends (kind : ProposalKind) (priority : Priority) (c : Collected) : Bool :=
  c.proposal.kind == kind && (priority == c.proposal.priority || c.proposal.informational)

theorem partition_unplaced (kind : ProposalKind) (ps : List Collected) :
    (partition kind ps).map (·.1) = (ps.filter (·.proposal.kind == kind)).mergeSort
      fun a b => (compareCollected a b).isLE := by
  have kept : (ps.zipIdx.filter (·.1.proposal.kind == kind)).map (·.1) =
      ps.filter (·.proposal.kind == kind) := by
    conv => rhs; rw [← List.zipIdx_map_fst 0 ps, List.filter_map]
    rfl
  rw [← kept]
  exact List.map_mergeSort fun _ _ _ _ => rfl

theorem contenders_sorted {kind : ProposalKind} {w : Collected × Nat}
    (head : (partition kind ps).head? = some w) :
    contenders kind ps = (ps.filter (contends kind w.1.proposal.priority)).mergeSort
      fun a b => (compareCollected a b).isLE := by
  unfold contenders
  rw [head, partition_unplaced, filter_mergeSort compareCollected_trans compareCollected_total,
    List.filter_filter]
  congr 2
  funext c
  exact Bool.and_comm _ _

theorem contenders_nil {kind : ProposalKind} (unproposed : Unproposed kind ps) :
    contenders kind ps = [] := by
  have none := partition_none.mpr unproposed
  unfold contenders
  rw [List.head?_eq_none_iff.mp none]
  rfl

theorem Foremost.highest {kind : ProposalKind} {w : Collected × Nat} (foremost : Foremost kind ps w)
    {c : Collected} (member : c ∈ ps) (ofKind : c.proposal.kind = kind) :
    c.proposal.priority.level ≤ w.1.proposal.priority.level := by
  obtain ⟨position, listed⟩ := List.mem_iff_getElem?.mp member
  by_cases own : position = w.2
  · rw [own, foremost.listed] at listed
    exact Nat.le_of_eq (by rw [Option.some.inj listed])
  · have before := (before_iff _ _).mp (foremost.first c position listed ofKind own)
    have ranked : (compareCollected w.1 c).isLE = true := before.1
    rw [compareCollected_isLE] at ranked
    omega

theorem contenders_same {kind : ProposalKind} {w : Collected × Nat} (foremost : Foremost kind ps w)
    (bounded : ∀ c ∈ qs, c.proposal.kind = kind →
      c.proposal.priority.level ≤ w.1.proposal.priority.level)
    (same : qs.filter (contends kind w.1.proposal.priority) =
      ps.filter (contends kind w.1.proposal.priority)) :
    contenders kind qs = contenders kind ps := by
  have stays : w.1 ∈ qs := by
    have kept : w.1 ∈ ps.filter (contends kind w.1.proposal.priority) :=
      List.mem_filter.mpr ⟨List.mem_of_getElem? foremost.listed, by simp [contends, foremost.ofKind]⟩
    exact (List.mem_filter.mp (same ▸ kept)).1
  cases head : (partition kind qs).head? with
  | none => exact absurd foremost.ofKind (partition_none.mp head w.1 stays)
  | some v =>
    have first := partition_foremost head
    have above := first.highest stays foremost.ofKind
    have below := bounded v.1 (List.mem_of_getElem? first.listed) first.ofKind
    have level := Priority.level_injective (Nat.le_antisymm below above)
    rw [contenders_sorted head, contenders_sorted foremost.head, level, same]

end Contenders

-- One list becomes another: members are left out, each with what had become of it, and others put
-- in, at any places.
inductive Revised (droppable : TraceEntry → Prop) (addable : Collected → Prop) :
    List (Collected × TraceEntry) → List Collected → Prop where
  | nothing : Revised droppable addable [] []
  | keeps (rest : Revised droppable addable es qs) :
      Revised droppable addable ((c, t) :: es) (c :: qs)
  | drops (may : droppable t) (rest : Revised droppable addable es qs) :
      Revised droppable addable ((c, t) :: es) qs
  | adds (may : addable c) (rest : Revised droppable addable es qs) :
      Revised droppable addable es (c :: qs)

-- A proposal that was overridden or set aside, or any transition where they are all set aside.
inductive Idle (held : Bool) (t : TraceEntry) : Prop where
  | overridden (outcome : t.outcome = .overridden) : Idle held t
  | suppressed (outcome : t.outcome = .suppressed) : Idle held t
  | aside (moves : t.kind = .transition) (holds : held = true) : Idle held t

-- A plain proposal below the winner of its kind, or any transition where they are all set aside.
inductive Harmless (ps : List Collected) (held : Bool) (c : Collected) : Prop where
  | lower (foremost : Foremost c.proposal.kind ps w)
      (below : c.proposal.priority.level < w.1.proposal.priority.level)
      (plain : c.proposal.informational = false) : Harmless ps held c
  | aside (moves : c.proposal.kind = .transition) (holds : held = true) : Harmless ps held c

section Revisions

variable {ps qs : List Collected}

namespace Revised

variable {droppable : TraceEntry → Prop} {addable : Collected → Prop}
  {es : List (Collected × TraceEntry)}

theorem mem_or_added (revised : Revised droppable addable es qs) {c : Collected} (member : c ∈ qs) :
    c ∈ es.map (·.1) ∨ addable c := by
  induction revised with
  | nothing => cases member
  | keeps _ ih =>
    rcases List.mem_cons.mp member with rfl | later
    · exact .inl List.mem_cons_self
    · exact (ih later).imp_left (List.mem_cons_of_mem _)
  | drops _ _ ih => exact (ih member).imp_left (List.mem_cons_of_mem _)
  | adds may _ ih =>
    rcases List.mem_cons.mp member with rfl | later
    · exact .inr may
    · exact ih later

theorem filter_same {p : Collected → Bool} (revised : Revised droppable addable es qs)
    (dropped : ∀ e ∈ es, droppable e.2 → p e.1 = false) (added : ∀ c, addable c → p c = false) :
    qs.filter p = (es.map (·.1)).filter p := by
  induction revised with
  | nothing => rfl
  | keeps _ ih =>
    have rest := ih fun e member => dropped e (List.mem_cons_of_mem _ member)
    rw [List.map_cons, List.filter_cons, List.filter_cons, rest]
  | @drops t es qs c may _ ih =>
    have rest := ih fun e member => dropped e (List.mem_cons_of_mem _ member)
    have off := dropped (c, t) List.mem_cons_self may
    rw [List.map_cons, List.filter_cons_of_neg (by simp [off]), rest]
  | adds may _ ih =>
    rw [List.filter_cons_of_neg (by simp [added _ may]), ih dropped]

end Revised

theorem harmless_weak {held : Bool} {kind : ProposalKind} {w : Collected × Nat}
    (foremost : Foremost kind ps w) (free : kind = .transition → held = false) {c : Collected}
    (harmless : Harmless ps held c) : contends kind w.1.proposal.priority c = false := by
  by_cases ofKind : c.proposal.kind = kind
  · subst ofKind
    cases harmless with
    | lower first below plain =>
      cases foremost.unique first
      have apart : w.1.proposal.priority ≠ c.proposal.priority := by
        intro same
        rw [same] at below
        exact Nat.lt_irrefl _ below
      simp [contends, apart, plain]
    | aside moves holds => simp [free moves] at holds
  · simp [contends, ofKind]

theorem idle_weak {held : Bool} {kind : ProposalKind} {w e : Collected × Nat} {t : TraceEntry}
    (foremost : Foremost kind ps w) (free : kind = .transition → held = false)
    (same : t.kind = e.1.proposal.kind) (fares : Fares ps held e t.outcome) (idle : Idle held t) :
    contends kind w.1.proposal.priority e.1 = false := by
  by_cases ofKind : e.1.proposal.kind = kind
  · subst ofKind
    generalize outcome : t.outcome = o at fares
    cases fares with
    | suppressed moves holds => simp [free moves] at holds
    | overridden _ first lost lower silent =>
      cases foremost.unique first
      simp [contends, lower, silent]
    | won | retained =>
      cases idle with
      | overridden gone | suppressed gone => simp [gone] at outcome
      | aside moves holds => simp [free (same ▸ moves)] at holds
  · simp [contends, ofKind]

theorem revised_same {held : Bool} {trace : List TraceEntry} {kind : ProposalKind}
    (traced : trace = ps.zipIdx.map fun e => traceEntry e.1 (outcomeIn ps held e))
    (free : kind = .transition → held = false)
    (revised : Revised (Idle held) (Harmless ps held) (ps.zip trace) qs) :
    contenders kind qs = contenders kind ps := by
  have length : trace.length = ps.length := by
    rw [traced, List.length_map, List.length_zipIdx]
  have whole : (ps.zip trace).map (·.1) = ps := List.map_fst_zip (Nat.le_of_eq length.symm)
  have origin {c : Collected} (member : c ∈ qs) : c ∈ ps ∨ Harmless ps held c := by
    have known := revised.mem_or_added member
    rwa [whole] at known
  cases head : (partition kind ps).head? with
  | none =>
    have unproposed := partition_none.mp head
    rw [contenders_nil unproposed, contenders_nil]
    intro c member ofKind
    rcases origin member with old | new
    · exact unproposed c old ofKind
    · cases new with
      | lower first => exact first.proposed (ofKind ▸ unproposed)
      | aside moves holds => simp [free (ofKind ▸ moves)] at holds
  | some w =>
    have foremost := partition_foremost head
    apply contenders_same foremost
    · intro c member ofKind
      rcases origin member with old | new
      · exact foremost.highest old ofKind
      · cases new with
        | lower first below plain =>
          subst ofKind
          cases foremost.unique first
          exact Nat.le_of_lt below
        | aside moves holds => simp [free (ofKind ▸ moves)] at holds
    · have dropped (e : Collected × TraceEntry) (member : e ∈ ps.zip trace)
          (idle : Idle held e.2) : contends kind w.1.proposal.priority e.1 = false := by
        obtain ⟨position, listed⟩ := List.mem_iff_getElem?.mp member
        obtain ⟨here, there⟩ := List.getElem?_zip_eq_some.mp listed
        have entry : e.2 = traceEntry e.1 (outcomeIn ps held (e.1, position)) := by
          rw [traced, List.getElem?_map, List.getElem?_zipIdx, here] at there
          simpa using (Option.some.inj there).symm
        have outcome : e.2.outcome = outcomeIn ps held (e.1, position) := by rw [entry]; rfl
        have fares := (fares_iff (e := (e.1, position)) here _).mpr outcome
        exact idle_weak foremost free (by rw [entry]; rfl) fares idle
      have filtered := revised.filter_same dropped fun c => harmless_weak foremost free
      rwa [whole] at filtered

end Revisions

theorem irrelevant_alternatives {ps qs : List Collected} {current : String}
    {defaultAction : Option String} {d : Decision}
    (resolved : resolve ps current defaultAction = .ok d)
    (revised : Revised (Idle d.transitionsSuppressed) (Harmless ps d.transitionsSuppressed)
      (ps.zip d.trace) qs) :
    ∃ d', resolve qs current defaultAction = .ok d' ∧ Agreeing d d' := by
  obtain ⟨lead, _, led⟩ := resolved_led resolved
  have traced := led.trace
  rw [← led.suppressed] at traced
  apply resolves_agreeing resolved
  · exact revised_same traced nofun revised
  · intro free
    exact revised_same traced (fun _ => free) revised

def offered : Collected where
  source := "offers"
  sourceIndex := 0
  seq := 7
  proposal := .action { action := "offer", priority := .normal, reason := "offer" }

def drifted : Collected where
  source := "offers"
  sourceIndex := 0
  seq := 8
  proposal := .transition { target := "street", priority := .low, rank := 1, reason := "drift" }

def reviewed : List Collected := [offered, answered, drifted, moved, remarked]

theorem inquiry_undisturbed : ∃ d d', resolve inquiry "lobby" none = .ok d ∧
    resolve reviewed "lobby" none = .ok d' ∧ Agreeing d d' ∧ d'.reasons = ["question", "aside"] := by
  obtain ⟨d, resolved, free, reasons, trace⟩ := inquiry_resolved
  have action : Foremost .action inquiry (answered, 1) := partition_foremost (by decide_cbv)
  have transition : Foremost .transition inquiry (moved, 3) := partition_foremost (by decide_cbv)
  have revised : Revised (Idle d.transitionsSuppressed) (Harmless inquiry d.transitionsSuppressed)
      (inquiry.zip d.trace) reviewed := by
    rw [trace]
    apply Revised.drops (.overridden rfl)
    apply Revised.adds (.lower action (by decide) rfl)
    apply Revised.keeps
    apply Revised.drops (.overridden rfl)
    apply Revised.adds (.lower transition (by decide) rfl)
    exact .keeps (.keeps .nothing)
  obtain ⟨d', resolved', agreeing⟩ := irrelevant_alternatives resolved revised
  exact ⟨d, d', resolved, resolved', agreeing, agreeing.reasons.trans reasons⟩

end Resolution

end Colloquy
