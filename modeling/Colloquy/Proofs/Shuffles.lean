import Colloquy.Proofs.Alternatives
import Mathlib.Data.List.Pairwise

/-!
Proposals in an order of their own: where no two share a source and an emission, the place in the
list breaks no ties.
-/
namespace Colloquy.Resolution

-- No two proposals of a kind have both their source and their emission in common.
def Apart (ps : List Collected) : Prop :=
  ps.Pairwise fun a b =>
    a.proposal.kind = b.proposal.kind → (a.sourceIndex, a.seq) ≠ (b.sourceIndex, b.seq)

instance (ps : List Collected) : Decidable (Apart ps) :=
  inferInstanceAs (Decidable (List.Pairwise _ _))

-- The members of a list by their positions, in the order of these.
def inOrder (order : List Nat) (l : List α) : List α := order.filterMap fun position => l[position]?

-- Decisions on the same proposals in two orders.
structure Shuffled (order : List Nat) (ps : List Collected) (d d' : Decision) : Prop where
  agreeing : Agreeing d d'
  trace : d'.trace = inOrder order d.trace
  entries : (inOrder order ps).zip d'.trace = inOrder order (ps.zip d.trace)

theorem inOrder_map (f : α → β) (order : List Nat) (l : List α) :
    inOrder order (l.map f) = (inOrder order l).map f := by
  unfold inOrder
  rw [List.map_filterMap]
  simp only [List.getElem?_map]

theorem inOrder_range (l : List α) : inOrder (List.range l.length) l = l := by
  induction l with
  | nil => rfl
  | cons a rest ih =>
    have later : inOrder ((List.range rest.length).map Nat.succ) (a :: rest) =
        inOrder (List.range rest.length) rest := by
      unfold inOrder
      rw [List.filterMap_map]
      rfl
    rw [List.length_cons, List.range_succ_eq_map]
    unfold inOrder at later ih ⊢
    rw [List.filterMap_cons, later, ih]
    rfl

theorem inOrder_perm {order : List Nat} {l : List α} (perm : order.Perm (List.range l.length)) :
    (inOrder order l).Perm l := by
  have moved : (inOrder order l).Perm (inOrder (List.range l.length) l) := perm.filterMap _
  rwa [inOrder_range] at moved

section Apart

variable {ps qs : List Collected}

theorem Apart.perm (apart : Apart ps) (perm : ps.Perm qs) : Apart qs := by
  refine perm.pairwise apart ?_
  intro a b differ same equal
  exact differ same.symm equal.symm

theorem Apart.nodup (apart : Apart ps) : ps.Nodup := by
  apply List.Pairwise.imp _ apart
  rintro a _ differ rfl
  exact differ rfl rfl

theorem Apart.equal (apart : Apart ps) {a b : Collected} (here : a ∈ ps) (there : b ∈ ps)
    (kind : a.proposal.kind = b.proposal.kind) (source : a.sourceIndex = b.sourceIndex)
    (emission : a.seq = b.seq) : a = b := by
  by_contra differ
  have symmetric : Std.Symm fun a b : Collected =>
      a.proposal.kind = b.proposal.kind → (a.sourceIndex, a.seq) ≠ (b.sourceIndex, b.seq) :=
    ⟨fun _ _ differ same equal => differ same.symm equal.symm⟩
  exact apart.forall here there differ kind (Prod.ext source emission)

-- The order of a kind is strict, so sorting leaves nothing to the order of the list.
theorem partition_shuffled (apart : Apart ps) (perm : ps.Perm qs) (kind : ProposalKind) :
    (partition kind qs).map (·.1) = (partition kind ps).map (·.1) := by
  let le (a b : Collected) : Bool := (compareCollected a b).isLE
  have sorted (rs : List Collected) : (rs.mergeSort le).Pairwise fun a b => le a b = true :=
    List.pairwise_mergeSort compareCollected_trans compareCollected_total rs
  have listed {rs : List Collected} {c : Collected}
      (member : c ∈ (rs.filter (·.proposal.kind == kind)).mergeSort le) :
      c ∈ rs ∧ c.proposal.kind = kind := by
    simpa using member
  rw [partition_unplaced, partition_unplaced]
  apply List.Perm.eq_of_pairwise ?antisymm (sorted _) (sorted _)
  · apply (List.mergeSort_perm _ _).trans
    apply List.Perm.trans _ (List.mergeSort_perm _ _).symm
    exact (perm.filter _).symm
  case antisymm =>
    intro a b there here below above
    obtain ⟨member, ofKind⟩ := listed there
    obtain ⟨member', ofKind'⟩ := listed here
    simp only [le, compareCollected_isLE] at below above
    apply apart.equal (perm.mem_iff.mpr member) member' (ofKind.trans ofKind'.symm) <;> omega

theorem contenders_shuffled (apart : Apart ps) (perm : ps.Perm qs) (kind : ProposalKind) :
    contenders kind qs = contenders kind ps := by
  have head (rs : List Collected) (priority : Priority) :
      (partition kind rs).head?.any (·.1.proposal.priority == priority) =
        ((partition kind rs).map (·.1)).head?.any (·.proposal.priority == priority) := by
    rw [List.head?_map, Option.any_map]
  unfold contenders
  simp only [head, partition_shuffled apart perm kind]

theorem reordered_shuffled (apart : Apart ps) (perm : ps.Perm qs) : Reordered id ps qs := by
  have marked {rs : List Collected} (distinct : rs.Nodup) : Marked id rs := by
    intro kind w head e member _ same
    have listed := (partition_foremost head).listed
    have here := List.mem_zipIdx_iff_getElem?.mp member
    obtain ⟨inside, _⟩ := List.getElem?_eq_some_iff.mp here
    change e.1 = w.1 at same
    rw [same] at here
    exact (List.getElem?_inj inside distinct).mp (here.trans listed.symm)
  constructor
  case telling =>
    rintro a _ rfl
    rfl
  case perm => simpa using perm
  case heads =>
    intro kind
    have same := congrArg List.head? (partition_shuffled apart perm kind)
    simpa using same.symm
  case marked => exact marked apart.nodup
  case marked' => exact marked (apart.perm perm).nodup

-- What a trace says of a proposal, wherever it stands in the list.
theorem traced_shuffled (apart : Apart ps) (perm : ps.Perm qs) (held : Bool) :
    ∃ entry : Collected → TraceEntry,
      (ps.zipIdx.map fun e => traceEntry e.1 (outcomeIn ps held e)) = ps.map entry ∧
      (qs.zipIdx.map fun e => traceEntry e.1 (outcomeIn qs held e)) = qs.map entry := by
  have placed {c : Collected} (member : c ∈ ps) : (c, ps.idxOf c) ∈ ps.zipIdx := by
    apply List.mem_zipIdx_iff_getElem?.mpr
    apply List.getElem?_eq_some_iff.mpr
    exact ⟨List.idxOf_lt_length_of_mem member, List.getElem_idxOf _⟩
  have unplaced {rs : List Collected} (entry : Collected → TraceEntry)
      (same : ∀ e ∈ rs.zipIdx, traceEntry e.1 (outcomeIn rs held e) = entry e.1) :
      (rs.zipIdx.map fun e => traceEntry e.1 (outcomeIn rs held e)) = rs.map entry := by
    rw [List.map_congr_left same]
    conv => rhs; rw [← List.zipIdx_map_fst 0 rs, List.map_map]
    rfl
  refine ⟨fun c => traceEntry c (outcomeIn ps held (c, ps.idxOf c)), unplaced _ ?_, unplaced _ ?_⟩
  · intro e member
    have here := placed (List.fst_mem_of_mem_zipIdx member)
    have own := (reordered_shuffled apart (.refl ps)).outcomeIn_same member here rfl held
    rw [own]
  · intro e member
    have here := placed (perm.mem_iff.mpr (List.fst_mem_of_mem_zipIdx member))
    rw [(reordered_shuffled apart perm).outcomeIn_same here member rfl held]

end Apart

theorem resolve_shuffled {ps : List Collected} (apart : Apart ps) {order : List Nat}
    (perm : order.Perm (List.range ps.length)) (current : String) (defaultAction : Option String) :
    (∃ e, resolve ps current defaultAction = .error e ∧
      resolve (inOrder order ps) current defaultAction = .error e) ∨
    ∃ d d', resolve ps current defaultAction = .ok d ∧
      resolve (inOrder order ps) current defaultAction = .ok d' ∧ Shuffled order ps d d' := by
  have moved : ps.Perm (inOrder order ps) := (inOrder_perm perm).symm
  rcases (reordered_shuffled apart moved).resolves current defaultAction with
    failed | ⟨d, _, resolved, _⟩
  · exact .inl ⟨_, failed⟩
  right
  obtain ⟨d', resolved', agreeing⟩ := resolves_agreeing resolved
    (contenders_shuffled apart moved .action) fun _ => contenders_shuffled apart moved .transition
  obtain ⟨lead, _, led⟩ := resolved_led resolved
  obtain ⟨lead', _, led'⟩ := resolved_led resolved'
  -- Decisions that agree were both led by something combinable, or neither was.
  have held : (!lead'.combinable) = !lead.combinable := by
    rw [← led.suppressed, ← led'.suppressed, agreeing.transitionsSuppressed]
  obtain ⟨entry, before, after⟩ := traced_shuffled apart moved (!lead.combinable)
  have trace : d.trace = ps.map entry := led.trace.trans before
  have trace' : d'.trace = (inOrder order ps).map entry := by
    rw [led'.trace, held, after]
  refine ⟨d, d', resolved, resolved', agreeing, ?trace, ?entries⟩
  case trace => rw [trace, trace', inOrder_map]
  case entries =>
    have paired (rs : List Collected) : rs.zip (rs.map entry) = rs.map fun c => (c, entry c) := by
      rw [← List.zip_map']
      simp
    rw [trace, trace', paired, paired, inOrder_map]

theorem inquiry_shuffled : Apart inquiry ∧ [3, 0, 4, 2, 1].Perm (List.range inquiry.length) ∧
    inOrder [3, 0, 4, 2, 1] inquiry = [moved, carriedOn, remarked, stayed, answered] ∧
    ∃ d d', resolve inquiry "lobby" none = .ok d ∧
      resolve (inOrder [3, 0, 4, 2, 1] inquiry) "lobby" none = .ok d' ∧
      Shuffled [3, 0, 4, 2, 1] inquiry d d' ∧ d'.reasons = ["question", "aside"] := by
  have apart : Apart inquiry := by decide
  have perm : [3, 0, 4, 2, 1].Perm (List.range inquiry.length) := by decide
  obtain ⟨d, resolved, _, reasons, _⟩ := inquiry_resolved
  refine ⟨apart, perm, rfl, ?_⟩
  rcases resolve_shuffled apart perm "lobby" none with
    ⟨e, failed, _⟩ | ⟨d₁, d', resolved₁, resolved', shuffled⟩
  · rw [failed] at resolved
    cases resolved
  · cases Except.ok.inj (resolved.symm.trans resolved₁)
    exact ⟨d, d', resolved, resolved', shuffled, shuffled.agreeing.reasons.trans reasons⟩

end Colloquy.Resolution
