import Colloquy.Proofs.Winners

/-!
The same proposals in another order. A mark is what is kept of a proposal when its place is
forgotten, or part of its place.
-/
namespace Colloquy

-- What the marks alone determine moves along with them.
theorem perm_along {m : α → β} {m' : α' → β} {g : α → γ} {g' : α' → γ} {l : List α}
    {l' : List α'} (perm : (l.map m).Perm (l'.map m'))
    (same : ∀ a ∈ l, ∀ b ∈ l', m a = m' b → g a = g' b) :
    (l.map fun a => (m a, g a)).Perm (l'.map fun b => (m' b, g' b)) := by
  induction l generalizing l' with
  | nil =>
    have none : l' = [] := List.map_eq_nil_iff.mp perm.nil_eq.symm
    subst none
    exact .nil
  | cons a rest ih =>
    obtain ⟨b, member, marked⟩ := List.mem_map.mp (perm.mem_iff.mp List.mem_cons_self)
    obtain ⟨before, after, rfl⟩ := List.append_of_mem member
    have moved (x : α') : x ∈ before ++ b :: after ↔ x ∈ b :: (before ++ after) :=
      List.perm_middle.mem_iff
    have others : (rest.map m).Perm ((before ++ after).map m') := by
      have both := perm.trans (List.perm_middle.map m')
      rw [List.map_cons, List.map_cons, marked] at both
      exact both.cons_inv
    have told := ih others fun x here y there =>
      same x (List.mem_cons_of_mem _ here) y ((moved y).mpr (List.mem_cons_of_mem _ there))
    have first : (m a, g a) = (m' b, g' b) :=
      Prod.ext marked.symm (same a List.mem_cons_self b member marked.symm)
    rw [List.map_cons, first]
    exact (told.cons _).trans (List.perm_middle.map fun b => (m' b, g' b)).symm

namespace Resolution

theorem mem_keptReasons {ps : List Collected} {suppressed : Bool} {reason : String} :
    reason ∈ keptReasons ps suppressed ↔ ∃ e ∈ ps.zipIdx,
      keepsReason (outcomeIn ps suppressed e) = true ∧ e.1.proposal.reason = reason := by
  unfold keptReasons
  simp only [List.mem_map, List.mem_filter, List.mem_append, mem_partition, and_assoc]
  apply exists_congr
  intro e
  cases e.1.proposal.kind <;> simp

theorem mem_foldl_addReason {reasons more : List String} {reason : String} :
    reason ∈ more.foldl addReason reasons ↔ reason ∈ reasons ∨ reason ∈ more := by
  induction more generalizing reasons with
  | nil => simp
  | cons first rest ih =>
    have added : reason ∈ addReason reasons first ↔ reason ∈ reasons ∨ reason = first := by
      unfold addReason
      split
      · rename_i listed
        have there : first ∈ reasons := List.contains_iff_mem.mp listed
        exact ⟨.inl, fun new => new.elim id fun same => same ▸ there⟩
      · rw [List.mem_append, List.mem_singleton]
    rw [List.foldl_cons, ih, added, List.mem_cons, or_assoc]

theorem head?_foldl_addReason (first : String) (more rest : List String) :
    (more.foldl addReason (first :: rest)).head? = some first := by
  induction more generalizing rest with
  | nil => rfl
  | cons reason more ih =>
    rw [List.foldl_cons]
    unfold addReason
    split
    · exact ih rest
    · exact ih (rest ++ [reason])

-- Decisions that are the same but for the order of what is listed in them.
structure Matching (mark : Collected → β) (ps ps' : List Collected) (d d' : Decision) : Prop where
  action : d.action = d'.action
  nextState : d.nextState = d'.nextState
  winningSource : d.winningSource = d'.winningSource
  transitionsSuppressed : d.transitionsSuppressed = d'.transitionsSuppressed
  degraded : d.degraded = d'.degraded
  firstReason : d.reasons.head? = d'.reasons.head?
  reasons : ∀ reason, reason ∈ d.reasons ↔ reason ∈ d'.reasons
  trace : d.trace.Perm d'.trace
  -- Each proposal, under its mark, has the same entry in both traces.
  entries : ((ps.map mark).zip d.trace).Perm ((ps'.map mark).zip d'.trace)

theorem Matching.refl (mark : Collected → β) (ps : List Collected) (d : Decision) :
    Matching mark ps ps d d :=
  ⟨rfl, rfl, rfl, rfl, rfl, rfl, fun _ => Iff.rfl, .refl _, .refl _⟩

-- No other proposal of its kind bears the mark of a winner.
def Marked (mark : Collected → β) (ps : List Collected) : Prop :=
  ∀ kind w, (partition kind ps).head? = some w →
    ∀ e ∈ ps.zipIdx, e.1.proposal.kind = kind → mark e.1 = mark w.1 → e.2 = w.2

structure Reordered (mark : Collected → β) (ps ps' : List Collected) : Prop where
  telling : ∀ a b, mark a = mark b → tag a = tag b
  perm : (ps.map mark).Perm (ps'.map mark)
  heads : ∀ kind, (partition kind ps).head?.map (fun e => mark e.1) =
    (partition kind ps').head?.map (fun e => mark e.1)
  marked : Marked mark ps
  marked' : Marked mark ps'

namespace Reordered

variable {mark : Collected → β} {ps ps' : List Collected} (same : Reordered mark ps ps')
include same

theorem head_none {kind : ProposalKind} (unled : (partition kind ps).head? = none) :
    (partition kind ps').head? = none := by
  have heads := same.heads kind
  rw [unled] at heads
  exact Option.map_eq_none_iff.mp heads.symm

theorem head_some {kind : ProposalKind} {w : Collected × Nat}
    (led : (partition kind ps).head? = some w) :
    ∃ w', (partition kind ps').head? = some w' ∧ mark w'.1 = mark w.1 := by
  have heads := same.heads kind
  rw [led] at heads
  exact Option.map_eq_some_iff.mp heads.symm

theorem heads_tag (kind : ProposalKind) :
    (partition kind ps).head?.map (fun e => tag e.1) =
      (partition kind ps').head?.map (fun e => tag e.1) := by
  cases one : (partition kind ps).head? with
  | none => rw [same.head_none one]
  | some w =>
    obtain ⟨w', other, marks⟩ := same.head_some one
    rw [other]
    exact congrArg some (same.telling _ _ marks.symm)

theorem outcomeOf_same {kind : ProposalKind} {e e' : Collected × Nat} (here : e ∈ ps.zipIdx)
    (there : e' ∈ ps'.zipIdx) (alike : mark e.1 = mark e'.1) (ofKind : e.1.proposal.kind = kind)
    (suppressed : Bool) : outcomeOf (partition kind ps).head? suppressed e =
      outcomeOf (partition kind ps').head? suppressed e' := by
  have told (a b : Collected) (eq : mark a = mark b) : a.proposal = b.proposal :=
    congrArg Prod.snd (same.telling a b eq)
  have proposal := told _ _ alike
  unfold outcomeOf
  rw [proposal]
  cases one : (partition kind ps).head? with
  | none =>
    rw [same.head_none one]
    rfl
  | some w =>
    obtain ⟨w', other, marks⟩ := same.head_some one
    -- The mark of a winner is borne by nobody else, so it tells its position.
    have won : (w.2 == e.2) = (w'.2 == e'.2) := by
      have place {qs : List Collected} {v f : Collected × Nat} (first : v ∈ qs.zipIdx)
          (second : f ∈ qs.zipIdx) (position : v.2 = f.2) : v.1 = f.1 := by
        rw [List.mem_zipIdx_iff_getElem?] at first second
        rw [position, second] at first
        exact (Option.some.inj first).symm
      have listed := (mem_partition.mp (List.mem_of_head? one)).1
      have listed' := (mem_partition.mp (List.mem_of_head? other)).1
      rw [Bool.eq_iff_iff, beq_iff_eq, beq_iff_eq]
      constructor
      · intro position
        have bears : mark e'.1 = mark w'.1 := by
          rw [← alike, marks, place listed here position]
        have ofKind' : e'.1.proposal.kind = kind := by rw [← proposal, ofKind]
        exact (same.marked' kind w' other e' there ofKind' bears).symm
      · intro position
        have bears : mark e.1 = mark w.1 := by
          rw [alike, ← marks, place listed' there position]
        exact (same.marked kind w one e here ofKind bears).symm
    simp only [other, Option.any_some, won, told _ _ marks]

theorem outcomeIn_same {e e' : Collected × Nat} (here : e ∈ ps.zipIdx) (there : e' ∈ ps'.zipIdx)
    (alike : mark e.1 = mark e'.1) (suppressed : Bool) :
    outcomeIn ps suppressed e = outcomeIn ps' suppressed e' := by
  have proposal : e.1.proposal = e'.1.proposal := congrArg Prod.snd (same.telling _ _ alike)
  unfold outcomeIn
  rw [← proposal]
  cases kind : e.1.proposal.kind with
  | action => exact same.outcomeOf_same here there alike kind false
  | transition => exact same.outcomeOf_same here there alike kind suppressed

theorem nextState_same (combinable : Bool) (current : String) :
    nextState combinable (partition .transition ps).head? current =
      nextState combinable (partition .transition ps').head? current := by
  have values (kind : ProposalKind) (qs : List Collected) :
      (partition kind qs).head?.map (fun e => e.1.proposal.value) =
        ((partition kind qs).head?.map fun e => tag e.1).map fun t => t.2.value := by
    rw [Option.map_map]
    rfl
  rw [nextState_head, nextState_head, values, values, same.heads_tag]

theorem symm : Reordered mark ps' ps :=
  ⟨same.telling, same.perm.symm, fun kind => (same.heads kind).symm, same.marked', same.marked⟩

theorem keptReasons_same {suppressed : Bool} {reason : String}
    (kept : reason ∈ keptReasons ps suppressed) : reason ∈ keptReasons ps' suppressed := by
  obtain ⟨e, here, keeps, rfl⟩ := mem_keptReasons.mp kept
  have listed : mark e.1 ∈ ps.map mark := List.mem_map_of_mem (List.fst_mem_of_mem_zipIdx here)
  obtain ⟨c, member, alike⟩ := List.mem_map.mp (same.perm.mem_iff.mp listed)
  obtain ⟨position, place⟩ := List.mem_iff_getElem?.mp member
  have there : (c, position) ∈ ps'.zipIdx := List.mem_zipIdx_iff_getElem?.mpr place
  have outcome := same.outcomeIn_same here there alike.symm suppressed
  have proposal : c.proposal = e.1.proposal := congrArg Prod.snd (same.telling _ _ alike)
  exact mem_keptReasons.mpr ⟨_, there, by rw [← outcome, keeps], congrArg Proposal.reason proposal⟩

theorem entries_same (suppressed : Bool) :
    ((ps.map mark).zip (ps.zipIdx.map fun e => traceEntry e.1 (outcomeIn ps suppressed e))).Perm
      ((ps'.map mark).zip
        (ps'.zipIdx.map fun e => traceEntry e.1 (outcomeIn ps' suppressed e))) := by
  have placed (qs : List Collected) : qs.map mark = qs.zipIdx.map fun e => mark e.1 := by
    conv => lhs; rw [← List.zipIdx_map_fst 0 qs]
    rw [List.map_map]
    rfl
  have perm := same.perm
  rw [placed, placed] at perm
  rw [placed, placed, List.zip_map', List.zip_map']
  apply perm_along perm
  intro e here e' there alike
  have told := same.telling _ _ alike
  have entry (outcome : TraceOutcome) : traceEntry e.1 outcome = traceEntry e'.1 outcome := by
    obtain ⟨source, proposal⟩ := Prod.mk.inj told
    unfold traceEntry
    rw [source, proposal]
  rw [entry, same.outcomeIn_same here there alike suppressed]

theorem resolves (current : String) (defaultAction : Option String) :
    (resolve ps current defaultAction = .error .exhausted ∧
      resolve ps' current defaultAction = .error .exhausted) ∨
    ∃ d d', resolve ps current defaultAction = .ok d ∧
      resolve ps' current defaultAction = .ok d' ∧ Matching mark ps ps' d d' := by
  have leads' := lead_congr (same.heads_tag .action) defaultAction
  cases leads : lead? (partition .action ps).head? defaultAction with
  | none =>
    rw [leads] at leads'
    exact .inl ⟨resolve_leaderless leads current, resolve_leaderless leads'.symm current⟩
  | some lead =>
    rw [leads] at leads'
    obtain ⟨d, resolved, led⟩ := resolves_led leads current
    obtain ⟨d', resolved', led'⟩ := resolves_led leads'.symm current
    have entries := same.entries_same (!lead.combinable)
    rw [← led.trace, ← led'.trace] at entries
    have lengths : d.trace.length = (ps.map mark).length ∧
        d'.trace.length = (ps'.map mark).length := by
      rw [led.trace, led'.trace]
      simp
    refine .inr ⟨d, d', resolved, resolved', ?_⟩
    constructor
    case action => rw [led.action, led'.action]
    case nextState => rw [led.nextState, led'.nextState, same.nextState_same]
    case winningSource => rw [led.winningSource, led'.winningSource]
    case transitionsSuppressed => rw [led.suppressed, led'.suppressed]
    case degraded => rw [led.sound, led'.sound]
    case firstReason => rw [led.reasons, led'.reasons, head?_foldl_addReason, head?_foldl_addReason]
    case reasons =>
      intro reason
      rw [led.reasons, led'.reasons, mem_foldl_addReason, mem_foldl_addReason]
      exact or_congr_right ⟨same.keptReasons_same, same.symm.keptReasons_same⟩
    case trace =>
      have seconds := entries.map Prod.snd
      rwa [List.map_snd_zip (Nat.le_of_eq lengths.1),
        List.map_snd_zip (Nat.le_of_eq lengths.2)] at seconds
    case entries => exact entries

end Reordered

end Resolution

end Colloquy
