import Colloquy.Proofs.Reordering
import Mathlib.Data.List.Permutation

/-! What a decision says of the proposals it was made from. -/
namespace Colloquy.Resolution

-- What becomes of a member of the list, where the winning action may hold the conversation in its
-- state. Informational proposals and those of the winner's priority are retained when they lose.
inductive Fares (ps : List Collected) (held : Bool) (e : Collected × Nat) : TraceOutcome → Prop where
  | suppressed (moves : e.1.proposal.kind = .transition) (holds : held = true) :
      Fares ps held e .suppressed
  | won (free : e.1.proposal.kind = .transition → held = false)
      (foremost : Foremost e.1.proposal.kind ps e) : Fares ps held e .won
  | retained (free : e.1.proposal.kind = .transition → held = false)
      (foremost : Foremost e.1.proposal.kind ps w) (lost : w ≠ e)
      (kept : w.1.proposal.priority = e.1.proposal.priority ∨ e.1.proposal.informational = true) :
      Fares ps held e .retained
  | overridden (free : e.1.proposal.kind = .transition → held = false)
      (foremost : Foremost e.1.proposal.kind ps w) (lost : w ≠ e)
      (lower : w.1.proposal.priority ≠ e.1.proposal.priority)
      (silent : e.1.proposal.informational = false) : Fares ps held e .overridden

structure Repeats (c : Collected) (t : TraceEntry) : Prop where
  source : t.source = c.source
  kind : t.kind = c.proposal.kind
  value : t.value = c.proposal.value
  priority : t.priority = c.proposal.priority
  rank : t.rank = c.proposal.rank
  reason : t.reason = c.proposal.reason

inductive Leads (ps : List Collected) : String → Prop where
  | proposed (foremost : Foremost .action ps e) : Leads ps e.1.proposal.reason
  | default (unproposed : Unproposed .action ps) : Leads ps "default_action"

theorem outcomeIn_kind (ps : List Collected) (held : Bool) (e : Collected × Nat) :
    outcomeIn ps held e = outcomeOf (partition e.1.proposal.kind ps).head?
      (e.1.proposal.kind == .transition && held) e := by
  unfold outcomeIn
  cases e.1.proposal.kind <;> rfl

theorem exists_foremost {ps : List Collected} {e : Collected × Nat} (listed : ps[e.2]? = some e.1) :
    ∃ w, Foremost e.1.proposal.kind ps w := by
  cases head : (partition e.1.proposal.kind ps).head? with
  | none => exact absurd rfl (partition_none.mp head e.1 (List.mem_of_getElem? listed))
  | some w => exact ⟨w, partition_foremost head⟩

-- Where nothing is set aside, the position tells whether a member is the winner.
theorem outcomeOf_foremost {kind : ProposalKind} {ps : List Collected} {w e : Collected × Nat}
    (foremost : Foremost kind ps w) (listed : ps[e.2]? = some e.1) :
    outcomeOf (partition kind ps).head? false e =
      if w = e then .won
      else if w.1.proposal.priority = e.1.proposal.priority ∨ e.1.proposal.informational = true then
        .retained
      else .overridden := by
  have position : w.2 = e.2 ↔ w = e := by
    constructor
    · intro same
      have member := foremost.listed
      rw [same, listed] at member
      exact Prod.ext (Option.some.inj member).symm same
    · exact congrArg Prod.snd
  simp only [foremost.head, outcomeOf, Option.any_some, beq_iff_eq, position, Bool.or_eq_true,
    Bool.false_eq_true, if_false]

theorem fares_iff {ps : List Collected} {held : Bool} {e : Collected × Nat}
    (listed : ps[e.2]? = some e.1) (outcome : TraceOutcome) :
    Fares ps held e outcome ↔ outcome = outcomeIn ps held e := by
  obtain ⟨w, foremost⟩ := exists_foremost listed
  rw [outcomeIn_kind]
  by_cases aside : e.1.proposal.kind = .transition ∧ held = true
  · obtain ⟨moves, holds⟩ := aside
    have suppressed : outcomeOf (partition e.1.proposal.kind ps).head?
        (e.1.proposal.kind == .transition && held) e = .suppressed := by
      simp [moves, holds, outcomeOf]
    rw [suppressed]
    constructor
    · intro fares
      cases fares with
      | suppressed => rfl
      | won free | retained free | overridden free => simp [free moves] at holds
    · rintro rfl
      exact .suppressed moves holds
  · have free : e.1.proposal.kind = .transition → held = false := by simpa using aside
    have open' : (e.1.proposal.kind == .transition && held) = false := by simpa using aside
    rw [open', outcomeOf_foremost foremost listed]
    constructor
    · intro fares
      cases fares with
      | suppressed moves holds => exact absurd ⟨moves, holds⟩ aside
      | won _ first => rw [if_pos (foremost.unique first)]
      | retained _ first lost kept =>
        cases foremost.unique first
        rw [if_neg lost, if_pos kept]
      | overridden _ first lost lower silent =>
        cases foremost.unique first
        rw [if_neg lost, if_neg (by simp [lower, silent])]
    · rintro rfl
      split
      · rename_i same
        subst same
        exact .won free foremost
      · rename_i lost
        split
        · rename_i kept
          exact .retained free foremost lost kept
        · rename_i left
          obtain ⟨lower, silent⟩ := not_or.mp left
          exact .overridden free foremost lost lower (by simpa using silent)

theorem foldl_addReason (reasons more : List String) (distinct : reasons.eraseDups = reasons) :
    more.foldl addReason reasons = (reasons ++ more).eraseDups := by
  induction more generalizing reasons with
  | nil => rw [List.append_nil, distinct, List.foldl_nil]
  | cons reason more ih =>
    rw [List.foldl_cons, addReason]
    by_cases listed : reasons.contains reason = true
    · have skipped : (reason :: more).removeAll reasons = more.removeAll reasons := by
        unfold List.removeAll
        rw [List.filter_cons_of_neg (by simpa using listed)]
      rw [if_pos listed, ih reasons distinct, List.eraseDups_append, List.eraseDups_append, skipped]
    · have fresh : [reason].removeAll reasons = [reason] := by
        unfold List.removeAll
        rw [List.filter_cons_of_pos (by simpa using listed), List.filter_nil]
      have grown : (reasons ++ [reason]).eraseDups = reasons ++ [reason] := by
        rw [List.eraseDups_append, distinct, fresh]
        rfl
      rw [if_neg listed, ih _ grown, List.append_assoc, List.singleton_append]

theorem nodup_foldl_addReason (reasons more : List String) (distinct : reasons.Nodup) :
    (more.foldl addReason reasons).Nodup := by
  induction more generalizing reasons with
  | nil => exact distinct
  | cons reason more ih =>
    apply ih
    unfold addReason
    split
    · exact distinct
    · rename_i unlisted
      have fresh : reason ∉ reasons := by simpa using unlisted
      have front : (reason :: reasons).Nodup := List.nodup_cons.mpr ⟨fresh, distinct⟩
      exact (List.perm_append_singleton reason reasons).nodup_iff.mpr front

theorem lead_leads {ps : List Collected} {defaultAction : Option String} {lead : Lead}
    (leads : lead? (partition .action ps).head? defaultAction = some lead) :
    Leads ps lead.reason := by
  cases head : (partition .action ps).head? with
  | none =>
    rw [head] at leads
    obtain ⟨action, _, rfl⟩ := Option.map_eq_some_iff.mp leads
    exact .default (partition_none.mp head)
  | some e =>
    obtain ⟨⟨source, index, seq, proposal⟩, position⟩ := e
    have foremost := partition_foremost head
    cases proposal with
    | transition p => cases foremost.ofKind
    | action p =>
      rw [head] at leads
      cases Option.some.inj leads
      exact .proposed foremost

-- A proposal that won or was retained, by its entry in the trace.
def keptIn (entries : List TraceEntry) (e : Collected × Nat) : Bool :=
  entries[e.2]?.any fun t => t.outcome = .won ∨ t.outcome = .retained

theorem Led.kept {ps : List Collected} {current : String} {lead : Lead} {d : Decision}
    (led : Led ps current lead d) {kind : ProposalKind} {e : Collected × Nat}
    (member : e ∈ partition kind ps) :
    keptIn d.trace e = keepsReason (outcomeIn ps (!lead.combinable) e) := by
  have listed := (((partition_ranked kind ps).members e).mp member).1
  have entry : d.trace[e.2]? = some (traceEntry e.1 (outcomeIn ps (!lead.combinable) e)) := by
    rw [led.trace, List.getElem?_map, List.getElem?_zipIdx, listed]
    simp
  rw [keptIn, entry, Option.any_some]
  change decide (outcomeIn _ _ _ = _ ∨ outcomeIn _ _ _ = _) = _
  cases outcomeIn ps (!lead.combinable) e <;> rfl

-- The reasons can be read off the trace, without another look at the proposals' outcomes.
theorem Led.keptReasons_traced {ps : List Collected} {current : String} {lead : Lead} {d : Decision}
    (led : Led ps current lead d) : keptReasons ps (!lead.combinable) =
      ((partition .action ps ++ partition .transition ps).filter (keptIn d.trace)).map
        (·.1.proposal.reason) := by
  refine congrArg _ (List.filter_congr fun e member => ?_)
  rcases List.mem_append.mp member with acts | moves
  · exact (led.kept acts).symm
  · exact (led.kept moves).symm

structure Explained (ps : List Collected) (defaultAction : Option String) (d : Decision)
    (combinable : Bool) (lead : String) (actions transitions : List (Collected × Nat)) : Prop where
  wins : Wins ps defaultAction d.action combinable d.winningSource
  trace : List.Forall₂ (fun e t => Repeats e.1 t ∧
    ∀ outcome, Fares ps (!combinable) e outcome ↔ outcome = t.outcome) ps.zipIdx d.trace
  leads : Leads ps lead
  acting : Ranked .action ps actions
  moving : Ranked .transition ps transitions
  distinct : d.reasons.Nodup
  first : d.reasons.head? = some lead
  reasons : d.reasons = (lead :: ((actions ++ transitions).filter (keptIn d.trace)).map
    (·.1.proposal.reason)).eraseDups

theorem resolution_explained {ps : List Collected} {current : String}
    {defaultAction : Option String} {d : Decision}
    (resolved : resolve ps current defaultAction = .ok d) :
    ∃ combinable lead actions transitions,
      Explained ps defaultAction d combinable lead actions transitions := by
  obtain ⟨lead, leads, led⟩ := resolved_led resolved
  refine ⟨lead.combinable, lead.reason, partition .action ps, partition .transition ps, ?_⟩
  constructor
  case wins =>
    rw [led.action, led.winningSource]
    exact lead_wins leads
  case trace =>
    rw [led.trace, List.forall₂_map_right_iff, List.forall₂_same]
    intro e member
    exact ⟨⟨rfl, rfl, rfl, rfl, rfl, rfl⟩, fares_iff (List.mem_zipIdx_iff_getElem?.mp member)⟩
  case leads => exact lead_leads leads
  case acting => exact partition_ranked .action ps
  case moving => exact partition_ranked .transition ps
  case distinct =>
    rw [led.reasons]
    exact nodup_foldl_addReason _ _ (List.pairwise_singleton _ _)
  case first => rw [led.reasons, head?_foldl_addReason]
  case reasons =>
    rw [led.reasons, foldl_addReason _ _ rfl, led.keptReasons_traced]
    rfl

def answered : Collected where
  source := "questions"
  sourceIndex := 0
  seq := 0
  proposal := .action { action := "answer", priority := .high, reason := "question" }

def remarked : Collected where
  source := "asides"
  sourceIndex := 1
  seq := 0
  proposal := .action { action := "remark", priority := .low, reason := "aside", informational := true }

def carriedOn : Collected where
  source := "fallback"
  sourceIndex := 2
  seq := 0
  proposal := .action { action := "continue", priority := .low, reason := "fallback" }

def stayed : Collected where
  source := "fallback"
  sourceIndex := 2
  seq := 1
  proposal := .transition { target := "lobby", priority := .low, reason := "fallback" }

def moved : Collected where
  source := "rules"
  sourceIndex := 3
  seq := 0
  proposal := .transition { target := "hall", priority := .normal, reason := "question" }

def inquiry : List Collected := [carriedOn, answered, stayed, moved, remarked]

theorem inquiry_resolved : ∃ d, resolve inquiry "lobby" none = .ok d ∧
    d.transitionsSuppressed = false ∧ d.reasons = ["question", "aside"] ∧
    d.trace = [traceEntry carriedOn .overridden, traceEntry answered .won,
      traceEntry stayed .overridden, traceEntry moved .won, traceEntry remarked .retained] := by
  have found : (resolve inquiry "lobby" none).toOption.map
        (fun d => (d.transitionsSuppressed, d.reasons, d.trace)) =
      some (false, ["question", "aside"], [traceEntry carriedOn .overridden,
        traceEntry answered .won, traceEntry stayed .overridden, traceEntry moved .won,
        traceEntry remarked .retained]) := by
    decide_cbv
  cases resolved : resolve inquiry "lobby" none with
  | error e =>
    rw [resolved] at found
    cases found
  | ok d =>
    rw [resolved] at found
    obtain ⟨held, rest⟩ := Prod.mk.inj (Option.some.inj found)
    obtain ⟨reasons, trace⟩ := Prod.mk.inj rest
    exact ⟨d, rfl, held, reasons, trace⟩

theorem inquiry_explained : ∃ d, resolve inquiry "lobby" none = .ok d ∧
    d.reasons = ["question", "aside"] ∧
    d.trace.map (·.outcome) = [.overridden, .won, .overridden, .won, .retained] ∧
    ∃ combinable lead actions transitions,
      Explained inquiry none d combinable lead actions transitions := by
  obtain ⟨d, resolved, _, reasons, trace⟩ := inquiry_resolved
  exact ⟨d, resolved, reasons, by rw [trace]; rfl, resolution_explained resolved⟩

end Colloquy.Resolution
