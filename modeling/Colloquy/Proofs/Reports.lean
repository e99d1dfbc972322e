import Colloquy.Proofs.Places

/-! What a check reports: one violation for each place where something is wrong. -/
namespace Colloquy

inductive Reports (b : Blueprint) : List Blueprint.Place → List Violation → Prop where
  | nil : Reports b [] []
  | fault (wrong : b.Fault place violation) (rest : Reports b places violations) :
      Reports b (place :: places) (violation :: violations)
  | fine (right : Fine b place) (rest : Reports b places violations) :
      Reports b (place :: places) violations

namespace Reports

variable {b : Blueprint}

theorem append (left : Reports b places violations) (right : Reports b places' violations') :
    Reports b (places ++ places') (violations ++ violations') := by
  induction left with
  | nil => exact right
  | fault wrong _ ih => exact .fault wrong ih
  | fine right _ ih => exact .fine right ih

theorem flatMap {l : List α} {f : α → List Blueprint.Place} {g : α → List Violation}
    (each : ∀ x ∈ l, Reports b (f x) (g x)) : Reports b (l.flatMap f) (l.flatMap g) := by
  induction l with
  | nil => exact .nil
  | cons x rest ih =>
    rw [List.flatMap_cons, List.flatMap_cons]
    exact (each x (by simp)).append (ih fun y member => each y (List.mem_cons_of_mem _ member))

theorem map {l : List α} {f : α → Blueprint.Place} {g : α → List Violation}
    (each : ∀ x, Reports b [f x] (g x)) : Reports b (l.map f) (l.flatMap g) := by
  rw [List.map_eq_flatMap]
  exact flatMap fun x _ => each x

-- A need that holds exactly where its place is fine reports that place.
theorem need {holds : Bool} {good : Prop} (exact : holds = true ↔ good)
    (fine : Fine b place ↔ good) (wrong : ¬ good → b.Fault place violation) :
    Reports b [place] (Colloquy.need holds violation) := by
  cases holds with
  | false => exact .fault (wrong fun right => Bool.false_ne_true (exact.mpr right)) .nil
  | true => exact .fine (fine.mpr (exact.mp rfl)) .nil

theorem nil_iff (report : Reports b places violations) :
    violations = [] ↔ ∀ place ∈ places, Fine b place := by
  induction report with
  | nil => simp
  | fault wrong _ _ =>
    refine ⟨by simp, fun fine => ?_⟩
    exact absurd wrong (fine _ (by simp) _)
  | fine right _ ih => simp [ih, right]

theorem action : Reports b [.action site name] (b.vocabulary.needAction site name) :=
  need declares_action fine_action .unknownAction

theorem intent : Reports b [.intent site name] (b.vocabulary.needIntent site name) :=
  need declares_intent fine_intent .unknownIntent

theorem inCategory : Reports b [.inCategory site name] (b.vocabulary.needCategory site name) :=
  need (by rw [declares_category]) fine_inCategory .unknownCategory

theorem field : Reports b [.field site name] (b.needField site name) :=
  need Iff.rfl fine_field .unknownField

theorem target {state trigger name : String} :
    Reports b [.target state trigger name] (b.needState state trigger name) :=
  need Iff.rfl fine_target .dangling

theorem declared (kind : NameKind) (same : ∀ name, name ∈ seen ↔ name ∈ earlier) :
    Reports b (declaredPlaces kind earlier ids)
      ((Blueprint.repeated seen ids).map (.duplicate kind)) := by
  induction ids generalizing seen earlier with
  | nil => exact .nil
  | cons name rest ih =>
    unfold Blueprint.repeated declaredPlaces
    split
    · rename_i listed
      have again : name ∈ earlier := (same name).mp (List.contains_iff_mem.mp listed)
      refine .fault (.repeated again) (ih fun other => ?_)
      rw [same, List.mem_append, List.mem_singleton]
      exact ⟨.inl, fun held => held.elim (fun old => old) fun equal => equal ▸ again⟩
    · rename_i fresh
      refine .fine (fine_declared.mpr fun again => ?_) (ih fun other => ?_)
      · exact fresh (List.contains_iff_mem.mpr ((same name).mpr again))
      · rw [List.mem_cons, same, List.mem_append, List.mem_singleton, or_comm]

theorem duplicates (kind : NameKind) (ids : List String) :
    Reports b (declaredPlaces kind [] ids) (Blueprint.duplicateViolations kind ids) :=
  declared kind fun _ => Iff.rfl

theorem member {category member : String} : Reports b [.member category member]
    (b.memberViolations b.vocabulary category member) := by
  unfold Blueprint.memberViolations
  split
  · rename_i name referred
    rw [Blueprint.reference_iff.mp referred]
    exact need Iff.rfl fine_reference .unknownReference
  · rename_i plain
    have plain : ∀ name, member ≠ "@" ++ name := by
      intro name spelled
      rw [Blueprint.reference_iff.mpr spelled] at plain
      cases plain
    exact need declares_intent (fine_plain plain) (.unknownMember plain)

theorem cycles (names : List String) :
    Reports b (names.map .category) ((names.filter b.isCyclic).map .categoryCycle) := by
  induction names with
  | nil => exact .nil
  | cons name rest ih =>
    cases cyclic : b.isCyclic name with
    | true =>
      rw [List.filter_cons_of_pos cyclic]
      exact .fault (.cycle (Blueprint.cyclic_iff.mp cyclic)) ih
    | false =>
      rw [List.filter_cons_of_neg (by simp [cyclic])]
      refine .fine (fine_category.mpr fun loop => ?_) ih
      exact Bool.false_ne_true (cyclic.symm.trans (Blueprint.cyclic_iff.mpr loop))

theorem condition (name source : String) : Reports b (conditionPlaces name source)
    (if NamedCondition.isReserved name then [.duplicate .condition name]
      else match Condition.parse source with
        | .error detail => [.malformedCondition name detail]
        | .ok c =>
          c.fields.toList.flatMap (b.needField (.condition name)) ++
            c.categories.toList.flatMap (b.vocabulary.needCategory (.condition name))) := by
  unfold conditionPlaces
  cases taken : NamedCondition.isReserved name with
  | true => exact .fault (.reserved taken) .nil
  | false =>
    cases parsed : Condition.parse source with
    | error detail => exact .fault (.malformed taken parsed) .nil
    | ok c =>
      refine .fine (fine_condition.mpr ⟨taken, c, parsed⟩) ?_
      exact (map fun _ => field).append (map fun _ => inCategory)

theorem engine : Reports b (enginePlaces b.engine) (b.engineViolations b.vocabulary) := by
  have history : Reports b [.historyLimit] (Colloquy.need (1 ≤ b.engine.historyLimit)
      (.invalidSetting "engine.history_limit" .belowOne)) :=
    need decide_eq_true_iff fine_historyLimit fun short => .noHistory (by omega)
  exact (((action.append action).append intent).append history).append (map fun _ => inCategory)

theorem clause {site : Site} {count position : Nat} {c : Clause} :
    Reports b [.clause site count position c.condition]
      (b.vocabulary.clauseViolations site count position c) := by
  unfold Vocabulary.clauseViolations
  split
  · rename_i name asked
    rw [asked]
    refine need declares_condition ?_ .unknownCondition
    simp [fine_clause]
  · rename_i asked
    rw [asked]
    refine need (beq_iff_eq (a := position) (b := count)) ?_ .unconditional
    simp [fine_clause]

theorem outcome {site : Site} {use : String → Blueprint.Place} {check : String → List Violation}
    (each : ∀ name, Reports b [use name] (check name)) (o : Outcome) :
    Reports b (outcomePlaces site use o) (b.vocabulary.outcomeViolations site check o) := by
  cases o with
  | direct name => exact each name
  | chain clauses =>
    have whole : Reports b [.chain site clauses]
        (Colloquy.need (!clauses.isEmpty) (.malformedChain site .noClauses)) := by
      refine need (by simp) fine_chain fun empty => ?_
      rw [Classical.not_not.mp empty]
      exact .noClauses
    exact whole.append (flatMap fun _ _ => clause.append (each _))

theorem transition (id trigger : String) (o : Outcome) :
    Reports b (transitionPlaces id trigger o)
      (b.transitionViolations b.vocabulary id trigger o) := by
  refine append ?_ (outcome (fun _ => target) o)
  cases Blueprint.isReservedTrigger trigger with
  | true => exact .nil
  | false => exact intent

theorem rule (id name : String) (o : Outcome) :
    Reports b (rulePlaces id name o) (Blueprint.ruleViolations b.vocabulary id name o) :=
  intent.append (outcome (fun _ => action) o)

theorem state (id : String) (s : State) :
    Reports b (statePlaces id s) (b.stateViolations b.vocabulary id s) :=
  (((map fun _ => field).append (map fun _ => action)).append
    (flatMap fun _ _ => transition _ _ _)).append (flatMap fun _ _ => rule _ _ _)

theorem questions (q : QuestionSettings) :
    Reports b (questionPlaces q) (Blueprint.questionViolations b.vocabulary q) :=
  (inCategory.append (flatMap fun _ _ => intent.append action)).append (map fun _ => action)

theorem rejection (r : RejectionSettings) :
    Reports b (rejectionPlaces r) (Blueprint.rejectionViolations b.vocabulary r) :=
  inCategory.append action

theorem wayOut (s : StallSettings) : Reports b [.wayOut s] (b.wayOutViolations s) := by
  unfold Blueprint.wayOutViolations
  split
  · rename_i needed
    simp only [Bool.and_eq_true, Option.isNone_iff_eq_none] at needed
    cases head : b.withoutWayOut.head? with
    | none =>
      refine .fine (fine_wayOut.mpr fun _ _ state stuck => ?_) .nil
      have member := mem_withoutWayOut.mpr stuck
      rw [List.head?_eq_none_iff.mp head] at member
      cases member
    | some first =>
      obtain ⟨stuck, least⟩ := first_stuck head
      exact .fault (.noWayOut needed.1 needed.2 stuck least) .nil
  · rename_i idle
    refine .fine (fine_wayOut.mpr fun on unset => ?_) .nil
    simp [on, unset] at idle

theorem stall (s : StallSettings) :
    Reports b (stallPlaces s) (b.stallViolations b.vocabulary s) :=
  ((((wayOut s).append action).append action).append action).append (map fun _ => target)

theorem window (turns : Nat) : Reports b [.window turns]
    (Blueprint.windowViolations b.engine.historyLimit turns) := by
  unfold Blueprint.windowViolations
  split
  · rename_i zero
    subst zero
    exact .fault .noWindow .nil
  · rename_i some
    have fits : Fine b (.window turns) ↔ turns ≤ b.engine.historyLimit := by
      rw [fine_window]
      omega
    exact need decide_eq_true_iff fits fun long => .longWindow (by omega) (by omega)

theorem loop (s : LoopSettings) : Reports b (loopPlaces s) (b.loopViolations b.vocabulary s) :=
  ((((window s.window).append (map fun _ => inCategory)).append action).append action).append action

theorem objection (s : ObjectionSettings) :
    Reports b (objectionPlaces s) (Blueprint.objectionViolations b.vocabulary s) :=
  inCategory.append action

theorem initial : Reports b [.initial] b.initialViolations :=
  need Iff.rfl fine_initial .unknownInitial

theorem blueprint (b : Blueprint) : Reports b b.places (b.violations b.vocabulary) := by
  refine append (append (append (append (append (append (append (append (append (append (append
    (append (duplicates .intent b.intents) (duplicates .action b.actions))
    (flatMap fun _ _ => map fun _ => member)) (cycles b.categories.keys))
    (flatMap fun _ _ => condition _ _)) engine) initial) (flatMap fun _ _ => state _ _))
    (flatMap fun q _ => questions q)) (flatMap fun r _ => rejection r))
    (flatMap fun s _ => stall s)) (flatMap fun s _ => loop s)) (flatMap fun s _ => objection s)

end Reports

end Colloquy
