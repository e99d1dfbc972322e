import Colloquy.Proofs.Reports

/-! Well-formed blueprints, said without the checks. -/
namespace Colloquy

namespace Condition

def comparisons : Condition → List Comparison
  | .always => []
  | .comparison c => [c]
  | .both a b => a.comparisons ++ b.comparisons
  | .either a b => a.comparisons ++ b.comparisons
  | .negation a => a.comparisons

theorem mem_fields {c : Condition} {name : String} :
    name ∈ c.fields ↔ ∃ a ∈ c.comparisons, a.field = .data name := by
  induction c with
  | always => simp [fields, comparisons, Lexicon.not_mem_empty]
  | comparison a =>
    cases field : a.field <;>
      simp [fields, comparisons, field, Lexicon.mem_insert, Lexicon.not_mem_empty, eq_comm]
  | both a b iha ihb | either a b iha ihb =>
    simp only [fields, comparisons, Lexicon.mem_union, iha, ihb, List.mem_append, or_and_right,
      exists_or]
  | negation a ih => exact ih

theorem mem_categories {c : Condition} {name : String} :
    name ∈ c.categories ↔ ∃ a ∈ c.comparisons, a.literal = .category name := by
  induction c with
  | always => simp [categories, comparisons, Lexicon.not_mem_empty]
  | comparison a =>
    cases literal : a.literal <;>
      simp [categories, comparisons, literal, Lexicon.mem_insert, Lexicon.not_mem_empty, eq_comm]
  | both a b iha ihb | either a b iha ihb =>
    simp only [categories, comparisons, Lexicon.mem_union, iha, ihb, List.mem_append,
      or_and_right, exists_or]
  | negation a ih => exact ih

end Condition

namespace Blueprint

-- A member of a category with an `@` refers to a category; any other one is an intent.
def Listed (b : Blueprint) (member : String) : Prop :=
  (∃ name, member = "@" ++ name ∧ b.categories.contains name) ∨
    ((∀ name, member ≠ "@" ++ name) ∧ member ∈ b.intents)

-- A chain has a clause, asks for conditions there are, and only its last clause may ask for none.
def Linked (b : Blueprint) : Outcome → Prop
  | .direct _ => True
  | .chain clauses =>
    clauses ≠ [] ∧ (∀ clause ∈ clauses, ∀ name, clause.condition = some name → b.Compiled name) ∧
      ∀ clause ∈ clauses.dropLast, clause.condition ≠ none

structure StateFits (b : Blueprint) (s : State) : Prop where
  data : ∀ name ∈ s.requiredData ++ s.optionalData, b.fields.contains name
  default : ∀ action, s.defaultAction = some action → action ∈ b.actions
  transitions : ∀ trigger outcome, s.transitions.find? trigger = some outcome →
    (trigger = Trigger.dataComplete ∨ trigger = Trigger.stalled ∨ trigger ∈ b.intents) ∧
      b.Linked outcome ∧ ∀ target ∈ outcome.targets, b.states.contains target
  rules : ∀ intent outcome, s.rules.find? intent = some outcome →
    intent ∈ b.intents ∧ b.Linked outcome ∧ ∀ action ∈ outcome.targets, action ∈ b.actions

structure QuestionsFit (b : Blueprint) (q : QuestionSettings) : Prop where
  category : b.categories.contains q.category
  answers : ∀ intent action, q.answers.find? intent = some action →
    intent ∈ b.intents ∧ action ∈ b.actions
  default : ∀ action, q.defaultAnswer = some action → action ∈ b.actions

structure StallFits (b : Blueprint) (s : StallSettings) : Prop where
  actions : s.offerSkipAction ∈ b.actions ∧ s.skipAction ∈ b.actions ∧ s.exitAction ∈ b.actions
  skipState : ∀ state, s.skipState = some state → b.states.contains state
  wayOut : s.enabled = true → s.skipState = none → ∀ id state, b.states.find? id = some state →
    state.terminal = false → state.transitions.contains Trigger.stalled

structure LoopFits (b : Blueprint) (s : LoopSettings) : Prop where
  window : 1 ≤ s.window ∧ s.window ≤ b.engine.historyLimit
  informative : ∀ name, s.informativeCategory = some name → b.categories.contains name
  actions : s.nudgeAction ∈ b.actions ∧ s.rephraseAction ∈ b.actions ∧ s.exitAction ∈ b.actions

structure WellFormedWith (listed : Blueprint → String → Prop) (b : Blueprint) : Prop where
  intents : b.intents.Nodup
  actions : b.actions.Nodup
  members : ∀ category members, b.categories.find? category = some members →
    ∀ member ∈ members, listed b member
  acyclic : ∀ category, ¬ Relation.TransGen b.Refers category category
  conditions : ∀ name source, b.conditions.find? name = some source →
    name ≠ NamedCondition.alwaysName ∧ name ≠ NamedCondition.dataCompleteName ∧
      ∃ c, Condition.parse source = .ok c ∧ ∀ a ∈ c.comparisons,
        (∀ field, a.field = .data field → b.fields.contains field) ∧
          ∀ category, a.literal = .category category → b.categories.contains category
  defaultAction : b.engine.defaultAction ∈ b.actions
  escalationAction : b.engine.escalationAction ∈ b.actions
  unknownIntent : b.engine.unknownIntent ∈ b.intents
  history : 1 ≤ b.engine.historyLimit
  unclear : ∀ category, b.engine.unclearCategory = some category → b.categories.contains category
  initial : b.states.contains b.initialState
  states : ∀ id s, b.states.find? id = some s → b.StateFits s
  questions : ∀ q, b.questions = some q → b.QuestionsFit q
  rejection : ∀ r, b.rejection = some r → b.categories.contains r.category ∧ r.action ∈ b.actions
  stall : ∀ s, b.stall = some s → b.StallFits s
  loop : ∀ s, b.loop = some s → b.LoopFits s
  objection : ∀ s, b.objection = some s → b.categories.contains s.category ∧ s.action ∈ b.actions

def WellFormed (b : Blueprint) : Prop := b.WellFormedWith Listed

end Blueprint

section AllFine

variable {b : Blueprint}

def AllFine (b : Blueprint) (places : List Blueprint.Place) : Prop := ∀ place ∈ places, Fine b place

theorem allFine_append : AllFine b (left ++ right) ↔ AllFine b left ∧ AllFine b right :=
  List.forall_mem_append

theorem allFine_cons : AllFine b (place :: rest) ↔ Fine b place ∧ AllFine b rest :=
  List.forall_mem_cons

theorem allFine_nil : AllFine b [] := List.forall_mem_nil _

theorem allFine_map {f : α → Blueprint.Place} {l : List α} :
    AllFine b (l.map f) ↔ ∀ x ∈ l, Fine b (f x) :=
  List.forall_mem_map

theorem allFine_option {f : α → List Blueprint.Place} {o : Option α} :
    AllFine b (o.toList.flatMap f) ↔ ∀ x, o = some x → AllFine b (f x) := by
  cases o <;> simp [AllFine]

theorem allFine_table {f : String × α → List Blueprint.Place} {t : Table α} :
    AllFine b (t.entries.flatMap f) ↔ ∀ key value, t.find? key = some value →
      AllFine b (f (key, value)) := by
  simp only [AllFine, List.forall_mem_flatMap, Prod.forall, Table.find?_iff_mem]

theorem allFine_declared : AllFine b (declaredPlaces kind earlier ids) ↔
    ids.Nodup ∧ ∀ name ∈ ids, name ∉ earlier := by
  induction ids generalizing earlier with
  | nil => simp [declaredPlaces, allFine_nil]
  | cons name rest ih =>
    simp only [declaredPlaces, allFine_cons, fine_declared, ih, List.nodup_cons, List.mem_cons,
      List.mem_append, List.not_mem_nil, or_false, forall_eq_or_imp, not_or]
    constructor
    · rintro ⟨fresh, unique, apart⟩
      exact ⟨⟨fun again => (apart name again).2 rfl, unique⟩, fresh,
        fun x member => (apart x member).1⟩
    · rintro ⟨⟨unlisted, unique⟩, fresh, apart⟩
      exact ⟨fresh, unique, fun x member => ⟨apart x member, fun same => unlisted (same ▸ member)⟩⟩

theorem mem_dropLast_iff {clauses : List Clause} {clause : Clause} :
    clause ∈ clauses.dropLast ↔ ∃ i, i + 1 < clauses.length ∧ clauses[i]? = some clause := by
  simp only [List.mem_iff_getElem?, List.getElem?_dropLast]
  grind

theorem allFine_outcome {use : String → Blueprint.Place} {good : String → Prop}
    (each : ∀ name, Fine b (use name) ↔ good name) {o : Outcome} :
    AllFine b (outcomePlaces site use o) ↔ b.Linked o ∧ ∀ target ∈ o.targets, good target := by
  cases o with
  | direct target =>
    simp [outcomePlaces, allFine_cons, allFine_nil, each, Blueprint.Linked, Outcome.targets]
  | chain clauses =>
    have clauses_fine : AllFine b (clauses.zipIdx.flatMap fun e =>
        [.clause site clauses.length (e.2 + 1) e.1.condition, use e.1.target]) ↔
        ∀ i clause, clauses[i]? = some clause →
          ((∀ name, clause.condition = some name → b.Compiled name) ∧
            (clause.condition = none → i + 1 = clauses.length)) ∧ good clause.target := by
      simp only [AllFine, List.forall_mem_flatMap, Prod.forall, List.mem_zipIdx_iff_getElem?,
        List.forall_mem_cons, fine_clause, each, List.not_mem_nil, false_implies, implies_true,
        and_true]
      exact forall_comm
    simp only [outcomePlaces, allFine_cons, fine_chain, clauses_fine, Blueprint.Linked,
      Outcome.targets, List.forall_mem_map]
    constructor
    · rintro ⟨some, right⟩
      refine ⟨⟨some, ?_, ?_⟩, ?_⟩
      · intro clause member
        obtain ⟨i, found⟩ := List.mem_iff_getElem?.mp member
        exact (right i clause found).1.1
      · intro clause member unasked
        obtain ⟨i, before, found⟩ := mem_dropLast_iff.mp member
        have last := (right i clause found).1.2 unasked
        omega
      · intro clause member
        obtain ⟨i, found⟩ := List.mem_iff_getElem?.mp member
        exact (right i clause found).2
    · rintro ⟨⟨some, known, asked⟩, right⟩
      refine ⟨some, fun i clause found => ?_⟩
      have member : clause ∈ clauses := List.mem_of_getElem? found
      refine ⟨⟨known clause member, fun unasked => ?_⟩, right clause member⟩
      have inside := (List.getElem?_eq_some_iff.mp found).1
      have last : ¬ i + 1 < clauses.length := fun before =>
        asked clause (mem_dropLast_iff.mpr ⟨i, before, found⟩) unasked
      omega

theorem fine_member {category member : String} :
    Fine b (.member category member) ↔ b.Listed member := by
  unfold Blueprint.Listed
  by_cases referring : ∃ name, member = "@" ++ name
  · obtain ⟨name, rfl⟩ := referring
    rw [fine_reference]
    constructor
    · exact fun known => .inl ⟨name, rfl, known⟩
    · rintro (⟨other, spelled, known⟩ | ⟨plain, _⟩)
      · rwa [reference_inj spelled]
      · exact absurd rfl (plain name)
  · have plain : ∀ name, member ≠ "@" ++ name := fun name spelled => referring ⟨name, spelled⟩
    rw [fine_plain plain]
    constructor
    · exact fun known => .inr ⟨plain, known⟩
    · rintro (⟨name, spelled, _⟩ | ⟨_, known⟩)
      · exact absurd spelled (plain name)
      · exact known

theorem allFine_condition {name source : String} : AllFine b (conditionPlaces name source) ↔
    name ≠ NamedCondition.alwaysName ∧ name ≠ NamedCondition.dataCompleteName ∧
      ∃ c, Condition.parse source = .ok c ∧ ∀ a ∈ c.comparisons,
        (∀ field, a.field = .data field → b.fields.contains field) ∧
          ∀ category, a.literal = .category category → b.categories.contains category := by
  rw [conditionPlaces, allFine_cons, fine_condition]
  cases taken : NamedCondition.isReserved name with
  | true =>
    have reserved := reserved_iff.mp taken
    simp only [Bool.true_eq_false, false_and, false_iff]
    rintro ⟨notAlways, notComplete, _⟩
    exact reserved.elim notAlways notComplete
  | false =>
    have free := not_or.mp (mt reserved_iff.mpr (Bool.eq_false_iff.mp taken))
    cases parsed : Condition.parse source with
    | error detail => simp
    | ok c =>
      simp only [true_and, Bool.false_eq_true, if_false, allFine_append, allFine_map, fine_field,
        fine_inCategory, Lexicon.mem_toList, Condition.mem_fields, Condition.mem_categories]
      constructor
      · rintro ⟨_, fields, categories⟩
        exact ⟨free.1, free.2, c, rfl, fun a member =>
          ⟨fun field at' => fields field ⟨a, member, at'⟩,
            fun category at' => categories category ⟨a, member, at'⟩⟩⟩
      · rintro ⟨_, _, c', same, known⟩
        cases same
        refine ⟨⟨c, rfl⟩, ?_, ?_⟩
        · rintro field ⟨a, member, at'⟩
          exact (known a member).1 field at'
        · rintro category ⟨a, member, at'⟩
          exact (known a member).2 category at'

theorem allFine_transition {id trigger : String} {o : Outcome} :
    AllFine b (transitionPlaces id trigger o) ↔
      (trigger = Trigger.dataComplete ∨ trigger = Trigger.stalled ∨ trigger ∈ b.intents) ∧
        b.Linked o ∧ ∀ target ∈ o.targets, b.states.contains target := by
  rw [transitionPlaces, allFine_append, allFine_outcome fun _ => fine_target]
  refine and_congr ?_ Iff.rfl
  cases reserved : Blueprint.isReservedTrigger trigger with
  | true =>
    simp only [Blueprint.isReservedTrigger, Bool.or_eq_true, beq_iff_eq] at reserved
    simpa [allFine_nil] using reserved.imp_right .inl
  | false =>
    simp only [Blueprint.isReservedTrigger, Bool.or_eq_false_iff, beq_eq_false_iff_ne] at reserved
    simp [allFine_cons, allFine_nil, fine_intent, reserved]

theorem allFine_rule {id intent : String} {o : Outcome} : AllFine b (rulePlaces id intent o) ↔
    intent ∈ b.intents ∧ b.Linked o ∧ ∀ action ∈ o.targets, action ∈ b.actions := by
  rw [rulePlaces, allFine_cons, fine_intent, allFine_outcome fun _ => fine_action]

theorem allFine_state {id : String} {s : State} : AllFine b (statePlaces id s) ↔ b.StateFits s := by
  simp only [statePlaces, allFine_append, allFine_map, fine_field, fine_action, allFine_table,
    allFine_transition, allFine_rule, Option.mem_toList]
  constructor
  · rintro ⟨⟨⟨data, default⟩, transitions⟩, rules⟩
    exact ⟨data, default, transitions, rules⟩
  · rintro ⟨data, default, transitions, rules⟩
    exact ⟨⟨⟨data, default⟩, transitions⟩, rules⟩

theorem allFine_questions {q : QuestionSettings} :
    AllFine b (questionPlaces q) ↔ b.QuestionsFit q := by
  simp only [questionPlaces, allFine_append, allFine_cons, allFine_nil, allFine_map,
    fine_inCategory, fine_intent, fine_action, allFine_table, Option.mem_toList, and_true]
  constructor
  · rintro ⟨⟨category, answers⟩, default⟩
    exact ⟨category, answers, default⟩
  · rintro ⟨category, answers, default⟩
    exact ⟨⟨category, answers⟩, default⟩

theorem allFine_stall {s : StallSettings} : AllFine b (stallPlaces s) ↔ b.StallFits s := by
  simp only [stallPlaces, allFine_append, allFine_cons, allFine_nil, allFine_map, fine_wayOut,
    fine_action, fine_target, Option.mem_toList, and_true]
  constructor
  · rintro ⟨⟨free, actions⟩, skip⟩
    refine ⟨actions, skip, fun on unset id state found lasting => ?_⟩
    exact Bool.of_not_eq_false fun without => free on unset id ⟨state, found, lasting, without⟩
  · rintro ⟨actions, skip, wayOut⟩
    refine ⟨⟨fun on unset id stuck => ?_, actions⟩, skip⟩
    obtain ⟨state, found, lasting, without⟩ := stuck
    exact Bool.false_ne_true (without.symm.trans (wayOut on unset id state found lasting))

theorem allFine_loop {s : LoopSettings} : AllFine b (loopPlaces s) ↔ b.LoopFits s := by
  simp only [loopPlaces, allFine_append, allFine_cons, allFine_nil, allFine_map, fine_window,
    fine_action, fine_inCategory, Option.mem_toList, and_true]
  constructor
  · rintro ⟨⟨⟨⟨window, informative⟩, nudge⟩, rephrase⟩, exit⟩
    exact ⟨window, informative, nudge, rephrase, exit⟩
  · rintro ⟨window, informative, nudge, rephrase, exit⟩
    exact ⟨⟨⟨⟨window, informative⟩, nudge⟩, rephrase⟩, exit⟩

-- A category that reaches itself is declared: a reference counts only to a declared one.
theorem refers_declared {category other : String}
    (path : Relation.TransGen b.Refers category other) : b.categories.contains other = true := by
  cases path with
  | single edge => exact edge.2
  | tail _ edge => exact edge.2

theorem allFine_places : AllFine b b.places ↔ b.WellFormed := by
  simp only [Blueprint.places, enginePlaces, rejectionPlaces, objectionPlaces, allFine_append,
    allFine_cons, allFine_nil, allFine_map, allFine_option, allFine_table, allFine_declared,
    List.not_mem_nil, not_false_eq_true, implies_true, and_true, fine_member, fine_category,
    allFine_condition, fine_action, fine_intent, fine_historyLimit, fine_inCategory, fine_initial,
    allFine_state, allFine_questions, allFine_stall, allFine_loop, Option.mem_toList, and_assoc]
  constructor
  · rintro ⟨intents, actions, members, acyclic, conditions, default, escalation, unknown, history,
      unclear, initial, states, questions, rejection, stall, loop, objection⟩
    have acyclic (category : String)
        (loop : Relation.TransGen b.Refers category category) : False :=
      acyclic category (Table.mem_keys.mpr (refers_declared loop)) loop
    exact ⟨intents, actions, members, acyclic, conditions, default, escalation, unknown, history,
      unclear, initial, states, questions, rejection, stall, loop, objection⟩
  · rintro ⟨intents, actions, members, acyclic, conditions, default, escalation, unknown, history,
      unclear, initial, states, questions, rejection, stall, loop, objection⟩
    exact ⟨intents, actions, members, fun category _ => acyclic category, conditions, default,
      escalation, unknown, history, unclear, initial, states, questions, rejection, stall, loop,
      objection⟩

end AllFine

theorem violations_nil_iff {b : Blueprint} : b.violations b.vocabulary = [] ↔ b.WellFormed :=
  (Reports.blueprint b).nil_iff.trans allFine_places

theorem built_iff {b : Blueprint} {flow : Flow} :
    Flow.build b = .ok flow ↔ b.WellFormed ∧ flow = ⟨b, b.vocabulary⟩ := by
  rw [← violations_nil_iff, Flow.build]
  cases b.violations b.vocabulary with
  | nil => simp [eq_comm]
  | cons => simp

theorem refused_iff {b : Blueprint} {violations : List Violation} :
    Flow.build b = .error violations ↔ ¬ b.WellFormed ∧ violations = b.violations b.vocabulary := by
  rw [← violations_nil_iff, Flow.build]
  cases b.violations b.vocabulary with
  | nil => simp
  | cons => simp [eq_comm]

theorem accepted_iff {b : Blueprint} :
    (∃ flow, Flow.ofBlueprint b = .ok flow) ↔ b.WellFormed := by
  rw [Flow.ofBlueprint]
  constructor
  · rintro ⟨flow, accepted⟩
    cases result : Flow.build b with
    | ok => exact (built_iff.mp result).1
    | error violations =>
      rw [result] at accepted
      cases accepted
  · intro fits
    exact ⟨⟨b, b.vocabulary⟩, by rw [built_iff.mpr ⟨fits, rfl⟩]; rfl⟩

theorem flow_exact_report (b : Blueprint) :
    ((∃ flow, Flow.ofBlueprint b = .ok flow) ↔ b.WellFormed) ∧
      (¬ b.WellFormed → ∃ violations,
        Flow.ofBlueprint b = .error (.invalid violations) ∧ Reports b b.places violations) := by
  refine ⟨accepted_iff, fun broken => ?_⟩
  refine ⟨b.violations b.vocabulary, ?_, Reports.blueprint b⟩
  rw [Flow.ofBlueprint, refused_iff.mpr ⟨broken, rfl⟩]
  rfl

-- A condition under a reserved name is one place: what it mentions is not looked at.
example : Flow.build {
    initialState := "greeting"
    intents := ["unclear"]
    actions := ["continue", "escalate_to_human"]
    conditions := Table.empty.insert "always" "data.size EXISTS"
    states := Table.empty.insert "greeting" {} } =
    .error [.duplicate .condition "always"] := by rfl

-- A member that is a declared intent, whether or not it has an `@`.
def Blueprint.ListedEither (b : Blueprint) (member : String) : Prop :=
  (∃ name, member = "@" ++ name ∧ b.categories.contains name) ∨ member ∈ b.intents

def taggedIntent : Blueprint where
  initialState := "greeting"
  intents := ["unclear", "@vip"]
  actions := ["continue", "escalate_to_human"]
  categories := Table.empty.insert "guests" ["@vip"]
  states := Table.empty.insert "greeting" {}

section TaggedIntent

theorem tagged_members (found : taggedIntent.categories.find? category = some members) :
    category = "guests" ∧ members = ["@vip"] := by
  simp only [taggedIntent, Table.find?_insert, Table.find?_empty] at found
  split at found
  · exact ⟨‹_›, (Option.some.inj found).symm⟩
  · cases found

theorem tagged_state {id : String} (found : taggedIntent.states.find? id = some s) : s = {} := by
  simp only [taggedIntent, Table.find?_insert, Table.find?_empty] at found
  split at found
  · exact (Option.some.inj found).symm
  · cases found

-- The only reference is to a category that there is not.
theorem tagged_unlinked : ¬ taggedIntent.Refers category other := by
  rintro ⟨listed, declared⟩
  obtain ⟨member, held, refers⟩ := List.mem_filterMap.mp listed
  cases found : taggedIntent.categories.find? category with
  | none => simp [Blueprint.membersOf, found] at held
  | some members =>
    rw [Blueprint.membersOf, found, Option.getD_some, (tagged_members found).2,
      List.mem_singleton] at held
    have reading : Blueprint.reference? "@vip" = some "vip" := Blueprint.reference_iff.mpr rfl
    rw [held, reading] at refers
    cases Option.some.inj refers
    exact absurd declared (by decide)

end TaggedIntent

theorem tagged_intent_refused : taggedIntent.WellFormedWith Blueprint.ListedEither ∧
    ¬ ∃ flow, Flow.ofBlueprint taggedIntent = .ok flow := by
  constructor
  · constructor
    case members =>
      intro category members found member listed
      rw [(tagged_members found).2, List.mem_singleton] at listed
      exact .inr (by rw [listed]; decide)
    case acyclic =>
      intro category loop
      obtain ⟨other, first, _⟩ := Relation.TransGen.head'_iff.mp loop
      exact tagged_unlinked first
    case states =>
      intro id s found
      rw [tagged_state found]
      constructor <;> simp
    all_goals simp [taggedIntent]
  · rw [accepted_iff]
    intro fits
    rcases fits.members "guests" ["@vip"] (by decide) "@vip" (by decide) with
      ⟨name, spelled, declared⟩ | ⟨plain, _⟩
    · have same : "@" ++ "vip" = "@" ++ name := spelled
      rw [← reference_inj same] at declared
      exact absurd declared (by decide)
    · exact plain "vip" rfl

end Colloquy
