import Colloquy.Flow
import Colloquy.Proofs.Categories

/-! The places of a blueprint that a check looks at, and what is wrong at one of them. -/
namespace Colloquy

def Outcome.targets : Outcome → List String
  | .direct target => [target]
  | .chain clauses => clauses.map (·.target)

-- A name that a clause may ask for: a reserved one, or a condition that parses.
def Blueprint.Compiled (b : Blueprint) (name : String) : Prop :=
  name = NamedCondition.alwaysName ∨ name = NamedCondition.dataCompleteName ∨
    ∃ source c, b.conditions.find? name = some source ∧ Condition.parse source = .ok c

section Vocabulary

variable {b : Blueprint} {name : String}

theorem declares_intent : b.vocabulary.intents.contains name = true ↔ name ∈ b.intents :=
  Lexicon.mem_ofList

theorem declares_action : b.vocabulary.actions.contains name = true ↔ name ∈ b.actions :=
  Lexicon.mem_ofList

theorem declares_category : b.vocabulary.categories.contains name = b.categories.contains name := by
  change (b.categories.map _).contains name = _
  simp [Table.contains, Table.find?_map]

theorem reserved_iff : NamedCondition.isReserved name = true ↔
    name = NamedCondition.alwaysName ∨ name = NamedCondition.dataCompleteName := by
  simp [NamedCondition.isReserved]

theorem reserved_contains :
    NamedCondition.reserved.contains name = NamedCondition.isReserved name := by
  simp only [NamedCondition.reserved, Table.ofList, List.foldl_cons, List.foldl_nil,
    Table.contains_insert]
  simp [NamedCondition.isReserved, Table.contains, Bool.or_comm]

theorem find_compiled : b.compiledConditions.find? name =
    ((b.conditions.find? name).bind fun source =>
      if NamedCondition.isReserved name then none
      else match Condition.parse source with
        | .ok c => some (.expression c)
        | .error _ => none).or (NamedCondition.reserved.find? name) := by
  rw [Blueprint.compiledConditions, Table.find?_overlay]
  exact congrArg (Option.or · (NamedCondition.reserved.find? name)) (Table.find?_filterMap ..)

theorem declares_condition : b.vocabulary.conditions.contains name = true ↔ b.Compiled name := by
  change (b.compiledConditions.find? name).isSome = true ↔ _
  rw [find_compiled, Option.isSome_or, Bool.or_eq_true]
  change _ ∨ NamedCondition.reserved.contains name = true ↔ _
  rw [reserved_contains]
  cases taken : NamedCondition.isReserved name with
  | true =>
    refine ⟨fun _ => ?_, fun _ => .inr rfl⟩
    exact (reserved_iff.mp taken).elim .inl fun complete => .inr (.inl complete)
  | false =>
    have free := mt reserved_iff.mpr (Bool.eq_false_iff.mp taken)
    simp only [Bool.false_eq_true, or_false, if_false, Option.isSome_iff_exists,
      Option.bind_eq_some_iff]
    constructor
    · rintro ⟨_, source, found, compiled⟩
      split at compiled
      · rename_i c parsed
        exact .inr (.inr ⟨source, c, found, parsed⟩)
      · cases compiled
    · rintro (always | complete | ⟨source, c, found, parsed⟩)
      · exact absurd (.inl always) free
      · exact absurd (.inr complete) free
      · exact ⟨.expression c, source, found, by rw [parsed]⟩

end Vocabulary

-- A state that a stall can happen in without a transition for it.
def Blueprint.Stuck (b : Blueprint) (id : String) : Prop :=
  ∃ s, b.states.find? id = some s ∧ s.terminal = false ∧
    s.transitions.contains Trigger.stalled = false

theorem reference_inj {name other : String} (same : "@" ++ name = "@" ++ other) : name = other :=
  String.toList_injective (by simpa using congrArg String.toList same)

namespace Blueprint

inductive Place where
  -- An entry of a list of names, and the entries before it.
  | declared (kind : NameKind) (earlier : List String) (name : String)
  | member (category member : String)
  | category (name : String)
  | condition (name source : String)
  | action (site : Site) (name : String)
  | intent (site : Site) (name : String)
  | field (site : Site) (name : String)
  | inCategory (site : Site) (name : String)
  | target (state trigger target : String)
  | initial
  -- A chain as a whole, and one clause of it, counted from one.
  | chain (site : Site) (clauses : List Clause)
  | clause (site : Site) (count position : Nat) (condition : Option String)
  | historyLimit
  | window (turns : Nat)
  | wayOut (settings : StallSettings)

-- What is wrong at a place. A place has at most one fault.
inductive Fault (b : Blueprint) : Place → Violation → Prop where
  | repeated (again : name ∈ earlier) :
      Fault b (.declared kind earlier name) (.duplicate kind name)
  | unknownReference (unknown : ¬ b.categories.contains name) :
      Fault b (.member category ("@" ++ name)) (.unknownCategory (.category category) name)
  | unknownMember (plain : ∀ name, member ≠ "@" ++ name) (unknown : member ∉ b.intents) :
      Fault b (.member category member) (.unknownIntent (.category category) member)
  | cycle (loop : Relation.TransGen b.Refers name name) :
      Fault b (.category name) (.categoryCycle name)
  | reserved (taken : NamedCondition.isReserved name = true) :
      Fault b (.condition name source) (.duplicate .condition name)
  | malformed (free : NamedCondition.isReserved name = false)
      (refused : Condition.parse source = .error detail) :
      Fault b (.condition name source) (.malformedCondition name detail)
  | unknownAction (unknown : name ∉ b.actions) :
      Fault b (.action site name) (.unknownAction site name)
  | unknownIntent (unknown : name ∉ b.intents) :
      Fault b (.intent site name) (.unknownIntent site name)
  | unknownField (unknown : ¬ b.fields.contains name) :
      Fault b (.field site name) (.unknownField site name)
  | unknownCategory (unknown : ¬ b.categories.contains name) :
      Fault b (.inCategory site name) (.unknownCategory site name)
  | dangling (unknown : ¬ b.states.contains target) :
      Fault b (.target state trigger target) (.danglingTransition state trigger target)
  | unknownInitial (unknown : ¬ b.states.contains b.initialState) :
      Fault b .initial (.unknownInitialState b.initialState)
  | noClauses : Fault b (.chain site []) (.malformedChain site .noClauses)
  | unknownCondition (unknown : ¬ b.Compiled name) :
      Fault b (.clause site count position (some name)) (.unknownCondition site name)
  | unconditional (before : position ≠ count) :
      Fault b (.clause site count position none) (.malformedChain site (.unconditional position))
  | noHistory (zero : b.engine.historyLimit = 0) :
      Fault b .historyLimit (.invalidSetting "engine.history_limit" .belowOne)
  | noWindow : Fault b (.window 0) (.invalidSetting "guards.loop.window" .belowOne)
  | longWindow (positive : 0 < turns) (long : b.engine.historyLimit < turns) :
      Fault b (.window turns)
        (.invalidSetting "guards.loop.window" (.windowTooLong turns b.engine.historyLimit))
  -- Of all states without a way out the first one is named.
  | noWayOut {settings : StallSettings} {state : String} (on : settings.enabled = true)
      (unset : settings.skipState = none) (stuck : b.Stuck state)
      (first : ∀ other, b.Stuck other → ¬ other < state) :
      Fault b (.wayOut settings)
        (.invalidSetting "guards.stall.skip_state" (.noWayOut state settings.maxTurnsInState))

theorem Fault.unique {b : Blueprint} (left : Fault b place violation)
    (right : Fault b place other) : violation = other := by
  cases left with
  | @unknownReference name category =>
    generalize spelled : "@" ++ name = member at right
    cases right with
    | unknownReference => rw [reference_inj spelled]
    | unknownMember plain => exact absurd spelled.symm (plain name)
  | unknownMember plain =>
    cases right with
    | unknownReference => exact absurd rfl (plain _)
    | unknownMember => rfl
  | reserved taken =>
    cases right with
    | reserved => rfl
    | malformed free => exact absurd (free.symm.trans taken) Bool.false_ne_true
  | malformed free refused =>
    cases right with
    | reserved taken => exact absurd (free.symm.trans taken) Bool.false_ne_true
    | malformed _ refused' =>
      rw [refused] at refused'
      cases refused'
      rfl
  | noWindow =>
    cases right with
    | noWindow => rfl
    | longWindow positive => exact absurd positive (Nat.lt_irrefl 0)
  | longWindow positive =>
    cases right with
    | noWindow => exact absurd positive (Nat.lt_irrefl 0)
    | longWindow => rfl
  | noWayOut _ _ stuck first =>
    cases right with
    | noWayOut _ _ stuck' first' =>
      have least := String.not_lt.mp (first' _ stuck)
      rw [String.le_antisymm least (String.not_lt.mp (first _ stuck'))]
  | _ =>
    cases right
    rfl

end Blueprint

def Fine (b : Blueprint) (place : Blueprint.Place) : Prop := ∀ violation, ¬ b.Fault place violation

section Fine

variable {b : Blueprint}

theorem fine_iff {good : Prop} (wrong : ¬ good → b.Fault place violation)
    (only : ∀ v, b.Fault place v → ¬ good) : Fine b place ↔ good := by
  constructor
  · exact fun fine => Classical.byContradiction fun bad => fine _ (wrong bad)
  · exact fun right v fault => only v fault right

theorem fine_declared : Fine b (.declared kind earlier name) ↔ name ∉ earlier := by
  refine fine_iff (fun again => .repeated (Classical.not_not.mp again)) ?_
  intro _ fault
  cases fault with
  | repeated again => exact fun fresh => fresh again

-- A member with an `@` is a reference whatever else it is.
theorem fine_reference : Fine b (.member category ("@" ++ name)) ↔ b.categories.contains name := by
  refine fine_iff .unknownReference ?_
  intro _ fault
  generalize spelled : "@" ++ name = member at fault
  cases fault with
  | @unknownReference other _ unknown =>
    rwa [reference_inj spelled]
  | unknownMember plain => exact absurd spelled.symm (plain name)

theorem fine_plain (plain : ∀ name, member ≠ "@" ++ name) :
    Fine b (.member category member) ↔ member ∈ b.intents := by
  refine fine_iff (.unknownMember plain) ?_
  intro _ fault
  cases fault with
  | unknownReference => exact absurd rfl (plain _)
  | unknownMember _ unknown => exact unknown

theorem fine_category : Fine b (.category name) ↔ ¬ Relation.TransGen b.Refers name name := by
  refine fine_iff (fun loop => .cycle (Classical.not_not.mp loop)) ?_
  intro _ fault
  cases fault with
  | cycle loop => exact fun unreached => unreached loop

theorem fine_condition : Fine b (.condition name source) ↔
    NamedCondition.isReserved name = false ∧ ∃ c, Condition.parse source = .ok c := by
  constructor
  · intro fine
    have free : NamedCondition.isReserved name = false :=
      Bool.eq_false_iff.mpr fun taken => fine _ (.reserved taken)
    refine ⟨free, ?_⟩
    cases parsed : Condition.parse source with
    | ok c => exact ⟨c, rfl⟩
    | error detail => exact absurd (.malformed free parsed) (fine _)
  · rintro ⟨free, c, parsed⟩ _ fault
    cases fault with
    | reserved taken => exact Bool.false_ne_true (free.symm.trans taken)
    | malformed _ refused =>
      rw [parsed] at refused
      cases refused

theorem fine_action : Fine b (.action site name) ↔ name ∈ b.actions := by
  refine fine_iff .unknownAction ?_
  intro _ fault
  cases fault with
  | unknownAction unknown => exact unknown

theorem fine_intent : Fine b (.intent site name) ↔ name ∈ b.intents := by
  refine fine_iff .unknownIntent ?_
  intro _ fault
  cases fault with
  | unknownIntent unknown => exact unknown

theorem fine_field : Fine b (.field site name) ↔ b.fields.contains name := by
  refine fine_iff .unknownField ?_
  intro _ fault
  cases fault with
  | unknownField unknown => exact unknown

theorem fine_inCategory : Fine b (.inCategory site name) ↔ b.categories.contains name := by
  refine fine_iff .unknownCategory ?_
  intro _ fault
  cases fault with
  | unknownCategory unknown => exact unknown

theorem fine_target : Fine b (.target state trigger target) ↔ b.states.contains target := by
  refine fine_iff .dangling ?_
  intro _ fault
  cases fault with
  | dangling unknown => exact unknown

theorem fine_initial : Fine b .initial ↔ b.states.contains b.initialState := by
  refine fine_iff .unknownInitial ?_
  intro _ fault
  cases fault with
  | unknownInitial unknown => exact unknown

theorem fine_chain : Fine b (.chain site clauses) ↔ clauses ≠ [] := by
  constructor
  · rintro fine rfl
    exact fine _ .noClauses
  · intro nonempty _ fault
    cases fault with
    | noClauses => exact nonempty rfl

theorem fine_clause : Fine b (.clause site count position condition) ↔
    (∀ name, condition = some name → b.Compiled name) ∧ (condition = none → position = count) := by
  constructor
  · intro fine
    refine ⟨?_, ?_⟩
    · rintro name rfl
      exact Classical.byContradiction fun unknown => fine _ (.unknownCondition unknown)
    · rintro rfl
      exact Decidable.byContradiction fun before => fine _ (.unconditional before)
  · rintro ⟨known, last⟩ _ fault
    cases fault with
    | unknownCondition unknown => exact unknown (known _ rfl)
    | unconditional before => exact before (last rfl)

theorem fine_historyLimit : Fine b .historyLimit ↔ 1 ≤ b.engine.historyLimit := by
  refine fine_iff (fun short => .noHistory (by omega)) ?_
  intro _ fault
  cases fault with
  | noHistory zero => omega

theorem fine_window : Fine b (.window turns) ↔ 1 ≤ turns ∧ turns ≤ b.engine.historyLimit := by
  constructor
  · intro fine
    have positive : turns ≠ 0 := by
      rintro rfl
      exact fine _ .noWindow
    exact ⟨by omega, Nat.not_lt.mp fun long => fine _ (.longWindow (by omega) long)⟩
  · rintro ⟨positive, fits⟩ _ fault
    cases fault with
    | noWindow => omega
    | longWindow _ long => omega

theorem mem_withoutWayOut {id : String} : id ∈ b.withoutWayOut ↔ b.Stuck id := by
  simp only [Blueprint.withoutWayOut, List.mem_map, List.mem_filter, Bool.and_eq_true,
    Bool.not_eq_true']
  constructor
  · rintro ⟨⟨name, s⟩, ⟨entry, way⟩, rfl⟩
    exact ⟨s, Table.find?_iff_mem.mpr entry, way⟩
  · rintro ⟨s, found, way⟩
    exact ⟨(id, s), ⟨Table.find?_iff_mem.mp found, way⟩, rfl⟩

theorem first_stuck {id : String} (head : b.withoutWayOut.head? = some id) :
    b.Stuck id ∧ ∀ other, b.Stuck other → ¬ other < id := by
  refine ⟨mem_withoutWayOut.mp (List.mem_of_head? head), ?_⟩
  intro other stuck below
  have ordered : b.withoutWayOut.Pairwise (· < ·) :=
    b.states.ordered.sublist (List.filter_sublist.map _)
  have member := mem_withoutWayOut.mpr stuck
  cases listed : b.withoutWayOut with
  | nil => simp [listed] at head
  | cons first rest =>
    rw [listed] at head ordered member
    cases Option.some.inj head
    rcases List.mem_cons.mp member with rfl | later
    · exact String.lt_irrefl _ below
    · exact String.lt_irrefl _ (String.lt_trans below ((List.pairwise_cons.mp ordered).1 _ later))

theorem fine_wayOut : Fine b (.wayOut settings) ↔
    (settings.enabled = true → settings.skipState = none → ∀ state, ¬ b.Stuck state) := by
  constructor
  · intro fine on unset state stuck
    cases head : b.withoutWayOut.head? with
    | none =>
      have member := mem_withoutWayOut.mpr stuck
      rw [List.head?_eq_none_iff.mp head] at member
      cases member
    | some first =>
      obtain ⟨stuckFirst, least⟩ := first_stuck head
      exact fine _ (.noWayOut on unset stuckFirst least)
  · intro free _ fault
    cases fault with
    | noWayOut on unset stuck => exact free on unset _ stuck

end Fine

def declaredPlaces (kind : NameKind) : List String → List String → List Blueprint.Place
  | _, [] => []
  | earlier, name :: rest =>
    .declared kind earlier name :: declaredPlaces kind (earlier ++ [name]) rest

-- A condition that does not parse, or that takes a reserved name, mentions nothing.
def conditionPlaces (name source : String) : List Blueprint.Place :=
  .condition name source ::
    if NamedCondition.isReserved name then [] else
      match Condition.parse source with
      | .error _ => []
      | .ok c =>
        c.fields.toList.map (.field (.condition name)) ++
          c.categories.toList.map (.inCategory (.condition name))

def enginePlaces (e : EngineSettings) : List Blueprint.Place :=
  [.action (.setting "engine.default_action") e.defaultAction,
    .action (.setting "engine.escalation_action") e.escalationAction,
    .intent (.setting "engine.unknown_intent") e.unknownIntent,
    .historyLimit] ++
  e.unclearCategory.toList.map (.inCategory (.setting "engine.unclear_category"))

def outcomePlaces (site : Site) (use : String → Blueprint.Place) : Outcome → List Blueprint.Place
  | .direct target => [use target]
  | .chain clauses =>
    .chain site clauses :: clauses.zipIdx.flatMap fun e =>
      [.clause site clauses.length (e.2 + 1) e.1.condition, use e.1.target]

def transitionPlaces (id trigger : String) (outcome : Outcome) : List Blueprint.Place :=
  (if Blueprint.isReservedTrigger trigger then [] else [.intent (.transitions id) trigger]) ++
    outcomePlaces (.transition id trigger) (.target id trigger) outcome

def rulePlaces (id intent : String) (outcome : Outcome) : List Blueprint.Place :=
  .intent (.rules id) intent :: outcomePlaces (.rule id intent) (.action (.rule id intent)) outcome

def statePlaces (id : String) (s : State) : List Blueprint.Place :=
  (s.requiredData ++ s.optionalData).map (.field (.state id)) ++
  s.defaultAction.toList.map (.action (.stateDefault id)) ++
  s.transitions.entries.flatMap (fun (trigger, outcome) => transitionPlaces id trigger outcome) ++
  s.rules.entries.flatMap fun (intent, outcome) => rulePlaces id intent outcome

def questionPlaces (q : QuestionSettings) : List Blueprint.Place :=
  [.inCategory (.setting "sources.questions.category") q.category] ++
  q.answers.entries.flatMap (fun (intent, action) =>
    [.intent (.answer intent) intent, .action (.answer intent) action]) ++
  q.defaultAnswer.toList.map (.action (.setting "sources.questions.default_answer"))

def rejectionPlaces (r : RejectionSettings) : List Blueprint.Place :=
  [.inCategory (.setting "sources.rejection.category") r.category,
    .action (.setting "sources.rejection.action") r.action]

def stallPlaces (s : StallSettings) : List Blueprint.Place :=
  [.wayOut s,
    .action (.setting "guards.stall.offer_skip_action") s.offerSkipAction,
    .action (.setting "guards.stall.skip_action") s.skipAction,
    .action (.setting "guards.stall.exit_action") s.exitAction] ++
  s.skipState.toList.map (.target "guards.stall" "skip_state")

def loopPlaces (s : LoopSettings) : List Blueprint.Place :=
  [.window s.window] ++
  s.informativeCategory.toList.map (.inCategory (.setting "guards.loop.informative_category")) ++
  [.action (.setting "guards.loop.nudge_action") s.nudgeAction] ++
  [.action (.setting "guards.loop.rephrase_action") s.rephraseAction] ++
  [.action (.setting "guards.loop.exit_action") s.exitAction]

def objectionPlaces (s : ObjectionSettings) : List Blueprint.Place :=
  [.inCategory (.setting "guards.objection.category") s.category,
    .action (.setting "guards.objection.action") s.action]

def Blueprint.places (b : Blueprint) : List Blueprint.Place :=
  declaredPlaces .intent [] b.intents ++
  declaredPlaces .action [] b.actions ++
  b.categories.entries.flatMap (fun (name, members) => members.map (.member name)) ++
  b.categories.keys.map .category ++
  b.conditions.entries.flatMap (fun (name, source) => conditionPlaces name source) ++
  enginePlaces b.engine ++
  [.initial] ++
  b.states.entries.flatMap (fun (id, s) => statePlaces id s) ++
  b.questions.toList.flatMap questionPlaces ++
  b.rejection.toList.flatMap rejectionPlaces ++
  b.stall.toList.flatMap stallPlaces ++
  b.loop.toList.flatMap loopPlaces ++
  b.objection.toList.flatMap objectionPlaces

end Colloquy
