import Colloquy.Proofs.RoundTrip
import Colloquy.Proofs.WellFormed

/-! What a condition looks at: the turn, the data fields and the categories that it mentions. -/
namespace Colloquy

-- Membership as a condition sees it: a category that there is not has no members.
def Context.lists (k : Context) (category intent : String) : Bool :=
  (k.categories.find? category).any (·.contains intent)

structure Condition.Alike (tree : Condition) (k l : Context) : Prop where
  intent : k.intent = l.intent
  state : k.state = l.state
  turn : k.turn = l.turn
  data : ∀ name ∈ tree.fields, k.data.find? name = l.data.find? name
  members : ∀ name ∈ tree.categories, ∀ intent, k.lists name intent = l.lists name intent

namespace Comparison

variable {c : Comparison} {k l : Context}

theorem resolve_alike (alike : (Condition.comparison c).Alike k l) :
    c.field.resolve k = c.field.resolve l := by
  have data := alike.data
  unfold Condition.fields at data
  cases field : c.field with
  | data name =>
    rw [field] at data
    have same := data name (Lexicon.mem_insert.mpr (.inl rfl))
    exact congrArg (Option.map Resolved.value) same
  | intent => exact congrArg (some ∘ Resolved.text) alike.intent
  | state => exact congrArg (some ∘ Resolved.text) alike.state
  | turn => exact congrArg (fun turn => some (Resolved.number (Float.ofNat turn))) alike.turn

-- Once the field is resolved, only membership still asks the context.
theorem positive_alike (alike : (Condition.comparison c).Alike k l) (resolved : Resolved) :
    c.positive k resolved = c.positive l resolved := by
  have members := alike.members
  unfold Condition.categories at members
  obtain ⟨field, operator, negated, literal⟩ := c
  cases operator with
  | isMember =>
    cases literal with
    | category name =>
      have same := members name (Lexicon.mem_insert.mpr (.inl rfl))
      change (k.categories.find? name).any (fun set => resolved.text?.any set.contains) =
        (l.categories.find? name).any fun set => resolved.text?.any set.contains
      cases resolved.text? with
      | some intent => exact same intent
      | none => cases k.categories.find? name <;> cases l.categories.find? name <;> rfl
    | text | number | bool | pattern | absent => rfl
  | contains | isMatch | startsWith | endsWith | equals | greater | less | atLeast | atMost
  | isPresent => rfl

theorem holds_alike (alike : (Condition.comparison c).Alike k l) : c.holds k = c.holds l := by
  unfold holds
  rw [resolve_alike alike, funext (positive_alike alike)]

end Comparison

namespace Condition

variable {tree : Condition} {k l : Context}

theorem Alike.part (alike : tree.Alike k l) {piece : Condition}
    (fields : ∀ name ∈ piece.fields, name ∈ tree.fields)
    (categories : ∀ name ∈ piece.categories, name ∈ tree.categories) : piece.Alike k l :=
  { alike with
    data := fun name mentioned => alike.data name (fields name mentioned)
    members := fun name mentioned => alike.members name (categories name mentioned) }

theorem holds_alike (alike : tree.Alike k l) : tree.holds k = tree.holds l := by
  induction tree with
  | always => rfl
  | comparison c => exact Comparison.holds_alike alike
  | both a b iha ihb | either a b iha ihb =>
    have left := iha (alike.part (fun _ mentioned => Lexicon.mem_union.mpr (.inl mentioned))
      fun _ mentioned => Lexicon.mem_union.mpr (.inl mentioned))
    have right := ihb (alike.part (fun _ mentioned => Lexicon.mem_union.mpr (.inr mentioned))
      fun _ mentioned => Lexicon.mem_union.mpr (.inr mentioned))
    rw [holds, holds, left, right]
  | negation a ih =>
    have same := ih (alike.part (fun _ mentioned => mentioned) fun _ mentioned => mentioned)
    rw [holds, holds, same]

end Condition

section Built

variable {b : Blueprint} {flow : Flow}

-- An expression under a name is one that the blueprint has there.
theorem expression_parsed (built : Flow.build b = .ok flow) {name : String} {tree : Condition}
    (found : flow.vocabulary.conditions.find? name = some (.expression tree)) :
    ∃ source, b.conditions.find? name = some source ∧ Condition.parse source = .ok tree := by
  obtain ⟨_, rfl⟩ := built_iff.mp built
  change b.compiledConditions.find? name = some (.expression tree) at found
  rw [find_compiled, Option.or_eq_some_iff] at found
  rcases found with own | ⟨_, reserved⟩
  · obtain ⟨source, listed, compiled⟩ := Option.bind_eq_some_iff.mp own
    refine ⟨source, listed, ?_⟩
    split at compiled
    · cases compiled
    · split at compiled
      · rename_i c parsed
        cases compiled
        exact parsed
      · cases compiled
  · simp only [NamedCondition.reserved, Table.ofList, List.foldl_cons, List.foldl_nil,
      Table.find?_insert, Table.find?_empty] at reserved
    split at reserved
    · cases reserved
    · split at reserved <;> cases reserved

theorem mentions_declared (built : Flow.build b = .ok flow) {name : String} {tree : Condition}
    (found : flow.vocabulary.conditions.find? name = some (.expression tree)) :
    (∀ field ∈ tree.fields, b.fields.contains field) ∧
      ∀ category ∈ tree.categories, b.categories.contains category := by
  obtain ⟨source, listed, parsed⟩ := expression_parsed built found
  obtain ⟨fits, _⟩ := built_iff.mp built
  obtain ⟨_, _, read, parsed', declared⟩ := fits.conditions name source listed
  rw [parsed] at parsed'
  cases parsed'
  constructor
  · intro field mentioned
    obtain ⟨c, member, mentions⟩ := Condition.mem_fields.mp mentioned
    exact (declared c member).1 field mentions
  · intro category mentioned
    obtain ⟨c, member, mentions⟩ := Condition.mem_categories.mp mentioned
    exact (declared c member).2 category mentions

theorem missingRequired_declared (built : Flow.build b = .ok flow) {data other : Data}
    (same : ∀ field, b.fields.contains field → other.find? field = data.find? field)
    (state : String) : flow.missingRequired state other = flow.missingRequired state data := by
  obtain ⟨fits, rfl⟩ := built_iff.mp built
  unfold Flow.missingRequired
  cases known : Flow.state? ⟨b, b.vocabulary⟩ state with
  | none => rfl
  | some s =>
    apply List.filter_congr
    intro field required
    have declared := (fits.states state s known).data field (List.mem_append_left _ required)
    unfold Flow.isMissing
    rw [same field declared]

-- The reserved conditions look at no more than the others do.
theorem holds_declared (built : Flow.build b = .ok flow) (facts : Facts) {other : Data}
    (same : ∀ field, b.fields.contains field → other.find? field = facts.data.find? field)
    (name : String) : flow.holds { facts with data := other } name = flow.holds facts name := by
  unfold Flow.holds
  cases found : flow.vocabulary.conditions.find? name with
  | none => rfl
  | some condition =>
    cases condition with
    | always => rfl
    | dataComplete => exact congrArg List.isEmpty (missingRequired_declared built same _)
    | expression tree =>
      have declared := mentions_declared built found
      refine Condition.holds_alike ⟨rfl, rfl, rfl, fun field mentioned => ?_, fun _ _ _ => rfl⟩
      exact same field (declared.1 field mentioned)

end Built

theorem conditions_see_mentions :
    (∀ (tree : Condition) (k l : Context), tree.Alike k l → tree.holds k = tree.holds l) ∧
    ∀ (b : Blueprint) (flow : Flow), Flow.build b = .ok flow →
      (∀ name tree, flow.vocabulary.conditions.find? name = some (.expression tree) →
        (∀ field ∈ tree.fields, b.fields.contains field) ∧
        ∀ category ∈ tree.categories, b.categories.contains category) ∧
      ∀ (facts : Facts) (other : Data),
        (∀ field, b.fields.contains field → other.find? field = facts.data.find? field) →
        ∀ name, flow.holds { facts with data := other } name = flow.holds facts name := by
  refine ⟨fun tree k l alike => Condition.holds_alike alike, fun b flow built => ⟨?_, ?_⟩⟩
  · exact fun name tree found => mentions_declared built found
  · exact fun facts other same name => holds_declared built facts same name

def curious : Condition :=
  .both (.comparison ⟨.intent, .isMember, false, .category "questions"⟩)
    (.comparison ⟨.data "name", .isPresent, false, .absent⟩)

def curiousText : String := "intent IN @questions AND data.name EXISTS"

def reception : Blueprint where
  initialState := "desk"
  intents := ["price", "unclear"]
  actions := ["continue", "escalate_to_human"]
  fields := Table.empty.insert "name" {}
  categories := Table.empty.insert "questions" ["price"]
  conditions := Table.empty.insert "curious" curiousText
  states := Table.empty.insert "desk" {}

def receptionFlow : Flow := ⟨reception, reception.vocabulary⟩

def introduced : Facts where
  data := .ofList [("name", .text "Ann")]
  intent := "price"
  state := "desk"
  turn := 2

-- The same turn, with something beside it that the flow has no name for.
def embroidered : Data := .ofList [("hobby", .text "chess"), ("name", .text "Ann")]

theorem curious_read : Condition.parse curiousText = .ok curious := by
  have writable : curious.Writable :=
    ⟨⟨fun _ h => Field.noConfusion h, rfl, fun _ h => Literal.category.inj h ▸ by decide⟩,
      ⟨fun _ h => Field.data.inj h ▸ by decide, rfl, fun _ h => Literal.noConfusion h⟩⟩
  have numbers : ∀ x ∈ curious.numbers, (Token.number x).Legible := by
    intro x member
    change x ∈ [] at member
    cases member
  have written : curious.Written curiousText.toList := by
    refine ⟨_, .both (.comparison _) (.comparison _), ?_⟩
    have spelled : curiousText.toList = "intent".toList ++ ([' '] ++ ("IN".toList ++ ([' '] ++
        (('@' :: "questions".toList) ++ ([' '] ++ ("AND".toList ++ ([' '] ++
        ("data.name".toList ++ ([' '] ++ "EXISTS".toList))))))))) := by
      decide
    rw [spelled]
    have gap : ∀ c ∈ [' '], Token.isSpace c = true := by simp [Token.isSpace]
    refine .next (.ident "intent") (by decide) gap ?_
    refine .next (.fixed (by decide)) (by decide) gap ?_
    refine .next (.category "questions") (by decide) gap ?_
    refine .next (.fixed (by decide)) (by decide) gap ?_
    refine .next (.ident "data.name") (by decide) gap ?_
    exact .last (.fixed (by decide))
  have read := Condition.parse_of_written writable numbers written
  rwa [String.ofList_toList] at read

theorem reception_built : Flow.build reception = .ok receptionFlow := by
  have unlinked : reception.isCyclic "questions" = false := by
    refine Bool.eq_false_iff.mpr fun cyclic => ?_
    obtain ⟨other, first, _⟩ := Relation.TransGen.head'_iff.mp (Blueprint.cyclic_iff.mp cyclic)
    cases first.1
  have cycles : reception.cycleViolations = [] := by
    change (["questions"].filter reception.isCyclic).map Violation.categoryCycle = []
    rw [List.filter_cons_of_neg (by rw [unlinked]; decide)]
    rfl
  have conditions : reception.conditionViolations reception.vocabulary = [] := by
    have listed : reception.conditions.entries = [("curious", curiousText)] := rfl
    rw [Blueprint.conditionViolations, listed, List.flatMap_singleton]
    dsimp only
    rw [if_neg (by decide), curious_read]
    rfl
  have clean : reception.violations reception.vocabulary = [] := by
    unfold Blueprint.violations
    rw [cycles, conditions]
    rfl
  exact built_iff.mpr ⟨violations_nil_iff.mp clean, rfl⟩

theorem curious_found :
    receptionFlow.vocabulary.conditions.find? "curious" = some (.expression curious) := by
  change reception.compiledConditions.find? "curious" = _
  rw [find_compiled]
  have listed : reception.conditions.find? "curious" = some curiousText := rfl
  rw [listed, Option.bind_some, if_neg (by decide), curious_read]
  rfl

theorem curious_unswayed :
    let k := receptionFlow.context introduced
    let l : Context :=
      ⟨{ introduced with data := embroidered }, k.categories.insert "pastimes" .empty⟩
    (Flow.build reception = .ok receptionFlow ∧ curious.Alike k l ∧
      receptionFlow.vocabulary.conditions.find? "curious" = some (.expression curious) ∧
      ∀ field, reception.fields.contains field →
        embroidered.find? field = introduced.data.find? field) ∧
    curious.holds k = curious.holds l ∧
    (∀ field ∈ curious.fields, reception.fields.contains field) ∧
    receptionFlow.holds { introduced with data := embroidered } "curious" =
      receptionFlow.holds introduced "curious" := by
  intro k l
  have declared : ∀ field, reception.fields.contains field →
      embroidered.find? field = introduced.data.find? field := by
    intro field known
    have only : field = "name" := by
      change (Table.empty.insert "name" _).contains field at known
      rw [Table.contains_insert] at known
      simpa [Table.contains] using known
    rw [only]
    rfl
  have alike : curious.Alike k l := by
    refine ⟨rfl, rfl, rfl, fun name mentioned => ?_, fun name mentioned intent => ?_⟩
    · have only : name = "name" := by
        simpa [curious, Condition.fields, Lexicon.mem_union, Lexicon.mem_insert,
          Lexicon.not_mem_empty] using mentioned
      rw [only]
      rfl
    · have only : name = "questions" := by
        simpa [curious, Condition.categories, Lexicon.mem_union, Lexicon.mem_insert,
          Lexicon.not_mem_empty] using mentioned
      rw [only]
      unfold Context.lists
      rw [Table.find?_insert, if_neg (by decide)]
  obtain ⟨coincide, flows⟩ := conditions_see_mentions
  obtain ⟨mentions, unswayed⟩ := flows reception receptionFlow reception_built
  exact ⟨⟨reception_built, alike, curious_found, declared⟩, coincide curious k l alike,
    (mentions "curious" curious curious_found).1,
    unswayed introduced embroidered declared "curious"⟩

end Colloquy
