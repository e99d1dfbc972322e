import Mathlib.Data.List.Basic
import Colloquy.Proofs.WellFormed

/-!
Unfolding categories by walking along their references, with the path as all there is to remember.
-/
namespace Colloquy

structure Unfolding where
  intents : List String := []
  -- Categories that it came back to.
  cyclic : List String := []
  reports : List Violation := []

namespace Unfolding

def collect (l : List α) (part : α → Unfolding) : Unfolding where
  intents := l.flatMap fun x => (part x).intents
  cyclic := l.flatMap fun x => (part x).cyclic
  reports := l.flatMap fun x => (part x).reports

-- What is wrong with a category is only said by the walk that starts there.
def fault (path : List String) (violation : Violation) : Unfolding where
  reports := if path.isEmpty then [violation] else []

end Unfolding

namespace Blueprint

-- What one member of a category brings in; `follow` walks on from a category that it refers to.
def visit (b : Blueprint) (intents : Lexicon) (path : List String) (category : String)
    (follow : String → Unfolding) (member : String) : Unfolding :=
  match reference? member with
  | some inner =>
    if b.categories.contains inner then follow inner
    else .fault path (.unknownCategory (.category category) inner)
  | none =>
    if intents.contains member then { intents := [member] }
    else .fault path (.unknownIntent (.category category) member)

-- Every step puts one more declared category on the path, so there is an end to them.
def walk (b : Blueprint) (intents : Lexicon) (path : List String) (category : String) : Unfolding :=
  if category ∈ path then { cyclic := [category] }
  else if b.categories.contains category then
    .collect (b.membersOf category) <| b.visit intents path category fun inner =>
      b.walk intents (category :: path) inner
  else {}
termination_by (b.categories.keys.filter (· ∉ path)).length
decreasing_by
  rename_i fresh declared
  refine length_filter_lt (a := category) ?_ (Table.mem_keys.mpr declared) ?_ ?_
  · intro x
    simp
  · simpa using fresh
  · simp

-- The categories with their intents, what their members report, and the cyclic ones among them.
structure Unfolded where
  categories : Table Lexicon
  reports : List Violation
  cycles : Lexicon

def unfolded (b : Blueprint) : Unfolded :=
  let walkFrom := b.walk (.ofList b.intents) []
  { categories := b.categories.map fun name _ => .ofList (walkFrom name).intents
    reports := b.categories.keys.flatMap fun name => (walkFrom name).reports
    cycles := .ofList (b.categories.keys.flatMap fun name => (walkFrom name).cyclic) }

-- A route that takes no category twice and none of the path.
inductive Route (b : Blueprint) : List String → String → String → Prop where
  | stay (fresh : category ∉ path) : Route b path category category
  | step {inner : String} (fresh : category ∉ path) (edge : b.Refers category inner)
      (rest : Route b (category :: path) inner other) : Route b path category other

-- A route that takes no category twice until it comes back to the one named.
inductive Returns (b : Blueprint) (name : String) : List String → String → Prop where
  | back (onPath : name ∈ path) : Returns b name path name
  | step {inner : String} (fresh : category ∉ path) (edge : b.Refers category inner)
      (rest : Returns b name (category :: path) inner) : Returns b name path category

section Walks

variable {b : Blueprint} {intents : Lexicon} {path : List String} {category other name : String}
  {follow : String → Unfolding}

theorem Route.reaches (route : b.Route path category other) :
    Relation.ReflTransGen b.Refers category other := by
  induction route with
  | stay => exact .refl
  | step _ edge _ ih => exact ih.head edge

-- One more reference either leads on or to a category that the route has taken before.
theorem Route.extend {last : String} (route : b.Route path category last)
    (edge : b.Refers last other) (fresh : other ∉ path) : b.Route path category other := by
  induction route with
  | @stay path category start =>
    by_cases again : other = category
    · subst again
      exact .stay fresh
    · exact .step start edge (.stay (by simp [again, fresh]))
  | @step path category inner last start first _ ih =>
    by_cases again : other = category
    · subst again
      exact .stay fresh
    · exact .step start first (ih edge (by simp [again, fresh]))

theorem route_iff :
    b.Route [] category other ↔ Relation.ReflTransGen b.Refers category other := by
  refine ⟨Route.reaches, fun path => ?_⟩
  induction path with
  | refl => exact .stay List.not_mem_nil
  | tail _ edge ih => exact ih.extend edge List.not_mem_nil

theorem Route.returns {last : String} (route : b.Route path category last)
    (edge : b.Refers last name) (onPath : name ∈ category :: path) :
    b.Returns name path category := by
  induction route with
  | stay start => exact .step start edge (.back onPath)
  | step start first _ ih => exact .step start first (ih edge (List.mem_cons_of_mem _ onPath))

-- All categories of the path lead to the one where the walk is.
theorem Returns.circles (returns : b.Returns name path category)
    (leads : ∀ earlier ∈ path, Relation.TransGen b.Refers earlier category) :
    Relation.TransGen b.Refers name name := by
  induction returns with
  | back onPath => exact leads name onPath
  | step _ edge _ ih =>
    apply ih
    intro earlier taken
    rcases List.mem_cons.mp taken with rfl | before
    · exact .single edge
    · exact (leads earlier before).tail edge

theorem returns_iff : b.Returns name [] name ↔ Relation.TransGen b.Refers name name := by
  constructor
  · intro returns
    apply returns.circles
    simp
  · intro circle
    obtain ⟨last, path, edge⟩ := Relation.TransGen.tail'_iff.mp circle
    exact (route_iff.mpr path).returns edge (List.mem_singleton_self _)

theorem refers_iff : b.Refers category other ↔
    (∃ member ∈ b.membersOf category, reference? member = some other) ∧
      b.categories.contains other = true := by
  rw [Refers, references, List.mem_filterMap]

theorem mem_intents_visit {member : String} :
    name ∈ (b.visit intents path category follow member).intents ↔
      ((reference? member = none ∧ intents.contains member = true) ∧ name = member) ∨
        ∃ inner, (reference? member = some inner ∧ b.categories.contains inner = true) ∧
          name ∈ (follow inner).intents := by
  unfold visit
  split <;> split <;> rename_i referred known <;> simp [referred, known, and_assoc, Unfolding.fault]

theorem mem_cyclic_visit {member : String} :
    name ∈ (b.visit intents path category follow member).cyclic ↔
      ∃ inner, (reference? member = some inner ∧ b.categories.contains inner = true) ∧
        name ∈ (follow inner).cyclic := by
  unfold visit
  split <;> split <;> rename_i referred known <;> simp [referred, known, and_assoc, Unfolding.fault]

theorem membersOf_undeclared (undeclared : ¬ b.categories.contains category = true) :
    b.membersOf category = [] := by
  rw [membersOf, Option.not_isSome_iff_eq_none.mp undeclared, Option.getD_none]

theorem not_refers (undeclared : ¬ b.categories.contains category = true) :
    ¬ b.Refers category other := by
  simp [refers_iff, membersOf_undeclared undeclared]

theorem mem_intents_collect : name ∈ (Unfolding.collect (b.membersOf category)
      (b.visit intents path category follow)).intents ↔
    name ∈ b.ownIntents intents category ∨
      ∃ inner, b.Refers category inner ∧ name ∈ (follow inner).intents := by
  simp only [Unfolding.collect, List.mem_flatMap, mem_intents_visit, refers_iff, ownIntents,
    List.mem_filter]
  constructor
  · rintro ⟨member, listed, ⟨⟨plain, known⟩, rfl⟩ | ⟨inner, ⟨referred, declared⟩, found⟩⟩
    · exact .inl ⟨listed, by simp [plain, known]⟩
    · exact .inr ⟨inner, ⟨⟨member, listed, referred⟩, declared⟩, found⟩
  · rintro (⟨listed, own⟩ | ⟨inner, ⟨⟨member, listed, referred⟩, declared⟩, found⟩)
    · exact ⟨name, listed, .inl (by simpa using own)⟩
    · exact ⟨member, listed, .inr ⟨inner, ⟨referred, declared⟩, found⟩⟩

theorem mem_cyclic_collect : name ∈ (Unfolding.collect (b.membersOf category)
      (b.visit intents path category follow)).cyclic ↔
    ∃ inner, b.Refers category inner ∧ name ∈ (follow inner).cyclic := by
  simp only [Unfolding.collect, List.mem_flatMap, mem_cyclic_visit, refers_iff]
  constructor
  · rintro ⟨member, listed, inner, ⟨referred, declared⟩, found⟩
    exact ⟨inner, ⟨⟨member, listed, referred⟩, declared⟩, found⟩
  · rintro ⟨inner, ⟨⟨member, listed, referred⟩, declared⟩, found⟩
    exact ⟨member, listed, inner, ⟨referred, declared⟩, found⟩

-- A walk and a route put the same categories on their path, one for each recursion.
theorem mem_intents_walk : name ∈ (b.walk intents path category).intents ↔
    ∃ other, b.Route path category other ∧ name ∈ b.ownIntents intents other := by
  fun_induction walk b intents path category with
  | case1 path category onPath =>
    refine iff_of_false List.not_mem_nil ?_
    rintro ⟨other, route, own⟩
    cases route with
    | stay fresh => exact fresh onPath
    | step fresh => exact fresh onPath
  | case2 path category fresh declared ih =>
    rw [mem_intents_collect]
    constructor
    · rintro (own | ⟨inner, edge, found⟩)
      · exact ⟨category, .stay fresh, own⟩
      · obtain ⟨other, route, own⟩ := (ih inner).mp found
        exact ⟨other, .step fresh edge route, own⟩
    · rintro ⟨other, route, own⟩
      cases route with
      | stay => exact .inl own
      | step _ edge rest => exact .inr ⟨_, edge, (ih _).mpr ⟨other, rest, own⟩⟩
  | case3 path category fresh undeclared =>
    refine iff_of_false List.not_mem_nil ?_
    rintro ⟨other, route, own⟩
    cases route with
    | stay => simp [ownIntents, membersOf_undeclared undeclared] at own
    | step _ edge => exact not_refers undeclared edge

theorem mem_cyclic_walk :
    name ∈ (b.walk intents path category).cyclic ↔ b.Returns name path category := by
  fun_induction walk b intents path category with
  | case1 path category onPath =>
    rw [List.mem_singleton]
    constructor
    · rintro rfl
      exact .back onPath
    · intro returns
      cases returns with
      | back => rfl
      | step fresh => exact absurd onPath fresh
  | case2 path category fresh declared ih =>
    rw [mem_cyclic_collect]
    constructor
    · rintro ⟨inner, edge, found⟩
      exact .step fresh edge ((ih inner).mp found)
    · intro returns
      cases returns with
      | back onPath => exact absurd onPath fresh
      | step _ edge rest => exact ⟨_, edge, (ih _).mpr rest⟩
  | case3 path category fresh undeclared =>
    refine iff_of_false List.not_mem_nil fun returns => ?_
    cases returns with
    | back onPath => exact fresh onPath
    | step _ edge => exact not_refers undeclared edge

theorem reports_visit {v : Vocabulary} {member : String}
    (quiet : ∀ inner, (follow inner).reports = []) :
    (b.visit v.intents path category follow member).reports =
      if path = [] then b.memberViolations v category member else [] := by
  unfold visit memberViolations
  cases reference? member with
  | some inner =>
    by_cases declared : b.categories.contains inner = true <;>
      simp [declared, quiet, need, Unfolding.fault]
  | none =>
    by_cases known : v.intents.contains member = true <;>
      simp [known, Vocabulary.needIntent, need, Unfolding.fault]

-- Only the walk that starts at a category says what is wrong with its members.
theorem reports_walk {v : Vocabulary} : (b.walk v.intents path category).reports =
    if path = [] then (b.membersOf category).flatMap (b.memberViolations v category) else [] := by
  fun_induction walk b v.intents path category with
  | case1 path category onPath =>
    rw [if_neg (List.ne_nil_of_mem onPath)]
  | case2 path category fresh declared ih =>
    have quiet (inner : String) : (b.walk v.intents (category :: path) inner).reports = [] := by
      rw [ih, if_neg (List.cons_ne_nil _ _)]
    simp only [Unfolding.collect, reports_visit quiet]
    split
    · rfl
    · exact List.flatMap_eq_nil_iff.mpr fun _ _ => rfl
  | case3 path category fresh undeclared =>
    simp [membersOf_undeclared undeclared]

end Walks

end Blueprint

def Violation.ofCategory : Violation → Bool
  | .unknownCategory (.category _) _ | .unknownIntent (.category _) _ | .categoryCycle _ => true
  | _ => false

namespace Blueprint

def Place.ofCategory : Place → Bool
  | .member .. | .category _ | .intent (.category _) _ | .inCategory (.category _) _ => true
  | _ => false

theorem Fault.ofCategory {b : Blueprint} (fault : b.Fault place violation) :
    violation.ofCategory = place.ofCategory := by
  cases fault with
  | @unknownIntent _ site | @unknownCategory _ site => cases site <;> rfl
  | _ => rfl

def memberPlaces (b : Blueprint) : List Place :=
  b.categories.entries.flatMap fun (name, members) => members.map (.member name)

end Blueprint

namespace Reports

variable {b : Blueprint}

theorem unique (left : Reports b places violations) (right : Reports b places others) :
    violations = others := by
  induction left generalizing others with
  | nil =>
    cases right
    rfl
  | fault wrong _ ih =>
    cases right with
    | fault wrong' rest => rw [wrong.unique wrong', ih rest]
    | fine right => exact absurd wrong (right _)
  | fine right _ ih =>
    cases right with
    | fault wrong => exact absurd wrong (right _)
    | fine _ rest => exact ih rest

theorem ofCategory (report : Reports b places violations) :
    Reports b (places.filter (·.ofCategory)) (violations.filter (·.ofCategory)) := by
  induction report with
  | nil => exact .nil
  | fault wrong _ ih =>
    rw [List.filter_cons, List.filter_cons, wrong.ofCategory]
    split
    · exact .fault wrong ih
    · exact ih
  | fine right _ ih =>
    rw [List.filter_cons]
    split
    · exact .fine right ih
    · exact ih

end Reports

-- No place among them speaks of a category as such.
def Elsewhere (places : List Blueprint.Place) : Prop := ∀ place ∈ places, place.ofCategory = false

section Elsewhere

variable {place : Blueprint.Place} {left right rest : List Blueprint.Place}

theorem elsewhere_append : Elsewhere (left ++ right) ↔ Elsewhere left ∧ Elsewhere right :=
  List.forall_mem_append

theorem elsewhere_cons :
    Elsewhere (place :: rest) ↔ place.ofCategory = false ∧ Elsewhere rest :=
  List.forall_mem_cons

theorem elsewhere_nil : Elsewhere [] := List.forall_mem_nil _

theorem elsewhere_map {l : List α} {f : α → Blueprint.Place} :
    Elsewhere (l.map f) ↔ ∀ x ∈ l, (f x).ofCategory = false :=
  List.forall_mem_map

theorem elsewhere_flatMap {l : List α} {f : α → List Blueprint.Place} :
    Elsewhere (l.flatMap f) ↔ ∀ x ∈ l, Elsewhere (f x) :=
  List.forall_mem_flatMap

theorem Elsewhere.filter (elsewhere : Elsewhere rest) : rest.filter (·.ofCategory) = [] := by
  rw [List.filter_eq_nil_iff]
  intro place listed
  simp [elsewhere place listed]

theorem elsewhere_declared (kind : NameKind) (earlier ids : List String) :
    Elsewhere (declaredPlaces kind earlier ids) := by
  induction ids generalizing earlier with
  | nil => exact elsewhere_nil
  | cons name rest ih => exact elsewhere_cons.mpr ⟨rfl, ih _⟩

theorem elsewhere_condition (name source : String) : Elsewhere (conditionPlaces name source) := by
  refine elsewhere_cons.mpr ⟨rfl, ?_⟩
  split
  · exact elsewhere_nil
  · split
    · exact elsewhere_nil
    · simp [elsewhere_append, elsewhere_map, Blueprint.Place.ofCategory]

theorem elsewhere_outcome {site : Site} {use : String → Blueprint.Place}
    (each : ∀ name, (use name).ofCategory = false) (o : Outcome) :
    Elsewhere (outcomePlaces site use o) := by
  cases o with
  | direct name => exact elsewhere_cons.mpr ⟨each name, elsewhere_nil⟩
  | chain clauses =>
    refine elsewhere_cons.mpr ⟨rfl, elsewhere_flatMap.mpr fun e _ => ?_⟩
    exact elsewhere_cons.mpr ⟨rfl, elsewhere_cons.mpr ⟨each _, elsewhere_nil⟩⟩

theorem elsewhere_transition (id trigger : String) (o : Outcome) :
    Elsewhere (transitionPlaces id trigger o) := by
  refine elsewhere_append.mpr ⟨?_, elsewhere_outcome (fun _ => rfl) o⟩
  split
  · exact elsewhere_nil
  · exact elsewhere_cons.mpr ⟨rfl, elsewhere_nil⟩

theorem elsewhere_rule (id intent : String) (o : Outcome) : Elsewhere (rulePlaces id intent o) :=
  elsewhere_cons.mpr ⟨rfl, elsewhere_outcome (fun _ => rfl) o⟩

theorem elsewhere_state (id : String) (s : State) : Elsewhere (statePlaces id s) := by
  simp [statePlaces, elsewhere_append, elsewhere_map, elsewhere_flatMap, elsewhere_transition,
    elsewhere_rule, Blueprint.Place.ofCategory]

theorem ofCategory_memberPlaces (b : Blueprint) :
    b.memberPlaces.filter (·.ofCategory) = b.memberPlaces := by
  simp only [Blueprint.memberPlaces, List.filter_eq_self, List.forall_mem_flatMap,
    List.forall_mem_map]
  exact fun _ _ _ _ => rfl

theorem ofCategory_categories (names : List String) :
    (names.map Blueprint.Place.category).filter (·.ofCategory) = names.map .category := by
  simp only [List.filter_eq_self, List.forall_mem_map]
  exact fun _ _ => rfl

-- The two parts of a check that speak of categories stand together between the others.
theorem ofCategory_places (b : Blueprint) : b.places.filter (·.ofCategory) =
    b.memberPlaces ++ b.categories.keys.map .category := by
  obtain ⟨front, back, split, before, after⟩ : ∃ front back,
      b.places = front ++ (b.memberPlaces ++ b.categories.keys.map .category) ++ back ∧
        Elsewhere front ∧ Elsewhere back := by
    refine ⟨declaredPlaces .intent [] b.intents ++ declaredPlaces .action [] b.actions, ?back,
      ?split, ?before, ?after⟩
    case split =>
      simp only [Blueprint.places, Blueprint.memberPlaces, List.append_assoc]
      rfl
    case before =>
      exact elsewhere_append.mpr ⟨elsewhere_declared _ _ _, elsewhere_declared _ _ _⟩
    case after =>
      simp [elsewhere_append, elsewhere_flatMap, elsewhere_state, elsewhere_condition,
        enginePlaces, questionPlaces, rejectionPlaces, stallPlaces, loopPlaces, objectionPlaces,
        elsewhere_cons, elsewhere_map, elsewhere_nil, Blueprint.Place.ofCategory]
  rw [split, List.filter_append, List.filter_append, List.filter_append, before.filter,
    after.filter, ofCategory_memberPlaces, ofCategory_categories, List.nil_append, List.append_nil]

end Elsewhere

namespace Blueprint

-- A category has a name among its members that is not a reference.
def Lists (b : Blueprint) (category name : String) : Prop :=
  name ∈ b.membersOf category ∧ ∀ other, name ≠ "@" ++ other

structure Unfolds (b : Blueprint) (found : Unfolded) : Prop where
  declared : found.categories.keys = b.categories.keys
  intents : ∀ category held, found.categories.find? category = some held →
    ∀ intent, intent ∈ held ↔ intent ∈ b.intents ∧
      ∃ other, Relation.ReflTransGen b.Refers category other ∧ b.Lists other intent
  reports : Reports b b.memberPlaces found.reports
  cyclic : ∀ name, name ∈ found.cycles.toList ↔ Relation.TransGen b.Refers name name
  ordered : found.cycles.toList.Pairwise (· < ·)

variable {b : Blueprint} {category name : String}

theorem mem_ownIntents : name ∈ b.ownIntents (.ofList b.intents) category ↔
    name ∈ b.intents ∧ b.Lists category name := by
  have plain : (reference? name).isNone = true ↔ ∀ other, name ≠ "@" ++ other := by
    simp [Option.isNone_iff_eq_none, Option.eq_none_iff_forall_ne_some, reference_iff]
  rw [ownIntents, List.mem_filter, Bool.and_eq_true, plain, ← Lexicon.mem_iff_contains,
    Lexicon.mem_ofList, Lists]
  exact ⟨fun ⟨listed, plain, known⟩ => ⟨known, listed, plain⟩,
    fun ⟨known, listed, plain⟩ => ⟨listed, plain, known⟩⟩

theorem mem_unfolded : name ∈ (b.walk (.ofList b.intents) [] category).intents ↔
    name ∈ b.intents ∧ ∃ other, Relation.ReflTransGen b.Refers category other ∧
      b.Lists other name := by
  simp only [mem_intents_walk, route_iff, mem_ownIntents]
  constructor
  · rintro ⟨other, path, known, listed⟩
    exact ⟨known, other, path, listed⟩
  · rintro ⟨known, other, path, listed⟩
    exact ⟨other, path, known, listed⟩

theorem reports_unfolded (b : Blueprint) :
    b.unfolded.reports = b.categoryViolations b.vocabulary := by
  have start (name : String) : (b.walk b.vocabulary.intents [] name).reports =
      (b.membersOf name).flatMap (b.memberViolations b.vocabulary name) := by
    rw [reports_walk, if_pos rfl]
  change b.categories.keys.flatMap (fun name => (b.walk b.vocabulary.intents [] name).reports) = _
  simp only [start, Table.keys, List.flatMap_map, categoryViolations]
  refine List.flatMap_congr fun p entry => ?_
  rw [membersOf, Table.find?_iff_mem.mpr entry, Option.getD_some]

-- A category that reaches itself is one that a walk from there comes back to.
theorem mem_cycles : name ∈ b.unfolded.cycles.toList ↔ Relation.TransGen b.Refers name name := by
  have found : name ∈ b.unfolded.cycles.toList ↔
      ∃ start ∈ b.categories.keys, b.Returns name [] start := by
    simp only [unfolded, Lexicon.mem_toList, Lexicon.mem_ofList, List.mem_flatMap, mem_cyclic_walk]
  rw [found]
  constructor
  · rintro ⟨start, _, returns⟩
    apply returns.circles
    simp
  · intro circle
    exact ⟨name, Table.mem_keys.mpr (refers_declared circle), returns_iff.mpr circle⟩

theorem cycles_unfolded (b : Blueprint) :
    b.unfolded.cycles.toList = b.categories.keys.filter b.isCyclic := by
  refine Table.increasing_ext b.unfolded.cycles.table.ordered
    (b.categories.ordered.sublist List.filter_sublist) fun name => ?_
  rw [mem_cycles, List.mem_filter, cyclic_iff, Table.mem_keys]
  exact ⟨fun circle => ⟨refers_declared circle, circle⟩, And.right⟩

-- The closure and the walk find the same intents.
theorem expand_eq (b : Blueprint) (category : String) :
    b.expand (.ofList b.intents) category =
      .ofList (b.walk (.ofList b.intents) [] category).intents := by
  apply Lexicon.ext_mem
  intro intent
  simp only [expand, Lexicon.mem_ofList, List.mem_flatMap, Lexicon.mem_toList, mem_reached,
    mem_intents_walk, route_iff]

theorem categories_unfolded (b : Blueprint) :
    b.Unfolds b.unfolded ∧ b.vocabulary.categories = b.unfolded.categories ∧
      (b.violations b.vocabulary).filter (·.ofCategory) =
        b.unfolded.reports ++ b.unfolded.cycles.toList.map .categoryCycle := by
  have members : Reports b b.memberPlaces b.unfolded.reports := by
    rw [reports_unfolded]
    exact .flatMap fun _ _ => .map fun _ => .member
  refine ⟨⟨?_, ?_, members, fun _ => mem_cycles, b.unfolded.cycles.table.ordered⟩, ?_, ?_⟩
  · simp [unfolded, Table.keys, Table.map]
  · intro category held found intent
    rw [unfolded, Table.find?_map, Option.map_eq_some_iff] at found
    obtain ⟨_, _, rfl⟩ := found
    rw [Lexicon.mem_ofList, mem_unfolded]
  · simp only [vocabulary, expandedCategories, unfolded, expand_eq]
  -- A check reports the places of categories too, and there is one report of them only.
  · have whole := (Reports.blueprint b).ofCategory
    rw [ofCategory_places] at whole
    rw [cycles_unfolded]
    exact whole.unique (members.append (.cycles _))

end Blueprint

end Colloquy
