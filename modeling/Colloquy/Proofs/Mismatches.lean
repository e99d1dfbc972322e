import Colloquy.Proofs.RoundTrip
import Colloquy.Proofs.WellFormed

/-!
Comparisons of a field with a literal of another sort. They do not hold, but where a text is looked
for in a text: there a literal that is no text is the empty one.
-/
namespace Colloquy

inductive Sense where
  | text
  | number
  | truth
deriving DecidableEq

def Resolved.sense? : Resolved → Option Sense
  | .value (.text _) | .text _ => some .text
  | .value (.int _) | .value (.float _) | .number _ => some .number
  | .value (.bool _) => some .truth
  | .value (.list _) => none

-- Patterns match texts, and texts are what a category has for members.
def Literal.sense? : Literal → Option Sense
  | .text _ | .pattern _ | .category _ => some .text
  | .number _ => some .number
  | .bool _ => some .truth
  | .absent => none

-- What a field resolves to and what it is compared with are of two sorts.
def Mismatched (resolved : Resolved) (literal : Literal) : Prop :=
  ∃ held asked, resolved.sense? = some held ∧ literal.sense? = some asked ∧ held ≠ asked

namespace Operator

def seeks : Operator → Bool
  | .contains | .startsWith | .endsWith => true
  | _ => false

inductive Finds (part whole : String) : Operator → Prop where
  | within (inside : part.toList <:+: whole.toList) : Finds part whole .contains
  | front (lead : part.toList <+: whole.toList) : Finds part whole .startsWith
  | back (tail : part.toList <:+ whole.toList) : Finds part whole .endsWith

end Operator

-- A comparison before its negation; a field that is not there makes it false.
def Comparison.plain (c : Comparison) (context : Context) : Bool :=
  (c.field.resolve context).any (c.positive context)

theorem occurs_iff {part whole : List Char} : occurs part whole = true ↔ part <:+: whole := by
  induction whole with
  | nil => simp [occurs]
  | cons c rest ih => simp [occurs, List.infix_cons_iff, ih]

namespace Resolved

variable {resolved : Resolved}

theorem text?_none (other : resolved.sense? ≠ some .text) : resolved.text? = none := by
  cases resolved with
  | value v => cases v <;> simp_all [sense?, text?, Value.text?]
  | text s => exact absurd rfl other
  | number x => rfl

theorem text?_some (text : resolved.sense? = some .text) : ∃ whole, resolved.text? = some whole := by
  cases resolved with
  | value v => cases v <;> cases text; exact ⟨_, rfl⟩
  | text s => exact ⟨s, rfl⟩
  | number x => cases text

theorem number?_none (other : resolved.sense? ≠ some .number) : resolved.number? = none := by
  cases resolved with
  | value v => cases v <;> simp_all [sense?, number?, Value.number?]
  | text s => rfl
  | number x => exact absurd rfl other

end Resolved

namespace Mismatched

variable {resolved : Resolved} {literal : Literal} (apart : Mismatched resolved literal)
include apart

theorem single (items : List Value) : resolved ≠ .value (.list items) := by
  rintro rfl
  obtain ⟨_, _, held, _⟩ := apart
  cases held

-- Nothing but a text is set against a pattern, a category or a text without a mismatch.
theorem foreign (textual : literal.sense? = some .text) : resolved.text? = none := by
  obtain ⟨_, _, held, asked, differ⟩ := apart
  apply Resolved.text?_none
  intro text
  rw [held] at text
  rw [asked] at textual
  exact differ (Option.some.inj (text.trans textual.symm))

end Mismatched

theorem Operator.finds_empty {operator : Operator} (seeks : operator.seeks = true)
    (whole : String) : operator.Finds "" whole := by
  cases operator with
  | contains => exact .within List.nil_infix
  | startsWith => exact .front List.nil_prefix
  | endsWith => exact .back List.nil_suffix
  | isMatch | equals | greater | less | atLeast | atMost | isPresent | isMember => cases seeks

namespace Comparison

variable {c : Comparison} {resolved : Resolved}

-- Unless it is asked of the items of a list, a text is looked for in a text.
theorem positive_onText (seeks : c.operator.seeks = true)
    (single : ∀ items, resolved ≠ .value (.list items)) (context : Context) :
    ∃ holds, (∀ part whole, holds part.toList whole.toList = true ↔ c.operator.Finds part whole) ∧
      c.positive context resolved = c.onText resolved holds := by
  obtain ⟨field, operator, negated, literal⟩ := c
  cases operator with
  | contains =>
    refine ⟨occurs, fun part whole => ?_, ?_⟩
    · rw [occurs_iff]
      exact ⟨.within, fun (.within inside) => inside⟩
    · rcases resolved with (_ | _ | _ | _ | items) | _ | _
      case value.list => exact absurd rfl (single items)
      all_goals rfl
  | startsWith =>
    refine ⟨List.isPrefixOf, fun part whole => ?_, rfl⟩
    rw [List.isPrefixOf_iff_prefix]
    exact ⟨.front, fun (.front lead) => lead⟩
  | endsWith =>
    refine ⟨List.isSuffixOf, fun part whole => ?_, rfl⟩
    rw [List.isSuffixOf_iff_suffix]
    exact ⟨.back, fun (.back tail) => tail⟩
  | isMatch | equals | greater | less | atLeast | atMost | isPresent | isMember => cases seeks

theorem positive_text (seeks : c.operator.seeks = true) (context : Context) {whole : String}
    (held : resolved.text? = some whole) : c.positive context resolved = true ↔
      c.operator.Finds c.literal.textOrEmpty whole := by
  have single (items : List Value) : resolved ≠ .value (.list items) := by
    rintro rfl
    cases held
  obtain ⟨holds, exact', tested⟩ := positive_onText seeks single context
  rw [tested, onText, held, Option.any_some, exact']

theorem equal_mismatched (apart : Mismatched resolved c.literal) : c.equal resolved = false := by
  obtain ⟨field, operator, negated, literal⟩ := c
  obtain ⟨held, asked, resolves, compares, differ⟩ := apart
  unfold equal
  cases resolved with
  | value v =>
    cases v <;> cases literal <;> cases resolves <;> cases compares <;>
      first | rfl | exact absurd rfl differ
  | text s =>
    cases literal <;> cases resolves <;> cases compares <;> first | rfl | exact absurd rfl differ
  | number x =>
    cases literal <;> cases resolves <;> cases compares <;> first | rfl | exact absurd rfl differ

theorem ordered_mismatched (apart : Mismatched resolved c.literal)
    (holds : Float → Float → Bool) : c.ordered resolved holds = false := by
  obtain ⟨held, asked, resolves, compares, differ⟩ := apart
  unfold ordered
  split
  · rename_i number literal
    rw [literal] at compares
    cases compares
    have other : resolved.sense? ≠ some .number := by
      rw [resolves]
      exact fun same => differ (Option.some.inj same)
    rw [Resolved.number?_none other] at number
    cases number
  · rfl

-- Of the operators that take a literal, only those that look for a text hold across sorts.
theorem positive_mismatched (apart : Mismatched resolved c.literal)
    (takes : c.operator ≠ .isPresent) (context : Context) : c.positive context resolved = true ↔
      c.operator.seeks = true ∧ resolved.sense? = some .text := by
  have foreign := apart.foreign
  have equal := equal_mismatched apart
  have ordered := ordered_mismatched apart
  by_cases seeks : c.operator.seeks = true
  · by_cases text : resolved.sense? = some .text
    · obtain ⟨whole, held⟩ := Resolved.text?_some text
      have empty : c.literal.textOrEmpty = "" := by
        cases literal : c.literal with
        | text part =>
          rw [foreign (by rw [literal]; rfl)] at held
          cases held
        | number | bool | category | pattern | absent => rfl
      rw [positive_text seeks context held, empty]
      exact iff_of_true (Operator.finds_empty seeks whole) ⟨seeks, text⟩
    · obtain ⟨holds, _, tested⟩ := positive_onText seeks apart.single context
      rw [tested, onText, Resolved.text?_none text]
      simp [text]
  · have refused : c.positive context resolved = false := by
      obtain ⟨field, operator, negated, literal⟩ := c
      cases operator with
      | contains | startsWith | endsWith => exact absurd rfl seeks
      | isPresent => exact absurd rfl takes
      | equals => exact equal
      | greater | less | atLeast | atMost => exact ordered _
      | isMatch =>
        cases literal with
        | pattern p =>
          change resolved.text?.any p.isMatch = false
          rw [foreign rfl, Option.any_none]
        | text | number | bool | category | absent => rfl
      | isMember =>
        cases literal with
        | category name =>
          change (context.categories.find? name).any
            (fun members => resolved.text?.any members.contains) = false
          rw [foreign rfl]
          cases context.categories.find? name <;> rfl
        | text | number | bool | pattern | absent => rfl
    simp [refused, seeks]

end Comparison

namespace Condition

theorem Writable.comparison {tree : Condition} (writable : tree.Writable) {c : Comparison}
    (listed : c ∈ tree.comparisons) : c.Writable := by
  induction tree with
  | always => cases listed
  | comparison own =>
    cases List.mem_singleton.mp listed
    exact writable
  | both a b iha ihb | either a b iha ihb =>
    rcases List.mem_append.mp listed with left | right
    · exact iha writable.1 left
    · exact ihb writable.2 right
  | negation a ih => exact ih writable listed

theorem accepts_of_parse {source : String} {tree : Condition} (parsed : parse source = .ok tree)
    {c : Comparison} (listed : c ∈ tree.comparisons) :
    c.operator.accepts c.negated c.literal = true := by
  have compares : tree ≠ .always := by
    rintro rfl
    cases listed
  exact ((writable_of_parse parsed compares).comparison listed).accepted

end Condition

theorem mismatched_holds_iff {source : String} {tree : Condition}
    (parsed : Condition.parse source = .ok tree) {c : Comparison} (listed : c ∈ tree.comparisons)
    {context : Context} {resolved : Resolved} (resolves : c.field.resolve context = some resolved) :
    (Mismatched resolved c.literal →
      (c.plain context = true ↔ c.operator.seeks = true ∧ resolved.sense? = some .text)) ∧
    ∀ whole, resolved.text? = some whole → c.operator.seeks = true →
      (c.plain context = true ↔ ∀ part, c.literal = .text part → c.operator.Finds part whole) := by
  have accepts := Condition.accepts_of_parse parsed listed
  unfold Comparison.plain
  rw [resolves, Option.any_some]
  constructor
  · intro apart
    refine Comparison.positive_mismatched apart ?_ context
    intro presence
    obtain ⟨_, asked, _, compares, _⟩ := apart
    cases literal : c.literal with
    | absent =>
      rw [literal] at compares
      cases compares
    | text | number | bool | category | pattern =>
      rw [presence, literal] at accepts
      cases accepts
  · intro whole held seeks
    rw [Comparison.positive_text seeks context held]
    cases c.literal with
    | text own => simp [Literal.textOrEmpty]
    | number | bool | category | pattern | absent =>
      simp [Literal.textOrEmpty, Operator.finds_empty seeks]

def unrelated : Comparison := ⟨.data "notes", .contains, false, .number 5⟩

def unrelatedText : String := "data.notes CONTAINS 5"

def noted : Context where
  data := .ofList [("notes", .text "call back")]
  intent := "hello"
  state := "desk"
  turn := 1
  categories := .empty

theorem five_rendered : (Decimal.plain.render 5).toList = "5".toList := by
  decide +kernel

theorem unrelated_read : Condition.parse unrelatedText = .ok (.comparison unrelated) := by
  have writable : (Condition.comparison unrelated).Writable :=
    ⟨fun _ h => Field.data.inj h ▸ by decide, rfl, fun _ h => Literal.noConfusion h⟩
  have numbers : ∀ x ∈ (Condition.comparison unrelated).numbers, (Token.number x).Legible := by
    intro x member
    cases List.mem_singleton.mp member
    change Token.readNumber? (Decimal.plain.render 5).toList = some 5
    decide +kernel
  have written : (Condition.comparison unrelated).Written unrelatedText.toList := by
    refine ⟨_, .operand (.comparison _), ?_⟩
    have spelled : unrelatedText.toList = "data.notes".toList ++ ([' '] ++ ("CONTAINS".toList ++
        ([' '] ++ (Decimal.plain.render 5).toList))) := by
      rw [five_rendered]
      decide
    rw [spelled]
    apply Token.Spaced.next (.ident "data.notes") (by decide) (by simp [Token.isSpace])
    apply Token.Spaced.next (.fixed (by decide)) (by decide) (by simp [Token.isSpace])
    exact .last (.number 5)
  have read := Condition.parse_of_written writable numbers written
  rwa [String.ofList_toList] at read

theorem unrelated_mismatched : Mismatched (.value (.text "call back")) unrelated.literal :=
  ⟨.text, .number, rfl, rfl, by decide⟩

theorem five_found_anywhere : Condition.parse unrelatedText = .ok (.comparison unrelated) ∧
    unrelated.field.resolve noted = some (.value (.text "call back")) ∧
    Mismatched (.value (.text "call back")) unrelated.literal ∧
    unrelated.plain noted = true ∧ ¬ "5".toList <:+: "call back".toList := by
  refine ⟨unrelated_read, rfl, unrelated_mismatched, rfl, ?_⟩
  rw [← occurs_iff]
  decide

theorem unrelated_exactly : Condition.parse unrelatedText = .ok (.comparison unrelated) ∧
    unrelated.field.resolve noted = some (.value (.text "call back")) ∧
    Mismatched (.value (.text "call back")) unrelated.literal ∧
    (unrelated.plain noted = true ↔ unrelated.operator.seeks = true ∧
      (Resolved.value (.text "call back")).sense? = some .text) := by
  have resolves : unrelated.field.resolve noted = some (.value (.text "call back")) := rfl
  have exactly := mismatched_holds_iff unrelated_read (List.mem_singleton_self _) resolves
  exact ⟨unrelated_read, resolves, unrelated_mismatched, exactly.1 unrelated_mismatched⟩

end Colloquy
