import Colloquy.Condition.Parser

/-!
The grammar of conditions as its derivations, and that reading a list of tokens finds the one
derivation it has.

    expression  = conjunction (OR conjunction)*
    conjunction = unary (AND unary)*
    unary       = NOT unary | ( expression ) | atom
    atom        = field relation
    relation    = [NOT] (CONTAINS | STARTS_WITH | ENDS_WITH) operand
                | [NOT] MATCHES text | [NOT] EXISTS | [NOT] IN category
                | (== | !=) operand | (> | < | >= | <=) number
    field       = data.NAME | intent | state | turn
    operand     = text | number | bool | identifier
-/
namespace Colloquy

namespace Grammar

inductive TextOperator where
  | contains
  | startsWith
  | endsWith

namespace TextOperator

def token : TextOperator → Token
  | contains => .contains
  | startsWith => .startsWith
  | endsWith => .endsWith

def operator : TextOperator → Operator
  | contains => .contains
  | startsWith => .startsWith
  | endsWith => .endsWith

end TextOperator

inductive OrderOperator where
  | greater
  | less
  | atLeast
  | atMost

namespace OrderOperator

def token : OrderOperator → Token
  | greater => .greater
  | less => .less
  | atLeast => .atLeast
  | atMost => .atMost

def operator : OrderOperator → Operator
  | greater => .greater
  | less => .less
  | atLeast => .atLeast
  | atMost => .atMost

end OrderOperator

inductive Operand where
  | text (s : String)
  | number (x : Float)
  | bool (b : Bool)
  | identifier (name : String)

namespace Operand

def token : Operand → Token
  | text s => .text s
  | number x => .number x
  | bool b => .bool b
  | identifier name => .ident name

def literal : Operand → Literal
  | text s => .text s
  | number x => .number x
  | bool b => .bool b
  | identifier name => .text name

end Operand

-- What an atom says about its field. Only patterns that compile can be matched with.
inductive Relation where
  | textual (negated : Bool) (op : TextOperator) (operand : Operand)
  | matching (negated : Bool) (p : Pattern)
  | present (negated : Bool)
  | member (negated : Bool) (category : String)
  | equality (differs : Bool) (operand : Operand)
  | order (op : OrderOperator) (x : Float)

namespace Relation

def optionalNot (negated : Bool) : List Token := if negated then [.not] else []

def tokens : Relation → List Token
  | textual negated op operand => optionalNot negated ++ [op.token, operand.token]
  | matching negated p => optionalNot negated ++ [.isMatch, .text p.source]
  | present negated => optionalNot negated ++ [.isPresent]
  | member negated category => optionalNot negated ++ [.isMember, .category category]
  | equality differs operand => [if differs then .differs else .equals, operand.token]
  | order op x => [op.token, .number x]

def comparison (field : Field) : Relation → Comparison
  | textual negated op operand => ⟨field, op.operator, negated, operand.literal⟩
  | matching negated p => ⟨field, .isMatch, negated, .pattern p⟩
  | present negated => ⟨field, .isPresent, negated, .absent⟩
  | member negated category => ⟨field, .isMember, negated, .category category⟩
  | equality differs operand => ⟨field, .equals, differs, operand.literal⟩
  | order op x => ⟨field, op.operator, false, .number x⟩

@[simp]
theorem comparison_field (r : Relation) (field : Field) : (r.comparison field).field = field := by
  cases r <;> rfl

end Relation

def fieldWord : Field → String
  | .data name => "data." ++ name
  | .intent => "intent"
  | .state => "state"
  | .turn => "turn"

structure Atom where
  field : Field
  named : field ≠ .data ""
  relation : Relation

namespace Atom

def tokens (a : Atom) : List Token := .ident (fieldWord a.field) :: a.relation.tokens

def tree (a : Atom) : Condition := .comparison (a.relation.comparison a.field)

end Atom

mutual

inductive Expression where
  | mk (first : Conjunction) (more : List Conjunction)

inductive Conjunction where
  | mk (first : Unary) (more : List Unary)

inductive Unary where
  | negation (inner : Unary)
  | group (inner : Expression)
  | atom (a : Atom)

end

mutual

def Expression.tokens : Expression → List Token
  | .mk first more => first.tokens ++ alternatives more

def alternatives : List Conjunction → List Token
  | [] => []
  | next :: more => .or :: (next.tokens ++ alternatives more)

def Conjunction.tokens : Conjunction → List Token
  | .mk first more => first.tokens ++ conjuncts more

def conjuncts : List Unary → List Token
  | [] => []
  | next :: more => .and :: (next.tokens ++ conjuncts more)

def Unary.tokens : Unary → List Token
  | .negation inner => .not :: inner.tokens
  | .group inner => .opening :: (inner.tokens ++ [.closing])
  | .atom a => a.tokens

end

attribute [simp] Expression.tokens alternatives Conjunction.tokens conjuncts Unary.tokens

mutual

def Expression.tree : Expression → Condition
  | .mk first more => eitherAll first.tree more

def eitherAll (left : Condition) : List Conjunction → Condition
  | [] => left
  | next :: more => eitherAll (.either left next.tree) more

def Conjunction.tree : Conjunction → Condition
  | .mk first more => bothAll first.tree more

def bothAll (left : Condition) : List Unary → Condition
  | [] => left
  | next :: more => bothAll (.both left next.tree) more

def Unary.tree : Unary → Condition
  | .negation inner => .negation inner.tree
  | .group inner => inner.tree
  | .atom a => a.tree

end

end Grammar

namespace Condition

-- A step that read `tree` and left `rest`.
def Reads {tokens : List Token} (outcome : Except SyntaxError (Parsed tokens)) (tree : Condition)
    (rest : List Token) : Prop :=
  ∃ p, outcome = .ok p ∧ p.tree = tree ∧ p.rest = rest

abbrev Gathered (tokens : List Token) : Type :=
  Condition × { rest : List Token // rest.length ≤ tokens.length }

def Gathers {tokens : List Token} (outcome : Except SyntaxError (Gathered tokens))
    (tree : Condition) (rest : List Token) : Prop :=
  ∃ p, outcome = .ok p ∧ p.1 = tree ∧ p.2.1 = rest

section

variable {tokens tail rest rest' : List Token} {left tree tree' : Condition}

theorem Reads.shorter {outcome : Except SyntaxError (Parsed tokens)}
    (h : Reads outcome tree rest) : rest.length < tokens.length := by
  obtain ⟨p, -, -, rfl⟩ := h
  exact p.shorter

theorem Reads.unique {outcome : Except SyntaxError (Parsed tokens)}
    (h : Reads outcome tree rest) (h' : Reads outcome tree' rest') :
    tree = tree' ∧ rest = rest' := by
  obtain ⟨p, hp, rfl, rfl⟩ := h
  obtain ⟨q, hq, rfl, rfl⟩ := h'
  cases Except.ok.inj (hp.symm.trans hq)
  exact ⟨rfl, rfl⟩

theorem not_reads_error {e : SyntaxError} :
    ¬ Reads (.error e : Except SyntaxError (Parsed tokens)) tree rest := by
  rintro ⟨_, h, -, -⟩
  cases h

theorem not_gathers_error {e : SyntaxError} :
    ¬ Gathers (.error e : Except SyntaxError (Gathered tokens)) tree rest := by
  rintro ⟨_, h, -, -⟩
  cases h

theorem exists_reads_ok {p : Parsed tokens} {P : Condition → List Token → Prop} :
    (∃ tree rest, Reads (.ok p) tree rest ∧ P tree rest) ↔ P p.tree p.rest := by
  constructor
  · rintro ⟨_, _, ⟨_, ⟨⟩, rfl, rfl⟩, h⟩
    exact h
  · exact fun h => ⟨_, _, ⟨p, rfl, rfl, rfl⟩, h⟩

theorem reads_map {outcome : Except SyntaxError (Gathered tail)}
    {bound : ∀ p : Gathered tail, p.2.1.length < tokens.length} :
    Reads (outcome.map fun p => (⟨p.1, p.2.1, bound p⟩ : Parsed tokens)) tree rest ↔
      Gathers outcome tree rest := by
  cases outcome with
  | error e => exact iff_of_false not_reads_error not_gathers_error
  | ok p => simp [Reads, Gathers, Except.map]

theorem gathers_map {outcome : Except SyntaxError (Gathered tail)}
    {bound : ∀ p : Gathered tail, p.2.1.length ≤ tokens.length} :
    Gathers (outcome.map fun p => ((p.1, ⟨p.2.1, bound p⟩) : Gathered tokens)) tree rest ↔
      Gathers outcome tree rest := by
  cases outcome with
  | error e => exact iff_of_false not_gathers_error not_gathers_error
  | ok p => simp [Gathers, Except.map]

theorem gathers_nothing : Gathers (.ok (left, ⟨tokens, Nat.le_refl _⟩)) tree rest ↔
    left = tree ∧ tokens = rest := by
  simp [Gathers]

theorem reads_or : Reads (parseOr tokens) tree rest ↔
    ∃ first mid, Reads (parseAnd tokens) first mid ∧ Gathers (moreOr first mid) tree rest := by
  rw [parseOr]
  cases parseAnd tokens with
  | error e => simp [not_reads_error]
  | ok p =>
    rw [exists_reads_ok]
    exact reads_map

theorem reads_and : Reads (parseAnd tokens) tree rest ↔
    ∃ first mid, Reads (parseUnary tokens) first mid ∧ Gathers (moreAnd first mid) tree rest := by
  rw [parseAnd]
  cases parseUnary tokens with
  | error e => simp [not_reads_error]
  | ok p =>
    rw [exists_reads_ok]
    exact reads_map

theorem gathers_or_cons : Gathers (moreOr left (.or :: tail)) tree rest ↔
    ∃ next mid, Reads (parseAnd tail) next mid ∧
      Gathers (moreOr (.either left next) mid) tree rest := by
  rw [moreOr]
  cases parseAnd tail with
  | error e => simp [not_reads_error, not_gathers_error]
  | ok p =>
    rw [exists_reads_ok]
    exact gathers_map

theorem gathers_and_cons : Gathers (moreAnd left (.and :: tail)) tree rest ↔
    ∃ next mid, Reads (parseUnary tail) next mid ∧
      Gathers (moreAnd (.both left next) mid) tree rest := by
  rw [moreAnd]
  cases parseUnary tail with
  | error e => simp [not_reads_error, not_gathers_error]
  | ok p =>
    rw [exists_reads_ok]
    exact gathers_map

theorem gathers_or_end (h : tokens.head? ≠ some .or) :
    Gathers (moreOr left tokens) tree rest ↔ left = tree ∧ tokens = rest := by
  rw [moreOr]
  · exact gathers_nothing
  · rintro tail rfl
    exact h rfl

theorem gathers_and_end (h : tokens.head? ≠ some .and) :
    Gathers (moreAnd left tokens) tree rest ↔ left = tree ∧ tokens = rest := by
  rw [moreAnd]
  · exact gathers_nothing
  · rintro tail rfl
    exact h rfl

theorem reads_not : Reads (parseUnary (.not :: tail)) tree rest ↔
    ∃ inner, Reads (parseUnary tail) inner rest ∧ .negation inner = tree := by
  rw [parseUnary]
  cases parseUnary tail with
  | error e => simp [not_reads_error]
  | ok p =>
    constructor
    · rintro ⟨_, ⟨⟩, rfl, rfl⟩
      exact ⟨_, ⟨p, rfl, rfl, rfl⟩, rfl⟩
    · rintro ⟨_, ⟨_, ⟨⟩, rfl, rfl⟩, rfl⟩
      exact ⟨_, rfl, rfl, rfl⟩

theorem reads_group : Reads (parseUnary (.opening :: tail)) tree rest ↔
    Reads (parseOr tail) tree (.closing :: rest) := by
  rw [parseUnary]
  cases parseOr tail with
  | error e => exact iff_of_false not_reads_error not_reads_error
  | ok p =>
    dsimp only
    split
    · rename_i left h
      simp [Reads, h]
    · rename_i h
      refine iff_of_false not_reads_error ?_
      rintro ⟨_, ⟨⟩, -, closed⟩
      exact h rest closed

theorem parseUnary_primary (notNot : tokens.head? ≠ some .not)
    (notOpening : tokens.head? ≠ some .opening) : parseUnary tokens = parseAtom tokens := by
  rw [parseUnary]
  · rintro tail rfl
    exact notNot rfl
  · rintro tail rfl
    exact notOpening rfl

end

theorem isPrefixOf_dataLead {name : String} :
    dataLead.isPrefixOf name.toList = true ↔ ∃ rest, "data." ++ rest = name := by
  rw [List.isPrefixOf_iff_prefix]
  constructor
  · rintro ⟨rest, eq⟩
    refine ⟨String.ofList rest, String.toList_injective ?_⟩
    simpa [dataLead] using eq
  · rintro ⟨rest, rfl⟩
    rw [String.toList_append]
    exact List.prefix_append ..

theorem fieldOf_data (rest : String) :
    fieldOf ("data." ++ rest) =
      if rest = "" then .error .emptyFieldName else .ok (.data rest) := by
  have name : ("data." ++ rest).toList.drop dataLead.length = rest.toList := by
    rw [String.toList_append]
    exact List.drop_left ..
  simp only [fieldOf, isPrefixOf_dataLead.mpr ⟨rest, rfl⟩, if_true, name, String.ofList_toList,
    List.isEmpty_iff, String.toList_eq_nil_iff]

theorem fieldOf_iff {name : String} {field : Field} :
    fieldOf name = .ok field ↔ Grammar.fieldWord field = name ∧ field ≠ .data "" := by
  constructor
  · intro h
    by_cases lead : dataLead.isPrefixOf name.toList = true
    · obtain ⟨rest, rfl⟩ := isPrefixOf_dataLead.mp lead
      rw [fieldOf_data] at h
      split at h
      · cases h
      · rename_i named
        cases h
        exact ⟨rfl, fun h => named (Field.data.inj h)⟩
    · rw [fieldOf, if_neg lead] at h
      repeat' split at h
      all_goals cases h
      · exact ⟨Eq.symm ‹_›, Field.noConfusion⟩
      · exact ⟨Eq.symm ‹_›, Field.noConfusion⟩
      · exact ⟨Eq.symm ‹_›, Field.noConfusion⟩
  · rintro ⟨rfl, named⟩
    cases field with
    | data name =>
      rw [Grammar.fieldWord, fieldOf_data, if_neg fun h => named (congrArg Field.data h)]
    | intent => rfl
    | state => rfl
    | turn => rfl

theorem valueOf_iff {found : Option Token} {literal : Literal} :
    valueOf found = .ok literal ↔
      ∃ operand : Grammar.Operand, found = some operand.token ∧ operand.literal = literal := by
  constructor
  · intro h
    unfold valueOf at h
    split at h
    · exact ⟨.text _, rfl, Except.ok.inj h⟩
    · exact ⟨.number _, rfl, Except.ok.inj h⟩
    · exact ⟨.bool _, rfl, Except.ok.inj h⟩
    · exact ⟨.identifier _, rfl, Except.ok.inj h⟩
    · cases h
  · rintro ⟨operand, rfl, rfl⟩
    cases operand <;> rfl

theorem compile_ok_iff {source : String} {p : Pattern} :
    Pattern.compile source = .ok p ↔ p.source = source := by
  unfold Pattern.compile
  constructor
  · intro h
    split at h
    · cases h
      rfl
    · cases h
  · rintro rfl
    split
    · exact congrArg _ (Pattern.ext rfl)
    · rename_i h
      cases h.symm.trans p.compiled

-- What follows the field of an atom makes the comparison `c`.
structure Relates (tokens : List Token) (c : Comparison) (rest : List Token) : Prop where
  operator : operatorOf (splitNot tokens).1 (splitNot tokens).2.head? = .ok (c.operator, c.negated)
  literal : literalOf c.operator (splitNot tokens).2.tail.head? = .ok c.literal
  rest : afterOperator c.operator (splitNot tokens).2.tail = rest

theorem reads_atom {name : String} {tokens rest : List Token} {tree : Condition} :
    Reads (parseAtom (.ident name :: tokens)) tree rest ↔
      ∃ c : Comparison, fieldOf name = .ok c.field ∧ Relates tokens c rest ∧
        .comparison c = tree := by
  constructor
  · rintro ⟨p, hp, rfl, rfl⟩
    simp only [parseAtom] at hp
    split at hp
    · cases hp
    · rename_i field hfield
      split at hp
      · cases hp
      · rename_i op negated hop
        split at hp
        · cases hp
        · rename_i literal hliteral
          cases hp
          exact ⟨⟨field, op, negated, literal⟩, hfield, ⟨hop, hliteral, rfl⟩, rfl⟩
  · rintro ⟨⟨field, op, negated, literal⟩, hfield, ⟨hop, hliteral, rfl⟩, rfl⟩
    simp only [Reads, parseAtom, hfield, hop, hliteral]
    exact ⟨_, rfl, rfl, rfl⟩

theorem relation_relates (r : Grammar.Relation) (field : Field) (rest : List Token) :
    Relates (r.tokens ++ rest) (r.comparison field) rest := by
  cases r with
  | textual negated op operand =>
    cases op <;> cases negated <;> cases operand <;> exact ⟨rfl, rfl, rfl⟩
  | matching negated p =>
    have : literalOf .isMatch (some (.text p.source)) = .ok (.pattern p) := by
      simp only [literalOf, compile_ok_iff.mpr rfl]
    cases negated <;> exact ⟨rfl, this, rfl⟩
  | present negated => cases negated <;> exact ⟨rfl, rfl, rfl⟩
  | member negated category => cases negated <;> exact ⟨rfl, rfl, rfl⟩
  | equality differs operand => cases differs <;> cases operand <;> exact ⟨rfl, rfl, rfl⟩
  | order op x => cases op <;> exact ⟨rfl, rfl, rfl⟩

theorem optionalNot_splitNot (tokens : List Token) :
    Grammar.Relation.optionalNot (splitNot tokens).1 ++ (splitNot tokens).2 = tokens := by
  unfold splitNot
  split <;> rfl

theorem operatorOf_some {negated negated' : Bool} {token : Token} {op : Operator}
    (h : operatorOf negated (some token) = .ok (op, negated')) :
    (negatable? token = some op ∧ negated' = negated) ∨
      (negated = false ∧ symbolic? token = some (op, negated')) := by
  simp only [operatorOf] at h
  split at h
  · cases h
    exact .inl ⟨‹_›, rfl⟩
  · split at h
    · cases h
    · cases hsym : symbolic? token with
      | none => simp [hsym] at h
      | some found =>
        simp only [hsym, Option.elim_some] at h
        exact .inr ⟨eq_false_of_ne_true ‹_›, Except.ok.inj h ▸ rfl⟩

theorem negatable_relation {token : Token} {op : Operator} {after : List Token}
    {literal : Literal} (hop : negatable? token = some op)
    (hliteral : literalOf op after.head? = .ok literal) (negated : Bool) (field : Field) :
    ∃ r : Grammar.Relation,
      r.tokens ++ afterOperator op after =
        Grammar.Relation.optionalNot negated ++ token :: after ∧
      r.comparison field = ⟨field, op, negated, literal⟩ := by
  have textual (t : Grammar.TextOperator) (h : valueOf after.head? = .ok literal) :
      ∃ r : Grammar.Relation,
        r.tokens ++ after.tail = Grammar.Relation.optionalNot negated ++ t.token :: after ∧
        r.comparison field = ⟨field, t.operator, negated, literal⟩ := by
    obtain ⟨operand, found, rfl⟩ := valueOf_iff.mp h
    obtain ⟨rest, rfl⟩ := List.head?_eq_some_iff.mp found
    exact ⟨.textual negated t operand, List.append_assoc .., rfl⟩
  cases token <;> cases hop
  case contains => exact textual .contains hliteral
  case startsWith => exact textual .startsWith hliteral
  case endsWith => exact textual .endsWith hliteral
  case isPresent =>
    cases hliteral
    exact ⟨.present negated, List.append_assoc .., rfl⟩
  case isMember =>
    simp only [literalOf] at hliteral
    split at hliteral
    · rename_i category found
      obtain ⟨rest, rfl⟩ := List.head?_eq_some_iff.mp found
      cases hliteral
      exact ⟨.member negated category, List.append_assoc .., rfl⟩
    · cases hliteral
  case isMatch =>
    simp only [literalOf] at hliteral
    split at hliteral
    · rename_i source found
      obtain ⟨rest, rfl⟩ := List.head?_eq_some_iff.mp found
      split at hliteral
      · rename_i p compiled
        cases hliteral
        cases compile_ok_iff.mp compiled
        exact ⟨.matching negated p, List.append_assoc .., rfl⟩
      · cases hliteral
    · cases hliteral

theorem symbolic_relation {token : Token} {op : Operator} {negated : Bool} {after : List Token}
    {literal : Literal} (hop : symbolic? token = some (op, negated))
    (hliteral : literalOf op after.head? = .ok literal) (field : Field) :
    ∃ r : Grammar.Relation,
      r.tokens ++ afterOperator op after = token :: after ∧
      r.comparison field = ⟨field, op, negated, literal⟩ := by
  have order (o : Grammar.OrderOperator) (h : literalOf o.operator after.head? = .ok literal) :
      ∃ r : Grammar.Relation,
        r.tokens ++ after.tail = o.token :: after ∧
        r.comparison field = ⟨field, o.operator, false, literal⟩ := by
    obtain ⟨x, found, rfl⟩ : ∃ x, after.head? = some (.number x) ∧ .number x = literal := by
      cases o <;> simp only [literalOf, Grammar.OrderOperator.operator] at h <;> split at h <;>
        first | cases h; done | exact ⟨_, ‹_›, Except.ok.inj h⟩
    obtain ⟨rest, rfl⟩ := List.head?_eq_some_iff.mp found
    exact ⟨.order o x, rfl, rfl⟩
  have equality (differs : Bool) (h : valueOf after.head? = .ok literal) :
      ∃ r : Grammar.Relation,
        r.tokens ++ after.tail = (if differs then .differs else .equals) :: after ∧
        r.comparison field = ⟨field, .equals, differs, literal⟩ := by
    obtain ⟨operand, found, rfl⟩ := valueOf_iff.mp h
    obtain ⟨rest, rfl⟩ := List.head?_eq_some_iff.mp found
    exact ⟨.equality differs operand, rfl, rfl⟩
  cases token <;> cases hop
  case equals => exact equality false hliteral
  case differs => exact equality true hliteral
  case greater => exact order .greater hliteral
  case less => exact order .less hliteral
  case atLeast => exact order .atLeast hliteral
  case atMost => exact order .atMost hliteral

theorem relates_iff {tokens rest : List Token} {c : Comparison} :
    Relates tokens c rest ↔
      ∃ r : Grammar.Relation, r.tokens ++ rest = tokens ∧ r.comparison c.field = c := by
  constructor
  · rintro ⟨hop, hliteral, rfl⟩
    have whole := optionalNot_splitNot tokens
    generalize splitNot tokens = split at whole hop hliteral ⊢
    obtain ⟨negated, after⟩ := split
    obtain ⟨field, op, negated', literal⟩ := c
    subst whole
    cases after with
    | nil => cases hop
    | cons token after =>
      obtain ⟨found, rfl⟩ | ⟨rfl, found⟩ := operatorOf_some hop
      · exact negatable_relation found hliteral negated' field
      · exact symbolic_relation found hliteral field
  · rintro ⟨r, rfl, eq⟩
    exact eq ▸ relation_relates r c.field rest

theorem reads_atom_iff {tokens rest : List Token} {tree : Condition} :
    Reads (parseAtom tokens) tree rest ↔
      ∃ a : Grammar.Atom, a.tokens ++ rest = tokens ∧ a.tree = tree := by
  constructor
  · intro h
    match tokens, h with
    | .ident name :: tokens, h =>
      obtain ⟨c, hfield, hrelates, rfl⟩ := reads_atom.mp h
      obtain ⟨rfl, named⟩ := fieldOf_iff.mp hfield
      obtain ⟨r, rfl, eq⟩ := relates_iff.mp hrelates
      exact ⟨⟨c.field, named, r⟩, rfl, congrArg _ eq⟩
  · rintro ⟨⟨field, named, r⟩, rfl, rfl⟩
    refine reads_atom.mpr ⟨r.comparison field, ?_, relation_relates r field rest, rfl⟩
    rw [r.comparison_field field]
    exact fieldOf_iff.mpr ⟨rfl, named⟩

end Condition

namespace Grammar

open Condition (Reads Gathers parseOr moreOr parseAnd moreAnd parseUnary)

theorem alternatives_head (more : List Conjunction) (rest : List Token)
    (h : rest.head? ≠ some .and) : (alternatives more ++ rest).head? ≠ some .and := by
  cases more with
  | nil => exact h
  | cons next more => simp

mutual

theorem Expression.reads (e : Expression) (rest : List Token) (hor : rest.head? ≠ some .or)
    (hand : rest.head? ≠ some .and) : Reads (parseOr (e.tokens ++ rest)) e.tree rest := by
  obtain ⟨first, more⟩ := e
  rw [Expression.tokens, List.append_assoc]
  exact Condition.reads_or.mpr ⟨_, _, first.reads _ (alternatives_head more rest hand),
    alternatives_gathers more first.tree rest hor hand⟩

theorem alternatives_gathers (more : List Conjunction) (left : Condition) (rest : List Token)
    (hor : rest.head? ≠ some .or) (hand : rest.head? ≠ some .and) :
    Gathers (moreOr left (alternatives more ++ rest)) (eitherAll left more) rest := by
  cases more with
  | nil => exact (Condition.gathers_or_end hor).mpr ⟨rfl, rfl⟩
  | cons next more =>
    rw [alternatives, List.cons_append, List.append_assoc]
    exact Condition.gathers_or_cons.mpr ⟨_, _, next.reads _ (alternatives_head more rest hand),
      alternatives_gathers more (.either left next.tree) rest hor hand⟩

theorem Conjunction.reads (c : Conjunction) (rest : List Token) (hand : rest.head? ≠ some .and) :
    Reads (parseAnd (c.tokens ++ rest)) c.tree rest := by
  obtain ⟨first, more⟩ := c
  rw [Conjunction.tokens, List.append_assoc]
  exact Condition.reads_and.mpr ⟨_, _, first.reads _, conjuncts_gathers more first.tree rest hand⟩

theorem conjuncts_gathers (more : List Unary) (left : Condition) (rest : List Token)
    (hand : rest.head? ≠ some .and) :
    Gathers (moreAnd left (conjuncts more ++ rest)) (bothAll left more) rest := by
  cases more with
  | nil => exact (Condition.gathers_and_end hand).mpr ⟨rfl, rfl⟩
  | cons next more =>
    rw [conjuncts, List.cons_append, List.append_assoc]
    exact Condition.gathers_and_cons.mpr ⟨_, _, next.reads _,
      conjuncts_gathers more (.both left next.tree) rest hand⟩

theorem Unary.reads (u : Unary) (rest : List Token) :
    Reads (parseUnary (u.tokens ++ rest)) u.tree rest := by
  cases u with
  | negation inner =>
    exact Condition.reads_not.mpr ⟨_, inner.reads rest, rfl⟩
  | group inner =>
    rw [Unary.tokens, List.cons_append, List.append_assoc]
    exact Condition.reads_group.mpr (inner.reads (.closing :: rest) (by simp) (by simp))
  | atom a =>
    rw [Condition.parseUnary_primary (by simp [Atom.tokens]) (by simp [Atom.tokens])]
    exact Condition.reads_atom_iff.mpr ⟨a, rfl, rfl⟩

end

-- The recursion is that of the reading: fewer tokens, or the same ones a level further down.
mutual

theorem expression_of_reads {tokens rest : List Token} {tree : Condition}
    (h : Reads (parseOr tokens) tree rest) :
    ∃ e : Expression, e.tokens ++ rest = tokens ∧ e.tree = tree := by
  obtain ⟨_, mid, hfirst, hmore⟩ := Condition.reads_or.mp h
  have := hfirst.shorter
  obtain ⟨first, rfl, rfl⟩ := conjunction_of_reads hfirst
  obtain ⟨more, rfl, rfl⟩ := alternatives_of_gathers hmore
  exact ⟨.mk first more, List.append_assoc .., rfl⟩
termination_by (tokens.length, 4)

theorem alternatives_of_gathers {tokens rest : List Token} {left tree : Condition}
    (h : Gathers (moreOr left tokens) tree rest) :
    ∃ more : List Conjunction, alternatives more ++ rest = tokens ∧ eitherAll left more = tree := by
  by_cases head : tokens.head? = some .or
  · obtain ⟨tail, rfl⟩ := List.head?_eq_some_iff.mp head
    obtain ⟨_, mid, hnext, hmore⟩ := Condition.gathers_or_cons.mp h
    have := hnext.shorter
    obtain ⟨next, rfl, rfl⟩ := conjunction_of_reads hnext
    obtain ⟨more, rfl, rfl⟩ := alternatives_of_gathers hmore
    exact ⟨next :: more, by rw [alternatives, List.cons_append, List.append_assoc], rfl⟩
  · obtain ⟨rfl, rfl⟩ := (Condition.gathers_or_end head).mp h
    exact ⟨[], rfl, rfl⟩
termination_by (tokens.length, 0)

theorem conjunction_of_reads {tokens rest : List Token} {tree : Condition}
    (h : Reads (parseAnd tokens) tree rest) :
    ∃ c : Conjunction, c.tokens ++ rest = tokens ∧ c.tree = tree := by
  obtain ⟨_, mid, hfirst, hmore⟩ := Condition.reads_and.mp h
  have := hfirst.shorter
  obtain ⟨first, rfl, rfl⟩ := unary_of_reads hfirst
  obtain ⟨more, rfl, rfl⟩ := conjuncts_of_gathers hmore
  exact ⟨.mk first more, List.append_assoc .., rfl⟩
termination_by (tokens.length, 3)

theorem conjuncts_of_gathers {tokens rest : List Token} {left tree : Condition}
    (h : Gathers (moreAnd left tokens) tree rest) :
    ∃ more : List Unary, conjuncts more ++ rest = tokens ∧ bothAll left more = tree := by
  by_cases head : tokens.head? = some .and
  · obtain ⟨tail, rfl⟩ := List.head?_eq_some_iff.mp head
    obtain ⟨_, mid, hnext, hmore⟩ := Condition.gathers_and_cons.mp h
    have := hnext.shorter
    obtain ⟨next, rfl, rfl⟩ := unary_of_reads hnext
    obtain ⟨more, rfl, rfl⟩ := conjuncts_of_gathers hmore
    exact ⟨next :: more, by rw [conjuncts, List.cons_append, List.append_assoc], rfl⟩
  · obtain ⟨rfl, rfl⟩ := (Condition.gathers_and_end head).mp h
    exact ⟨[], rfl, rfl⟩
termination_by (tokens.length, 0)

theorem unary_of_reads {tokens rest : List Token} {tree : Condition}
    (h : Reads (parseUnary tokens) tree rest) :
    ∃ u : Unary, u.tokens ++ rest = tokens ∧ u.tree = tree := by
  by_cases isNot : tokens.head? = some .not
  · obtain ⟨tail, rfl⟩ := List.head?_eq_some_iff.mp isNot
    obtain ⟨_, hinner, rfl⟩ := Condition.reads_not.mp h
    obtain ⟨inner, rfl, rfl⟩ := unary_of_reads hinner
    exact ⟨.negation inner, rfl, rfl⟩
  by_cases isOpening : tokens.head? = some .opening
  · obtain ⟨tail, rfl⟩ := List.head?_eq_some_iff.mp isOpening
    obtain ⟨inner, rfl, rfl⟩ := expression_of_reads (Condition.reads_group.mp h)
    exact ⟨.group inner, by simp, rfl⟩
  rw [Condition.parseUnary_primary isNot isOpening] at h
  obtain ⟨a, rfl, rfl⟩ := Condition.reads_atom_iff.mp h
  exact ⟨.atom a, rfl, rfl⟩
termination_by (tokens.length, 2)

end

theorem Operand.token_inj {a b : Operand} : a.token = b.token ↔ a = b := by
  constructor
  · intro h
    cases a <;> cases b <;> cases h <;> rfl
  · exact congrArg _

namespace Relation

-- The token that tells which relation it is.
def mark : Relation → Token
  | textual _ op _ => op.token
  | matching .. => .isMatch
  | present _ => .isPresent
  | member .. => .isMember
  | equality differs _ => if differs then .differs else .equals
  | order op _ => op.token

def argument : Relation → List Token
  | textual _ _ operand => [operand.token]
  | matching _ p => [.text p.source]
  | present _ => []
  | member _ category => [.category category]
  | equality _ operand => [operand.token]
  | order _ x => [.number x]

def hasNot : Relation → Bool
  | textual negated .. | matching negated _ | present negated | member negated _ => negated
  | equality .. | order .. => false

theorem tokens_eq (r : Relation) : r.tokens = optionalNot r.hasNot ++ r.mark :: r.argument := by
  cases r <;> rfl

theorem mark_ne_not (r : Relation) : r.mark ≠ .not := by
  rcases r with ⟨_, _ | _ | _, _⟩ | _ | _ | _ | ⟨_ | _, _⟩ | ⟨_ | _ | _ | _, _⟩ <;>
    exact Token.noConfusion

theorem optionalNot_cancel {m n : Bool} {t u : Token} {ts us : List Token}
    (h : optionalNot m ++ t :: ts = optionalNot n ++ u :: us) (ht : t ≠ .not) (hu : u ≠ .not) :
    m = n ∧ t = u ∧ ts = us := by
  cases m <;> cases n <;> simp_all [optionalNot]

theorem tokens_injective {r s : Relation} (h : r.tokens = s.tokens) : r = s := by
  rw [r.tokens_eq, s.tokens_eq] at h
  obtain ⟨negated, mark, argument⟩ := optionalNot_cancel h r.mark_ne_not s.mark_ne_not
  clear h
  -- Only relations of one kind share their mark.
  rcases r with ⟨_, _ | _ | _, _⟩ | _ | _ | _ | ⟨_ | _, _⟩ | ⟨_ | _ | _ | _, _⟩ <;>
    rcases s with ⟨_, _ | _ | _, _⟩ | _ | _ | _ | ⟨_ | _, _⟩ | ⟨_ | _ | _ | _, _⟩ <;>
    cases mark <;> cases negated
  case present.present => rfl
  case matching.matching =>
    rw [Pattern.ext (Token.text.inj (List.head_eq_of_cons_eq argument))]
  all_goals simpa [Relation.argument, Operand.token_inj] using argument

end Relation

theorem Atom.tokens_injective {a b : Atom} (h : a.tokens = b.tokens) : a = b := by
  obtain ⟨field, named, r⟩ := a
  obtain ⟨field', named', r'⟩ := b
  obtain ⟨word, relation⟩ := List.cons.inj h
  have same : field = field' := by
    have read := Condition.fieldOf_iff.mpr ⟨rfl, named⟩
    have read' := Condition.fieldOf_iff.mpr ⟨rfl, named'⟩
    rw [Token.ident.inj word] at read
    exact Except.ok.inj (read.symm.trans read')
  cases same
  cases Relation.tokens_injective relation
  rfl

-- Reading settles where a phrase ends, so phrases that start a list alike are of one length.
theorem Conjunction.ends {c d : Conjunction} {rest rest' : List Token}
    (h : c.tokens ++ rest = d.tokens ++ rest') (hand : rest.head? ≠ some .and)
    (hand' : rest'.head? ≠ some .and) : c.tokens = d.tokens ∧ rest = rest' := by
  obtain rfl : rest = rest' := ((c.reads rest hand).unique (h ▸ d.reads rest' hand')).2
  exact ⟨List.append_cancel_right h, rfl⟩

theorem Unary.ends {u v : Unary} {rest rest' : List Token}
    (h : u.tokens ++ rest = v.tokens ++ rest') : u.tokens = v.tokens ∧ rest = rest' := by
  obtain rfl : rest = rest' := ((u.reads rest).unique (h ▸ v.reads rest')).2
  exact ⟨List.append_cancel_right h, rfl⟩

theorem alternatives_no_and (more : List Conjunction) : (alternatives more).head? ≠ some .and := by
  simpa using alternatives_head more [] (by simp)

mutual

theorem Expression.tokens_injective (e f : Expression) (h : e.tokens = f.tokens) : e = f := by
  obtain ⟨first, more⟩ := e
  obtain ⟨first', more'⟩ := f
  obtain ⟨hfirst, hmore⟩ := Conjunction.ends h (alternatives_no_and more) (alternatives_no_and more')
  rw [Conjunction.tokens_injective first first' hfirst, alternatives_injective more more' hmore]
termination_by structural e

theorem alternatives_injective (more more' : List Conjunction)
    (h : alternatives more = alternatives more') : more = more' := by
  cases more with
  | nil =>
    cases more' with
    | nil => rfl
    | cons next' more' => simp at h
  | cons next more =>
    cases more' with
    | nil => simp at h
    | cons next' more' =>
      obtain ⟨hnext, hmore⟩ := Conjunction.ends (List.cons.inj h).2 (alternatives_no_and more)
        (alternatives_no_and more')
      rw [Conjunction.tokens_injective next next' hnext, alternatives_injective more more' hmore]
termination_by structural more

theorem Conjunction.tokens_injective (c d : Conjunction) (h : c.tokens = d.tokens) : c = d := by
  obtain ⟨first, more⟩ := c
  obtain ⟨first', more'⟩ := d
  obtain ⟨hfirst, hmore⟩ := Unary.ends h
  rw [Unary.tokens_injective first first' hfirst, conjuncts_injective more more' hmore]
termination_by structural c

theorem conjuncts_injective (more more' : List Unary) (h : conjuncts more = conjuncts more') :
    more = more' := by
  cases more with
  | nil =>
    cases more' with
    | nil => rfl
    | cons next' more' => simp at h
  | cons next more =>
    cases more' with
    | nil => simp at h
    | cons next' more' =>
      obtain ⟨hnext, hmore⟩ := Unary.ends (List.cons.inj h).2
      rw [Unary.tokens_injective next next' hnext, conjuncts_injective more more' hmore]
termination_by structural more

theorem Unary.tokens_injective (u v : Unary) (h : u.tokens = v.tokens) : u = v := by
  cases u with
  | negation inner =>
    cases v with
    | negation inner' => rw [Unary.tokens_injective inner inner' (List.cons.inj h).2]
    | group _ => cases h
    | atom _ => cases h
  | group inner =>
    cases v with
    | negation _ => cases h
    | group inner' =>
      rw [Expression.tokens_injective inner inner' (List.append_cancel_right (List.cons.inj h).2)]
    | atom _ => cases h
  | atom a =>
    cases v with
    | negation _ => cases h
    | group _ => cases h
    | atom b => rw [Atom.tokens_injective h]
termination_by structural u

end

end Grammar

-- A list of tokens is read in full as `tree` exactly if it has a derivation, which is its only one
-- and has that tree.
theorem parseOr_derives (tokens : List Token) (tree : Condition) :
    (∃ p, Condition.parseOr tokens = .ok p ∧ p.tree = tree ∧ p.rest = []) ↔
      ∃ e : Grammar.Expression, (e.tokens = tokens ∧ e.tree = tree) ∧
        ∀ e' : Grammar.Expression, e'.tokens = tokens → e' = e := by
  constructor
  · intro h
    obtain ⟨e, derives, rfl⟩ := Grammar.expression_of_reads h
    rw [List.append_nil] at derives
    exact ⟨e, ⟨derives, rfl⟩, fun e' h => e'.tokens_injective e (h.trans derives.symm)⟩
  · rintro ⟨e, ⟨rfl, rfl⟩, -⟩
    have read := e.reads [] (by simp) (by simp)
    rwa [List.append_nil] at read

end Colloquy
