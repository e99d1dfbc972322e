import Colloquy.Proofs.Grammar
import Colloquy.Proofs.Spelling

/-! Conditions written with parentheses around every operand are read back as they are. -/
namespace Colloquy

def Literal.isPlain : Literal → Bool
  | .text _ | .number _ | .bool _ => true
  | .category _ | .pattern _ | .absent => false

-- What an operator can have after it; only numbers are ordered, and never under a `NOT`.
def Operator.accepts (op : Operator) (negated : Bool) (literal : Literal) : Bool :=
  match op, literal with
  | .contains, literal | .startsWith, literal | .endsWith, literal | .equals, literal =>
    literal.isPlain
  | .isMatch, .pattern _ | .isPresent, .absent | .isMember, .category _ => true
  | .greater, .number _ | .less, .number _ | .atLeast, .number _ | .atMost, .number _ => !negated
  | _, _ => false

structure Comparison.Writable (c : Comparison) : Prop where
  field : ∀ name, c.field = .data name → Token.Word name
  accepted : c.operator.accepts c.negated c.literal = true
  category : ∀ name, c.literal = .category name → Token.Word name

def Literal.numbers : Literal → List Float
  | .number x => [x]
  | .text _ | .bool _ | .category _ | .pattern _ | .absent => []

namespace Condition

def Writable : Condition → Prop
  | .always => False
  | .comparison c => c.Writable
  | .both a b | .either a b => a.Writable ∧ b.Writable
  | .negation a => a.Writable

def numbers : Condition → List Float
  | .always => []
  | .comparison c => c.literal.numbers
  | .both a b | .either a b => a.numbers ++ b.numbers
  | .negation a => a.numbers

end Condition

def Operator.token : Operator → Token
  | .contains => .contains
  | .isMatch => .isMatch
  | .startsWith => .startsWith
  | .endsWith => .endsWith
  | .equals => .equals
  | .greater => .greater
  | .less => .less
  | .atLeast => .atLeast
  | .atMost => .atMost
  | .isPresent => .isPresent
  | .isMember => .isMember

def Literal.tokens : Literal → List Token
  | .text s => [.text s]
  | .number x => [.number x]
  | .bool b => [.bool b]
  | .category name => [.category name]
  | .pattern p => [.text p.source]
  | .absent => []

namespace Comparison

def operatorTokens (c : Comparison) : List Token :=
  if c.negated then if c.operator = .equals then [.differs] else [.not, c.operator.token]
  else [c.operator.token]

def tokens (c : Comparison) : List Token :=
  .ident (Grammar.fieldWord c.field) :: (c.operatorTokens ++ c.literal.tokens)

end Comparison

namespace Condition

mutual

-- A condition written with parentheses around every operand that is no comparison. Further
-- parentheses may stand around anything.
inductive Bracketed : Condition → List Token → Prop where
  | operand {a : Condition} {ts : List Token} (h : Operand a ts) : Bracketed a ts
  | both {a b : Condition} {ts us : List Token} (ha : Operand a ts) (hb : Operand b us) :
      Bracketed (.both a b) (ts ++ .and :: us)
  | either {a b : Condition} {ts us : List Token} (ha : Operand a ts) (hb : Operand b us) :
      Bracketed (.either a b) (ts ++ .or :: us)
  | negation {a : Condition} {ts : List Token} (h : Operand a ts) :
      Bracketed (.negation a) (.not :: ts)

inductive Operand : Condition → List Token → Prop where
  | comparison (c : Comparison) : Operand (.comparison c) c.tokens
  | group {a : Condition} {ts : List Token} (h : Bracketed a ts) :
      Operand a (.opening :: (ts ++ [.closing]))

end

def Written (a : Condition) (text : List Char) : Prop :=
  ∃ tokens, a.Bracketed tokens ∧ Token.Spaced tokens text

end Condition

theorem Literal.operand_of_isPlain {literal : Literal} (h : literal.isPlain = true) :
    ∃ operand : Grammar.Operand, literal.tokens = [operand.token] ∧ operand.literal = literal := by
  cases literal with
  | text s => exact ⟨.text s, rfl, rfl⟩
  | number x => exact ⟨.number x, rfl, rfl⟩
  | bool b => exact ⟨.bool b, rfl, rfl⟩
  | category _ | pattern _ | absent => cases h

theorem Comparison.relation {field : Field} {op : Operator} {negated : Bool} {literal : Literal}
    (h : op.accepts negated literal = true) :
    ∃ r : Grammar.Relation,
      r.tokens = operatorTokens ⟨field, op, negated, literal⟩ ++ literal.tokens ∧
      r.comparison field = ⟨field, op, negated, literal⟩ := by
  have textual (t : Grammar.TextOperator) (h : literal.isPlain = true) : ∃ r : Grammar.Relation,
      r.tokens = operatorTokens ⟨field, t.operator, negated, literal⟩ ++ literal.tokens ∧
      r.comparison field = ⟨field, t.operator, negated, literal⟩ := by
    obtain ⟨operand, tokens, rfl⟩ := Literal.operand_of_isPlain h
    refine ⟨.textual negated t operand, ?_, rfl⟩
    rw [tokens]
    cases t <;> cases negated <;> rfl
  have order (o : Grammar.OrderOperator) (x : Float) : ∃ r : Grammar.Relation,
      r.tokens = operatorTokens ⟨field, o.operator, false, .number x⟩ ++ [.number x] ∧
      r.comparison field = ⟨field, o.operator, false, .number x⟩ :=
    ⟨.order o x, by cases o <;> rfl, rfl⟩
  cases op with
  | contains => exact textual .contains h
  | startsWith => exact textual .startsWith h
  | endsWith => exact textual .endsWith h
  | equals =>
    obtain ⟨operand, tokens, rfl⟩ := Literal.operand_of_isPlain h
    refine ⟨.equality negated operand, ?_, rfl⟩
    rw [tokens]
    cases negated <;> rfl
  | isMatch =>
    cases literal <;> cases h
    exact ⟨.matching negated _, by cases negated <;> rfl, rfl⟩
  | isPresent =>
    cases literal <;> cases h
    exact ⟨.present negated, by cases negated <;> rfl, rfl⟩
  | isMember =>
    cases literal <;> cases h
    exact ⟨.member negated _, by cases negated <;> rfl, rfl⟩
  | greater =>
    cases literal <;> cases negated <;> cases h
    exact order .greater _
  | less =>
    cases literal <;> cases negated <;> cases h
    exact order .less _
  | atLeast =>
    cases literal <;> cases negated <;> cases h
    exact order .atLeast _
  | atMost =>
    cases literal <;> cases negated <;> cases h
    exact order .atMost _

theorem Comparison.derives {c : Comparison} (h : c.Writable) :
    ∃ a : Grammar.Atom, a.tokens = c.tokens ∧ a.tree = .comparison c := by
  obtain ⟨field, op, negated, literal⟩ := c
  have named : field ≠ .data "" := by
    rintro rfl
    exact (h.field "" rfl).1 rfl
  obtain ⟨r, tokens, comparison⟩ := Comparison.relation h.accepted
  exact ⟨⟨field, named, r⟩, congrArg _ tokens, congrArg _ comparison⟩

namespace Condition

-- By the number of tokens, since a bracketed condition may be an operand as it stands.
mutual

theorem Bracketed.derives {a : Condition} {ts : List Token} (h : Bracketed a ts)
    (writable : a.Writable) : ∃ e : Grammar.Expression, e.tokens = ts ∧ e.tree = a := by
  cases h with
  | operand h =>
    obtain ⟨u, rfl, rfl⟩ := Operand.derives h writable
    exact ⟨.mk (.mk u []) [], by simp, rfl⟩
  | both ha hb =>
    obtain ⟨u, rfl, rfl⟩ := Operand.derives ha writable.1
    obtain ⟨v, rfl, rfl⟩ := Operand.derives hb writable.2
    exact ⟨.mk (.mk u [v]) [], by simp, rfl⟩
  | either ha hb =>
    obtain ⟨u, rfl, rfl⟩ := Operand.derives ha writable.1
    obtain ⟨v, rfl, rfl⟩ := Operand.derives hb writable.2
    exact ⟨.mk (.mk u []) [.mk v []], by simp, rfl⟩
  | negation h =>
    obtain ⟨u, rfl, rfl⟩ := Operand.derives h writable
    exact ⟨.mk (.mk (.negation u) []) [], by simp, rfl⟩
termination_by (ts.length, 1)

theorem Operand.derives {a : Condition} {ts : List Token} (h : Operand a ts)
    (writable : a.Writable) : ∃ u : Grammar.Unary, u.tokens = ts ∧ u.tree = a := by
  cases h with
  | comparison c =>
    obtain ⟨a, tokens, tree⟩ := Comparison.derives writable
    exact ⟨.atom a, tokens, tree⟩
  | group h =>
    obtain ⟨e, rfl, rfl⟩ := Bracketed.derives h writable
    exact ⟨.group e, rfl, rfl⟩
termination_by (ts.length, 0)

end

end Condition

theorem Token.Word.data {name : String} (word : Token.Word name) :
    (Token.ident ("data." ++ name)).Legible := by
  have chars : ∀ c ∈ ("data." ++ name).toList, Token.isWordChar c = true := by
    rw [String.toList_append]
    exact List.forall_mem_append.mpr ⟨(by decide : Token.Word "data.").2, word.2⟩
  refine ⟨⟨?_, chars⟩, ?_, ?_⟩
  · rw [Ne, ← String.toList_eq_nil_iff, String.toList_append]
    exact List.cons_ne_nil _ _
  · rw [String.toList_append]
    rfl
  · -- No keyword begins like a data field.
    have all : ∀ entry ∈ Token.keywords,
        Condition.dataLead.isPrefixOf entry.1.toList = false := by
      decide
    refine List.lookup_eq_none_iff.mpr fun entry listed => bne_iff_ne.mpr ?_
    intro same
    have lead := Condition.isPrefixOf_dataLead.mpr ⟨name, same⟩
    exact Bool.false_ne_true ((all entry listed).symm.trans lead)

theorem Comparison.Writable.legible {c : Comparison} (h : c.Writable)
    (numbers : ∀ x ∈ c.literal.numbers, (Token.number x).Legible) : ∀ t ∈ c.tokens, t.Legible := by
  obtain ⟨field, op, negated, literal⟩ := c
  refine List.forall_mem_cons.mpr ⟨?_, List.forall_mem_append.mpr ⟨?_, ?_⟩⟩
  · cases field with
    | data name => exact (h.field name rfl).data
    | intent => exact (⟨by decide, by decide, by decide⟩ : (Token.ident "intent").Legible)
    | state => exact (⟨by decide, by decide, by decide⟩ : (Token.ident "state").Legible)
    | turn => exact (⟨by decide, by decide, by decide⟩ : (Token.ident "turn").Legible)
  · cases op <;> cases negated <;> simp [operatorTokens, Operator.token, Token.Legible]
  · cases literal with
    | text _ | bool _ | pattern _ => exact List.forall_mem_singleton.mpr trivial
    | number x => exact List.forall_mem_singleton.mpr (numbers x List.mem_cons_self)
    | category name => exact List.forall_mem_singleton.mpr (h.category name rfl)
    | absent => exact fun _ ht => absurd ht List.not_mem_nil

namespace Condition

mutual

theorem Bracketed.legible {a : Condition} {ts : List Token} (h : Bracketed a ts)
    (writable : a.Writable) (numbers : ∀ x ∈ a.numbers, (Token.number x).Legible) :
    ∀ t ∈ ts, t.Legible := by
  cases h with
  | operand h => exact Operand.legible h writable numbers
  | both ha hb | either ha hb =>
    obtain ⟨left, right⟩ := List.forall_mem_append.mp numbers
    exact List.forall_mem_append.mpr ⟨Operand.legible ha writable.1 left,
      List.forall_mem_cons.mpr ⟨trivial, Operand.legible hb writable.2 right⟩⟩
  | negation h =>
    exact List.forall_mem_cons.mpr ⟨trivial, Operand.legible h writable numbers⟩
termination_by (ts.length, 1)

theorem Operand.legible {a : Condition} {ts : List Token} (h : Operand a ts)
    (writable : a.Writable) (numbers : ∀ x ∈ a.numbers, (Token.number x).Legible) :
    ∀ t ∈ ts, t.Legible := by
  cases h with
  | comparison c => exact Comparison.Writable.legible writable numbers
  | group h =>
    exact List.forall_mem_cons.mpr ⟨trivial, List.forall_mem_append.mpr
      ⟨Bracketed.legible h writable numbers, List.forall_mem_singleton.mpr trivial⟩⟩
termination_by (ts.length, 0)

end

theorem parse_of_written {a : Condition} {text : List Char} (writable : a.Writable)
    (numbers : ∀ x ∈ a.numbers, (Token.number x).Legible) (h : a.Written text) :
    parse (String.ofList text) = .ok a := by
  obtain ⟨tokens, bracketed, spaced⟩ := h
  have legible := bracketed.legible writable numbers
  have tight := spaced.tight legible
  obtain ⟨e, rfl, rfl⟩ := bracketed.derives writable
  have read := e.reads [] (by simp) (by simp)
  rw [List.append_nil] at read
  obtain ⟨p, parsed, tree, rest⟩ := read
  rw [parse, String.toList_ofList, tight.trim_eq]
  simp [tight.nonempty, Token.tokenize_spaced spaced legible, parsed, tree, rest]

end Condition

namespace Condition

theorem Operand.nonempty {a : Condition} {ts : List Token} (h : Operand a ts) : ts ≠ [] := by
  cases h <;> exact List.cons_ne_nil _ _

theorem Writable.operand {a : Condition} (h : a.Writable) : ∃ ts, Operand a ts := by
  induction a with
  | always => exact h.elim
  | comparison c => exact ⟨_, .comparison c⟩
  | both a b iha ihb =>
    obtain ⟨ts, ha⟩ := iha h.1
    obtain ⟨us, hb⟩ := ihb h.2
    exact ⟨_, .group (.both ha hb)⟩
  | either a b iha ihb =>
    obtain ⟨ts, ha⟩ := iha h.1
    obtain ⟨us, hb⟩ := ihb h.2
    exact ⟨_, .group (.either ha hb)⟩
  | negation a ih =>
    obtain ⟨ts, ha⟩ := ih h
    exact ⟨_, .group (.negation ha)⟩

theorem Writable.written {a : Condition} (h : a.Writable) : ∃ text, a.Written text := by
  obtain ⟨ts, operand⟩ := h.operand
  obtain ⟨token, tokens, rfl⟩ := List.exists_cons_of_ne_nil operand.nonempty
  obtain ⟨text, spaced⟩ := Token.exists_spaced token tokens
  exact ⟨text, _, .operand operand, spaced⟩

end Condition

namespace Grammar

theorem Relation.accepts (r : Relation) (field : Field) :
    (r.comparison field).operator.accepts (r.comparison field).negated
      (r.comparison field).literal = true := by
  cases r with
  | textual negated op operand => cases op <;> cases operand <;> rfl
  | matching negated p => rfl
  | present negated => rfl
  | member negated category => rfl
  | equality differs operand => cases operand <;> rfl
  | order op x => cases op <;> rfl

theorem Relation.category_token {r : Relation} {field : Field} {name : String}
    (h : (r.comparison field).literal = .category name) : .category name ∈ r.tokens := by
  cases r with
  | member negated category =>
    cases h
    simp [tokens]
  | textual negated op operand | equality differs operand => cases operand <;> cases h
  | matching negated p | present negated | order op x => cases h

theorem Atom.writable (a : Atom) (lexed : ∀ t ∈ a.tokens, t.Lexed) : a.tree.Writable := by
  obtain ⟨field, named, r⟩ := a
  obtain ⟨word, rest⟩ := List.forall_mem_cons.mp lexed
  refine ⟨?_, r.accepts field, fun name literal => rest _ (Relation.category_token literal)⟩
  rintro name same
  rw [r.comparison_field] at same
  cases same
  refine ⟨fun empty => named (congrArg _ empty), fun c hc => word.2 c ?_⟩
  rw [fieldWord, String.toList_append]
  exact List.mem_append_right _ hc

mutual

theorem Expression.writable (e : Expression) (lexed : ∀ t ∈ e.tokens, t.Lexed) :
    e.tree.Writable := by
  obtain ⟨first, more⟩ := e
  obtain ⟨hfirst, hmore⟩ := List.forall_mem_append.mp lexed
  exact eitherAll_writable more first.tree (first.writable hfirst) hmore

theorem eitherAll_writable (more : List Conjunction) (left : Condition) (writable : left.Writable)
    (lexed : ∀ t ∈ alternatives more, t.Lexed) : (eitherAll left more).Writable := by
  cases more with
  | nil => exact writable
  | cons next more =>
    obtain ⟨hnext, hmore⟩ := List.forall_mem_append.mp (List.forall_mem_cons.mp lexed).2
    exact eitherAll_writable more (.either left next.tree) ⟨writable, next.writable hnext⟩ hmore

theorem Conjunction.writable (c : Conjunction) (lexed : ∀ t ∈ c.tokens, t.Lexed) :
    c.tree.Writable := by
  obtain ⟨first, more⟩ := c
  obtain ⟨hfirst, hmore⟩ := List.forall_mem_append.mp lexed
  exact bothAll_writable more first.tree (first.writable hfirst) hmore

theorem bothAll_writable (more : List Unary) (left : Condition) (writable : left.Writable)
    (lexed : ∀ t ∈ conjuncts more, t.Lexed) : (bothAll left more).Writable := by
  cases more with
  | nil => exact writable
  | cons next more =>
    obtain ⟨hnext, hmore⟩ := List.forall_mem_append.mp (List.forall_mem_cons.mp lexed).2
    exact bothAll_writable more (.both left next.tree) ⟨writable, next.writable hnext⟩ hmore

theorem Unary.writable (u : Unary) (lexed : ∀ t ∈ u.tokens, t.Lexed) : u.tree.Writable := by
  cases u with
  | negation inner => exact inner.writable (List.forall_mem_cons.mp lexed).2
  | group inner =>
    exact inner.writable (List.forall_mem_append.mp (List.forall_mem_cons.mp lexed).2).1
  | atom a => exact a.writable lexed

end

end Grammar

namespace Condition

theorem writable_of_parse {source : String} {a : Condition} (h : parse source = .ok a)
    (notAlways : a ≠ .always) : a.Writable := by
  unfold parse at h
  dsimp only at h
  split at h
  · cases h
    exact absurd rfl notAlways
  · split at h
    · cases h
    · rename_i tokens lexed
      split at h
      · cases h
      · rename_i p parsed
        split at h
        · rename_i full
          cases h
          obtain ⟨e, derives, tree⟩ := Grammar.expression_of_reads
            ⟨p, parsed, rfl, List.isEmpty_iff.mp full⟩
          rw [List.append_nil] at derives
          exact tree ▸ e.writable (derives ▸ Token.tokenize_lexed lexed)
        · cases h

end Condition

-- Reading gives back every condition from each of its texts, and those with a text are all that
-- reading can give, apart from the condition that always holds.
theorem parse_written (c : Condition) (finite : ∀ x ∈ c.numbers, x.isFinite = true)
    (readback : ∀ x ∈ c.numbers, x.isFinite = true →
      Token.readNumber? (Decimal.plain.render x).toList = some x) :
    (c.Writable ↔ c ≠ .always ∧ ∃ source, Condition.parse source = .ok c) ∧
    (c.Writable → (∃ text, c.Written text) ∧
      ∀ text, c.Written text → Condition.parse (String.ofList text) = .ok c) := by
  have numbers : ∀ x ∈ c.numbers, (Token.number x).Legible := fun x hx => readback x hx (finite x hx)
  refine ⟨⟨fun writable => ?_, fun ⟨notAlways, source, parsed⟩ =>
    Condition.writable_of_parse parsed notAlways⟩, fun writable => ?_⟩
  · refine ⟨?_, ?_⟩
    · rintro rfl
      exact writable
    · obtain ⟨text, written⟩ := writable.written
      exact ⟨_, Condition.parse_of_written writable numbers written⟩
  · exact ⟨writable.written, fun text => Condition.parse_of_written writable numbers⟩

def caveat : Condition :=
  .both (.comparison ⟨.turn, .greater, false, .number 2.5⟩)
    (.negation (.comparison ⟨.data "note", .equals, true, .text "it's a \\"⟩))

def caveatText : String := "turn > 2.5  and\t( NOT data.note !=\n'it\\'s a \\\\' )"

theorem caveat_rendered : (Decimal.plain.render 2.5).toList = "2.5".toList := by
  decide +kernel

theorem caveat_text : caveatText.toList = "turn".toList ++ ([' '] ++ (">".toList ++ ([' '] ++
    ((Decimal.plain.render 2.5).toList ++ ([' ', ' '] ++ ("and".toList ++ (['\t'] ++
    ("(".toList ++ ([' '] ++ ("NOT".toList ++ ([' '] ++ ("data.note".toList ++ ([' '] ++
    ("!=".toList ++ (['\n'] ++ (('\'' :: (Token.escaped '\'' "it's a \\".toList ++ ['\''])) ++
    ([' '] ++ ")".toList))))))))))))))))) := by
  rw [caveat_rendered]
  decide

theorem caveat_written : caveat.Written caveatText.toList := by
  refine ⟨_, .both (.comparison _) (.group (.negation (.comparison _))), ?_⟩
  rw [caveat_text]
  have gap {c : Char} (h : Token.isSpace c = true) : ∀ d ∈ [c], Token.isSpace d = true :=
    List.forall_mem_singleton.mpr h
  refine .next (.ident "turn") (by decide) (gap rfl) ?_
  refine .next (.fixed (by decide)) (by decide) (gap rfl) ?_
  refine .next (.number 2.5) (by decide) (by simp [Token.isSpace]) ?_
  refine .next (.fixed (by decide)) (by decide) (gap rfl) ?_
  refine .next (.fixed (by decide)) (by decide) (gap rfl) ?_
  refine .next (.fixed (by decide)) (by decide) (gap rfl) ?_
  refine .next (.ident "data.note") (by decide) (gap rfl) ?_
  refine .next (.fixed (by decide)) (by decide) (gap rfl) ?_
  refine .next (.text "it's a \\" '\'' (.inr rfl)) (by decide) (gap rfl) ?_
  exact .last (.fixed (by decide))

theorem caveat_writable : caveat.Writable :=
  ⟨⟨fun _ h => Field.noConfusion h, rfl, fun _ h => Literal.noConfusion h⟩,
    ⟨fun _ h => Field.data.inj h ▸ by decide, rfl, fun _ h => Literal.noConfusion h⟩⟩

theorem caveat_read :
    caveat.Written caveatText.toList ∧ Condition.parse caveatText = .ok caveat := by
  have numbers : ∀ x ∈ caveat.numbers, x = 2.5 := by simp [caveat, Condition.numbers, Literal.numbers]
  have read := ((parse_written caveat (fun x hx => numbers x hx ▸ by decide)
    (fun x hx _ => numbers x hx ▸ by decide +kernel)).2 caveat_writable).2 _ caveat_written
  rw [String.ofList_toList] at read
  exact ⟨caveat_written, read⟩

end Colloquy
