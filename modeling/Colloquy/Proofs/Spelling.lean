import Mathlib.Data.List.Basic
import Colloquy.Condition.Token

/-! How tokens are written, and that written tokens with white space between them are read back. -/
namespace Colloquy

namespace Text

def codes (ranges : List (Nat × Nat)) : List Nat :=
  ranges.flatMap fun range => List.range' range.1 (range.2 + 1 - range.1)

theorem mem_codes {ranges : List (Nat × Nat)} {c : Char} (h : within ranges c = true) :
    c.toNat ∈ codes ranges := by
  obtain ⟨range, hrange, hc⟩ := List.any_eq_true.mp h
  simp only [Bool.and_eq_true, decide_eq_true_eq] at hc
  refine List.mem_flatMap.mpr ⟨range, hrange, ?_⟩
  rw [List.mem_range'_1]
  omega

-- A text that begins and ends with characters other than white space.
structure Tight (cs : List Char) : Prop where
  nonempty : cs ≠ []
  first : cs.head?.any isBlank = false
  last : cs.getLast?.any isBlank = false

theorem Tight.of_all {cs : List Char} (nonempty : cs ≠ []) (h : ∀ c ∈ cs, isBlank c = false) :
    Tight cs :=
  ⟨nonempty, (Option.any_eq_false ..).mpr fun c hc => h c (List.mem_of_mem_head? hc),
    (Option.any_eq_false ..).mpr fun c hc => h c (List.mem_of_getLast? hc)⟩

theorem Tight.append {front back : List Char} (hfront : Tight front) (gap : List Char)
    (hback : Tight back) : Tight (front ++ (gap ++ back)) := by
  refine ⟨by simp [hfront.nonempty], ?_, ?_⟩
  · rw [List.head?_append_of_ne_nil _ hfront.nonempty]
    exact hfront.first
  · rw [← List.append_assoc, List.getLast?_append_of_ne_nil _ hback.nonempty]
    exact hback.last

theorem dropWhile_head {p : α → Bool} {l : List α} (h : l.head?.any p = false) :
    l.dropWhile p = l := by
  cases l with
  | nil => rfl
  | cons a l => simp_all

theorem Tight.trim_eq {cs : List Char} (h : Tight cs) : trim cs = cs := by
  rw [trim, dropWhile_head h.first, trimEnd, dropWhile_head, List.reverse_reverse]
  rw [List.head?_reverse]
  exact h.last

end Text

namespace Token

theorem not_word_of_blank {c : Char} (h : Text.isBlank c = true) : isWordChar c = false := by
  have all : ∀ n ∈ Text.codes Text.blankRanges, isWordChar (Char.ofNat n) = false := by
    decide +kernel
  have := all c.toNat (Text.mem_codes h)
  rwa [Char.ofNat_toNat] at this

theorem blank_of_space {c : Char} (h : isSpace c = true) : Text.isBlank c = true := by
  simp only [isSpace, Bool.or_eq_true, beq_iff_eq] at h
  obtain ((rfl | rfl) | rfl) | rfl := h <;> rfl

theorem number_of_space {c : Char} (h : isSpace c = true) : isNumberChar c = false := by
  simp only [isSpace, Bool.or_eq_true, beq_iff_eq] at h
  obtain ((rfl | rfl) | rfl) | rfl := h <;> rfl

-- The fixed spellings: keywords in capitals and in small letters, and the marks.
def spellings : Token → List String
  | .and => ["AND", "and"]
  | .or => ["OR", "or"]
  | .not => ["NOT", "not"]
  | .contains => ["CONTAINS", "contains"]
  | .isMatch => ["MATCHES", "matches"]
  | .startsWith => ["STARTS_WITH", "starts_with"]
  | .endsWith => ["ENDS_WITH", "ends_with"]
  | .isPresent => ["EXISTS", "exists"]
  | .isMember => ["IN", "in"]
  | .bool true => ["true"]
  | .bool false => ["false"]
  | .equals => ["=="]
  | .differs => ["!="]
  | .greater => [">"]
  | .less => ["<"]
  | .atLeast => [">="]
  | .atMost => ["<="]
  | .opening => ["("]
  | .closing => [")"]
  | .ident _ | .category _ | .text _ | .number _ => []

-- The quote and every backslash get a backslash in front.
def escaped (quote : Char) (cs : List Char) : List Char :=
  cs.flatMap fun c => if c = quote ∨ c = '\\' then ['\\', c] else [c]

inductive Spelled : Token → List Char → Prop where
  | fixed {token : Token} {w : String} (h : w ∈ token.spellings) : Spelled token w.toList
  | ident (name : String) : Spelled (.ident name) name.toList
  | category (name : String) : Spelled (.category name) ('@' :: name.toList)
  | text (s : String) (quote : Char) (h : quote = '"' ∨ quote = '\'') :
      Spelled (.text s) (quote :: (escaped quote s.toList ++ [quote]))
  | number (x : Float) : Spelled (.number x) (Decimal.plain.render x).toList

-- Tokens with one or more characters of white space between any two of them.
inductive Spaced : List Token → List Char → Prop where
  | last {token : Token} {text : List Char} (h : Spelled token text) : Spaced [token] text
  | next {token : Token} {text gap rest : List Char} {tokens : List Token} (h : Spelled token text)
      (nonempty : gap ≠ []) (space : ∀ c ∈ gap, isSpace c = true) (more : Spaced tokens rest) :
      Spaced (token :: tokens) (text ++ (gap ++ rest))

def Word (name : String) : Prop := name ≠ "" ∧ ∀ c ∈ name.toList, isWordChar c = true

instance (name : String) : Decidable (Word name) :=
  decidable_of_iff (name ≠ "" ∧ name.toList.all isWordChar = true) (by rw [List.all_eq_true, Word])

-- Tokens that are read back from how they are written: an identifier must not look like a number
-- or a keyword, and a number must be what its text stands for.
def Legible : Token → Prop
  | .ident name => Word name ∧ name.toList.head?.any Char.isDigit = false ∧
      keywords.lookup name = none
  | .category name => Word name
  | .number x => readNumber? (Decimal.plain.render x).toList = some x
  | _ => True

-- What follows a token: nothing, or white space.
def Boundary (rest : List Char) : Prop := ∀ c ∈ rest.head?, isSpace c = true

variable {rest : List Char}

theorem span_of_boundary {p : Char → Bool} {cs : List Char} (all : ∀ c ∈ cs, p c = true)
    (space : ∀ c, isSpace c = true → p c = false) (boundary : Boundary rest) :
    (cs ++ rest).takeWhile p = cs ∧ (cs ++ rest).dropWhile p = rest := by
  have stop : rest.head?.any p = false :=
    (Option.any_eq_false ..).mpr fun c hc => space c (boundary c hc)
  rw [List.takeWhile_append_of_pos all, List.dropWhile_append_of_pos all]
  refine ⟨?_, Text.dropWhile_head stop⟩
  cases rest with
  | nil => simp
  | cons c rest => simp_all

theorem next?_word {w : String} (word : Word w) (notNumber : w.toList.head?.any Char.isDigit = false)
    (boundary : Boundary rest) : next? (w.toList ++ rest) = .ok (some (ofWord w, rest)) := by
  obtain ⟨nonempty, chars⟩ := word
  cases eq : w.toList with
  | nil => exact absurd (String.toList_eq_nil_iff.mp eq) nonempty
  | cons c cs =>
    rw [eq] at chars notNumber
    have hc : isWordChar c = true := chars c List.mem_cons_self
    have ne (d : Char) (hd : isWordChar d = false) : c ≠ d := by
      rintro rfl
      exact Bool.false_ne_true (hd.symm.trans hc)
    obtain ⟨taken, dropped⟩ := span_of_boundary
      (fun d hd => chars d (List.mem_cons_of_mem _ hd))
      (fun d hd => not_word_of_blank (blank_of_space hd)) boundary
    have whole : String.ofList (c :: cs) = w := by rw [← eq, String.ofList_toList]
    have notDigit : c.isDigit = false := notNumber
    simp only [List.cons_append, next?, taken, dropped, whole, hc, notDigit,
      ne '(' (by decide), ne ')' (by decide), ne '"' (by decide), ne '\'' (by decide),
      ne '@' (by decide), ne '>' (by decide), ne '<' (by decide), ne '=' (by decide),
      ne '!' (by decide), ne '-' (by decide)]
    rfl

theorem next?_keyword {w : String} {token : Token} (h : (w, token) ∈ keywords)
    (boundary : Boundary rest) : next? (w.toList ++ rest) = .ok (some (token, rest)) := by
  have all : ∀ entry ∈ keywords, (Word entry.1 ∧ entry.1.toList.head?.any Char.isDigit = false) ∧
      ofWord entry.1 = entry.2 := by
    decide
  obtain ⟨⟨word, notNumber⟩, same⟩ := all _ h
  rw [next?_word word notNumber boundary, same]

-- White space keeps a mark from being joined with an equals sign.
theorem unjoined (alone joined : Token) : Boundary rest →
    (match rest with
      | '=' :: rest => .ok (some (joined, rest))
      | rest => .ok (some (alone, rest)) : Except LexError (Option (Token × List Char))) =
      .ok (some (alone, rest)) := by
  intro boundary
  split
  · exact absurd (boundary '=' rfl) (by decide)
  · rfl

def marks : List (String × Token) :=
  [("==", .equals), ("!=", .differs), (">", .greater), ("<", .less), (">=", .atLeast),
   ("<=", .atMost), ("(", .opening), (")", .closing)]

theorem next?_mark {w : String} {token : Token} (h : (w, token) ∈ marks)
    (boundary : Boundary rest) : next? (w.toList ++ rest) = .ok (some (token, rest)) := by
  simp only [marks, List.mem_cons, Prod.mk.injEq, List.not_mem_nil, or_false] at h
  obtain ⟨rfl, rfl⟩ | ⟨rfl, rfl⟩ | ⟨rfl, rfl⟩ | ⟨rfl, rfl⟩ | ⟨rfl, rfl⟩ | ⟨rfl, rfl⟩ | ⟨rfl, rfl⟩ |
    ⟨rfl, rfl⟩ := h
  case inr.inr.inl => exact unjoined .greater .atLeast boundary
  case inr.inr.inr.inl => exact unjoined .less .atMost boundary
  all_goals rfl

theorem spelling_listed {token : Token} {w : String} (h : w ∈ token.spellings) :
    (w, token) ∈ keywords ++ marks := by
  cases token
  case ident | category | text | number => cases h
  case bool b => cases b <;> cases List.mem_singleton.mp h <;> decide
  case equals | differs | greater | less | atLeast | atMost | opening | closing =>
    cases List.mem_singleton.mp h
    decide
  all_goals obtain rfl | rfl := List.mem_pair.mp h <;> decide

theorem next?_fixed {token : Token} {w : String} (h : w ∈ token.spellings)
    (boundary : Boundary rest) : next? (w.toList ++ rest) = .ok (some (token, rest)) := by
  obtain keyword | mark := List.mem_append.mp (spelling_listed h)
  · exact next?_keyword keyword boundary
  · exact next?_mark mark boundary

theorem quotedTail_escaped {quote : Char} (h : quote ≠ '\\') (cs rest : List Char) :
    quotedTail quote (escaped quote cs ++ (quote :: rest)) = some (cs, rest) := by
  induction cs with
  | nil => simp [escaped, quotedTail, h]
  | cons c cs ih =>
    rw [escaped, List.flatMap_cons, List.append_assoc, ← escaped]
    split
    · simp [quotedTail, ih]
    · rename_i plain
      simp only [not_or] at plain
      simp [quotedTail, plain, ih]

theorem next?_text {quote : Char} (h : quote = '"' ∨ quote = '\'') (s : String) :
    next? (quote :: (escaped quote s.toList ++ [quote]) ++ rest) = .ok (some (.text s, rest)) := by
  have notBackslash : quote ≠ '\\' := by
    obtain rfl | rfl := h <;> decide
  have read := quotedTail_escaped notBackslash s.toList rest
  rw [List.cons_append, List.append_assoc, List.singleton_append]
  obtain rfl | rfl := h <;> simp [next?, read]

theorem next?_category {name : String} (word : Word name) (boundary : Boundary rest) :
    next? ('@' :: name.toList ++ rest) = .ok (some (.category name, rest)) := by
  obtain ⟨taken, dropped⟩ := span_of_boundary word.2
    (fun d hd => not_word_of_blank (blank_of_space hd)) boundary
  simp [next?, taken, dropped, word.1]

-- Digits and points, after a digit or a minus sign.
inductive NumberText : List Char → Prop where
  | mk {c : Char} {cs : List Char} (lead : c.isDigit = true ∨ c = '-')
      (more : ∀ d ∈ cs, isNumberChar d = true) : NumberText (c :: cs)

theorem next?_number {text : List Char} {x : Float} (h : NumberText text)
    (read : readNumber? text = some x) (boundary : Boundary rest) :
    next? (text ++ rest) = .ok (some (.number x, rest)) := by
  obtain ⟨lead, more⟩ := h
  rename_i c cs
  obtain ⟨taken, dropped⟩ := span_of_boundary more (fun d => number_of_space) boundary
  have ne (d : Char) (hd : (d.isDigit || d == '-') = false) : c ≠ d := by
    rintro rfl
    simp_all
  have number : (c.isDigit || c = '-') = true := by simpa using lead
  simp only [List.cons_append, next?, taken, dropped, read, number,
    ne '(' (by decide), ne ')' (by decide), ne '"' (by decide), ne '\'' (by decide),
    ne '@' (by decide), ne '>' (by decide), ne '<' (by decide), ne '=' (by decide),
    ne '!' (by decide)]
  rfl

theorem isNumberChar_of_isDigit {c : Char} (h : c.isDigit = true) : isNumberChar c = true := by
  simp [isNumberChar, h]

-- Without an exponent, digits are laid out with zeros and at most one point, after a first digit.
theorem positional_digits {text : List Char} (nonempty : text ≠ [])
    (digits : ∀ c ∈ text, c.isDigit = true) (point : Int) :
    (∀ c ∈ Decimal.positional Decimal.plain text point, isNumberChar c = true) ∧
      ∃ c ∈ (Decimal.positional Decimal.plain text point).head?, c.isDigit = true := by
  have number : ∀ c ∈ text, isNumberChar c = true := fun c hc => isNumberChar_of_isDigit (digits c hc)
  have zero (n : Nat) : ∀ c ∈ Decimal.zeros n, isNumberChar c = true := by
    intro c hc
    rw [List.eq_of_mem_replicate hc]
    rfl
  obtain ⟨lead, tail, rfl⟩ := List.exists_cons_of_ne_nil nonempty
  rw [Decimal.positional]
  split
  · simp only [List.cons_append, List.forall_mem_cons, List.forall_mem_append]
    exact ⟨⟨rfl, rfl, zero _, List.forall_mem_cons.mp number⟩, '0', rfl, rfl⟩
  · split
    · refine ⟨?_, lead, rfl, digits lead List.mem_cons_self⟩
      simp only [List.forall_mem_append]
      exact ⟨⟨number, zero _⟩, by simp [Decimal.plain]⟩
    · rename_i positive _
      obtain ⟨n, hn⟩ : ∃ n, point.toNat = n + 1 := ⟨point.toNat - 1, by omega⟩
      refine ⟨?_, lead, by rw [hn]; rfl, digits lead List.mem_cons_self⟩
      simp only [List.forall_mem_append, List.forall_mem_cons]
      exact ⟨fun c hc => number c (List.mem_of_mem_take hc), rfl,
        fun c hc => number c (List.mem_of_mem_drop hc)⟩

theorem layOut_digits (d : Decimal.Digits) :
    (∀ c ∈ Decimal.layOut Decimal.plain d, isNumberChar c = true) ∧
      ∃ c ∈ (Decimal.layOut Decimal.plain d).head?, c.isDigit = true := by
  rw [Decimal.layOut]
  split
  · exact ⟨by simp [Decimal.plain, isNumberChar], '0', rfl, rfl⟩
  · exact positional_digits Nat.toDigits_ne_nil
      (fun c hc => Nat.isDigit_of_mem_toDigits (by decide) (by decide) hc) _

-- Neither what is no number nor an infinity reads as a number.
theorem numberText_of_read {x : Float}
    (h : readNumber? (Decimal.plain.render x).toList = some x) :
    NumberText (Decimal.plain.render x).toList := by
  obtain ⟨number, lead, head, digit⟩ := layOut_digits (Decimal.digitsOf Decimal.plain.tie x)
  obtain ⟨tail, eq⟩ := List.head?_eq_some_iff.mp head
  rw [Decimal.Layout.render] at h ⊢
  split at h
  · cases h
  · rename_i notNaN
    rw [if_neg notNaN]
    dsimp only at h ⊢
    split at h
    · split at h <;> cases h
    · rename_i notInf
      rw [if_neg notInf, String.toList_ofList]
      split
      · rw [List.nil_append, eq]
        exact .mk (.inl digit) fun c hc => number c (eq ▸ List.mem_cons_of_mem _ hc)
      · exact .mk (.inr rfl) number

-- A legible token is read from how it is written, whatever follows after white space.
theorem next?_spelled {token : Token} {text : List Char} (h : Spelled token text)
    (legible : token.Legible) (boundary : Boundary rest) :
    next? (text ++ rest) = .ok (some (token, rest)) := by
  cases h with
  | fixed h => exact next?_fixed h boundary
  | ident name =>
    obtain ⟨word, notNumber, notKeyword⟩ := legible
    rw [next?_word word notNumber boundary, ofWord, notKeyword]
    rfl
  | category name => exact next?_category legible boundary
  | text s quote h => exact next?_text h s
  | number x => exact next?_number (numberText_of_read legible) legible boundary

theorem not_blank_of_word {c : Char} (h : isWordChar c = true) : Text.isBlank c = false := by
  refine eq_false_of_ne_true fun blank => ?_
  exact Bool.false_ne_true ((not_word_of_blank blank).symm.trans h)

theorem word_of_number {c : Char} (h : isNumberChar c = true) : isWordChar c = true := by
  simp only [isNumberChar, Bool.or_eq_true, beq_iff_eq] at h
  obtain digit | rfl := h
  · have ascii : c.toNat < 0x80 :=
      Nat.lt_of_le_of_lt (Char.isDigit_iff_toNat.mp digit).2 (by decide)
    have alphanumeric := Text.isAlphanumeric_of_isAlphanum ascii (by simp [Char.isAlphanum, digit])
    simp [isWordChar, alphanumeric]
  · decide

theorem Word.tight {name : String} (word : Word name) : Text.Tight name.toList :=
  .of_all (fun h => word.1 (String.toList_eq_nil_iff.mp h)) fun c hc =>
    not_blank_of_word (word.2 c hc)

theorem NumberText.tight {text : List Char} (h : NumberText text) : Text.Tight text := by
  obtain ⟨lead, more⟩ := h
  refine .of_all (List.cons_ne_nil _ _) (List.forall_mem_cons.mpr ⟨?_, fun d hd =>
    not_blank_of_word (word_of_number (more d hd))⟩)
  obtain digit | rfl := lead
  · exact not_blank_of_word (word_of_number (isNumberChar_of_isDigit digit))
  · rfl

theorem spelling_tight {token : Token} {w : String} (h : w ∈ token.spellings) :
    Text.Tight w.toList := by
  have all : ∀ entry ∈ keywords ++ marks, entry.1.toList ≠ [] ∧
      entry.1.toList.head?.any Text.isBlank = false ∧
      entry.1.toList.getLast?.any Text.isBlank = false := by
    decide
  obtain ⟨nonempty, first, last⟩ := all _ (spelling_listed h)
  exact ⟨nonempty, first, last⟩

theorem Spelled.tight {token : Token} {text : List Char} (h : Spelled token text)
    (legible : token.Legible) : Text.Tight text := by
  cases h with
  | fixed h => exact spelling_tight h
  | ident name => exact Word.tight legible.1
  | category name =>
    exact .of_all (List.cons_ne_nil _ _) (List.forall_mem_cons.mpr ⟨rfl, fun c hc =>
      not_blank_of_word (legible.2 c hc)⟩)
  | text s quote h =>
    have notBlank : Text.isBlank quote = false := by
      obtain rfl | rfl := h <;> rfl
    refine ⟨List.cons_ne_nil _ _, by simpa using notBlank, ?_⟩
    rw [← List.cons_append, List.getLast?_concat]
    simpa using notBlank
  | number x => exact (numberText_of_read legible).tight

theorem exists_spelled (token : Token) : ∃ text, Spelled token text := by
  cases token
  case ident name => exact ⟨_, .ident name⟩
  case category name => exact ⟨_, .category name⟩
  case text s => exact ⟨_, .text s '"' (.inl rfl)⟩
  case number x => exact ⟨_, .number x⟩
  case bool b => cases b <;> exact ⟨_, .fixed List.mem_cons_self⟩
  all_goals exact ⟨_, .fixed List.mem_cons_self⟩

theorem exists_spaced (token : Token) (tokens : List Token) :
    ∃ text, Spaced (token :: tokens) text := by
  obtain ⟨text, spelled⟩ := exists_spelled token
  induction tokens generalizing token text with
  | nil => exact ⟨text, .last spelled⟩
  | cons next tokens ih =>
    obtain ⟨word, spelled'⟩ := exists_spelled next
    obtain ⟨rest, more⟩ := ih next word spelled'
    exact ⟨_, .next spelled (List.cons_ne_nil ' ' []) (by simp [isSpace]) more⟩

theorem Spaced.tight {tokens : List Token} {text : List Char} (h : Spaced tokens text)
    (legible : ∀ token ∈ tokens, token.Legible) : Text.Tight text := by
  induction h with
  | last h => exact h.tight (legible _ List.mem_cons_self)
  | next h _ _ _ ih =>
    exact (h.tight (legible _ List.mem_cons_self)).append _
      (ih fun token ht => legible token (List.mem_cons_of_mem _ ht))

theorem tokenize_nil : tokenize [] = .ok [] := by
  rw [tokenize]
  rfl

theorem tokenize_space {gap : List Char} (space : ∀ c ∈ gap, isSpace c = true) (rest : List Char) :
    tokenize (gap ++ rest) = tokenize rest := by
  rw [tokenize, tokenize, List.dropWhile_append_of_pos space]

theorem tokenize_next {body tail : List Char} {token : Token} (tight : Text.Tight body)
    (h : next? body = .ok (some (token, tail))) :
    tokenize body = (tokenize tail).map (token :: ·) := by
  have first : body.head?.any isSpace = false := by
    refine (Option.any_eq_false ..).mpr fun c hc => eq_false_of_ne_true fun space => ?_
    have notBlank := (Option.any_eq_false ..).mp tight.first c hc
    exact Bool.false_ne_true (notBlank.symm.trans (blank_of_space space))
  rw [tokenize, Text.dropWhile_head first]
  split
  · rename_i found
    cases found.symm.trans h
  · rename_i found
    cases found.symm.trans h
  · rename_i found
    cases found.symm.trans h
    rfl

theorem tokenize_spaced {tokens : List Token} {text : List Char} (h : Spaced tokens text)
    (legible : ∀ token ∈ tokens, token.Legible) : tokenize text = .ok tokens := by
  have tight := h.tight legible
  induction h with
  | @last token text h =>
    have read : next? (text ++ []) = .ok (some (token, [])) :=
      next?_spelled h (legible _ List.mem_cons_self) (by simp [Boundary])
    rw [List.append_nil] at read
    rw [tokenize_next tight read, tokenize_nil]
    rfl
  | @next token text gap rest tokens h nonempty space more ih =>
    have boundary : Boundary (gap ++ rest) := by
      intro c hc
      rw [List.head?_append_of_ne_nil _ nonempty] at hc
      exact space c (List.mem_of_mem_head? hc)
    have later := fun token ht => legible token (List.mem_cons_of_mem _ ht)
    rw [tokenize_next tight (next?_spelled h (legible _ List.mem_cons_self) boundary),
      tokenize_space space, ih later (more.tight later)]
    rfl

def Lexed : Token → Prop
  | .ident name | .category name => Word name
  | _ => True

theorem word_of_chars {cs : List Char} (nonempty : cs ≠ []) (h : ∀ c ∈ cs, isWordChar c = true) :
    Word (String.ofList cs) := by
  refine ⟨?_, by rwa [String.toList_ofList]⟩
  rwa [Ne, ← String.toList_eq_nil_iff, String.toList_ofList]

theorem ofWord_lexed {w : String} (word : Word w) : (ofWord w).Lexed := by
  rw [ofWord]
  cases found : keywords.lookup w with
  | none => exact word
  | some token =>
    obtain ⟨before, after, eq, -⟩ := List.lookup_eq_some_iff.mp found
    have all : ∀ entry ∈ keywords, entry.2.Lexed := by simp [keywords, Lexed]
    exact all (w, token) (by simp [eq])

theorem next?_lexed {cs rest : List Char} {token : Token}
    (h : next? cs = .ok (some (token, rest))) : token.Lexed := by
  have taken (l : List Char) : ∀ c ∈ l.takeWhile isWordChar, isWordChar c = true :=
    List.all_eq_true.mp List.all_takeWhile
  unfold next? at h
  split at h
  · cases h
  · rename_i c tail
    simp only at h
    repeat' split at h
    all_goals cases h
    -- Names come from what follows an at sign and from a word of its own.
    all_goals first
      | trivial
      | exact ofWord_lexed (word_of_chars (List.cons_ne_nil _ _)
          (List.forall_mem_cons.mpr ⟨‹_›, taken _⟩))
      | exact word_of_chars (mt List.isEmpty_iff.mpr ‹_›) (taken _)

theorem tokenize_lexed {cs : List Char} {tokens : List Token} (h : tokenize cs = .ok tokens) :
    ∀ token ∈ tokens, token.Lexed := by
  fun_induction tokenize cs generalizing tokens with
  | case1 => cases h
  | case2 => cases h; simp
  | case3 =>
    rename_i token rest found ih
    cases later : tokenize rest with
    | error e => rw [later] at h; cases h
    | ok more =>
      rw [later] at h
      cases h
      exact List.forall_mem_cons.mpr ⟨next?_lexed found, ih later⟩

end Token

end Colloquy
