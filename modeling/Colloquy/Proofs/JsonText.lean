import Colloquy.Proofs.Numerals

/-! What is written as JSON reads back, within the limits on nesting and numbers. -/
namespace Colloquy.Json

theorem hexValue_hexDigit (n : Nat) : Text.hexValue? (hexDigit n) = some (n % 16) := by
  have all : ∀ k < 16, Text.hexValue? (Nat.digitChar k) = some k := by decide
  exact all (n % 16) (Nat.mod_lt n (by decide))

theorem unicodeEscape_control {c : Char} (control : c.toNat < 0x20) (rest : List Char) :
    unicodeEscape ('0' :: '0' :: hexDigit (c.toNat / 16) :: hexDigit c.toNat :: rest) =
      .ok (some c, rest) := by
  have zero : Text.hexValue? '0' = some 0 := by decide
  have whole : ((0 * 16 + 0) * 16 + c.toNat / 16 % 16) * 16 + c.toNat % 16 = c.toNat := by omega
  have low : isLowSurrogate c.toNat = false := by simp [isLowSurrogate]; omega
  have high : isHighSurrogate c.toNat = false := by simp [isHighSurrogate]; omega
  simp only [unicodeEscape, hexFour, zero, hexValue_hexDigit, whole, bind, Except.bind, low, high]
  simp [pure, Except.pure, Char.ofNat_toNat]

section Character

variable {c : Char} {cs rest tail : List Char} {fuel : Nat}

theorem textTail_short {e : Char} (escape : shortEscape? e = some c)
    (read : textTail fuel rest = .ok (some cs, tail)) :
    textTail (fuel + 1) ('\\' :: e :: rest) = .ok (some (c :: cs), tail) := by
  have notUnicode : e ≠ 'u' := by
    rintro rfl
    cases escape
  rw [textTail]
  · simp only [escape, read]
    rfl
  · exact fun same => notUnicode same

theorem textTail_plain (notQuote : c ≠ '"') (notBackslash : c ≠ '\\') (notControl : ¬ c.toNat < 0x20)
    (read : textTail fuel rest = .ok (some cs, tail)) :
    textTail (fuel + 1) (c :: rest) = .ok (some (c :: cs), tail) := by
  rw [textTail]
  · simp only [read, if_neg notControl]
    rfl
  · exact notQuote
  · exact fun _ backslash _ => notBackslash backslash
  · exact fun _ _ backslash _ => notBackslash backslash
  · exact fun backslash _ => notBackslash backslash

theorem textTail_char (read : textTail fuel rest = .ok (some cs, tail)) :
    textTail (fuel + 1) (escapeChar c ++ rest) = .ok (some (c :: cs), tail) := by
  have coded {n : Nat} {e : Char} (code : c.toNat = n)
      (escape : shortEscape? e = some (Char.ofNat n)) :
      textTail (fuel + 1) ('\\' :: e :: rest) = .ok (some (c :: cs), tail) := by
    rw [← code, Char.ofNat_toNat] at escape
    exact textTail_short escape read
  unfold escapeChar
  split
  · subst c
    exact textTail_short rfl read
  split
  · subst c
    exact textTail_short rfl read
  split
  · exact coded ‹_› rfl
  split
  · exact coded ‹_› rfl
  split
  · exact coded ‹_› rfl
  split
  · exact coded ‹_› rfl
  split
  · exact coded ‹_› rfl
  split
  · rename_i control
    simp only [List.cons_append, List.nil_append, textTail, unicodeEscape_control control]
    change (textTail fuel rest >>= fun p => pure (List.cons <$> some c <*> p.1, p.2)) = _
    rw [read]
    rfl
  · rename_i notQuote notBackslash _ _ _ _ _ notControl
    exact textTail_plain notQuote notBackslash notControl read

end Character

theorem textTail_escaped (cs rest : List Char) (fuel : Nat) (enough : cs.length < fuel) :
    textTail fuel (cs.flatMap escapeChar ++ '"' :: rest) = .ok (some cs, rest) := by
  induction cs generalizing fuel with
  | nil =>
    obtain ⟨fuel, rfl⟩ := Nat.exists_eq_add_one_of_ne_zero (Nat.ne_of_gt enough)
    rfl
  | cons c cs ih =>
    obtain ⟨fuel, rfl⟩ := Nat.exists_eq_add_one_of_ne_zero (Nat.ne_of_gt (Nat.zero_lt_of_lt enough))
    rw [List.flatMap_cons, List.append_assoc]
    exact textTail_char (ih fuel (by simpa using enough))

theorem text_written (s : String) (rest : List Char) :
    text (s.toList.flatMap escapeChar ++ '"' :: rest) = .ok (some s, rest) := by
  have shorter (cs : List Char) : cs.length ≤ (cs.flatMap escapeChar).length := by
    induction cs with
    | nil => simp
    | cons c cs ih =>
      have one : 1 ≤ (escapeChar c).length := by
        unfold escapeChar
        repeat' split
        all_goals simp
      rw [List.flatMap_cons, List.length_append, List.length_cons]
      omega
  have enough : s.toList.length < (s.toList.flatMap escapeChar ++ '"' :: rest).length + 1 := by
    have := shorter s.toList
    rw [List.length_append]
    omega
  unfold text
  rw [textTail_escaped s.toList rest _ enough]
  simp [bind, Except.bind, pure, Except.pure, String.ofList_toList]

-- A text that reads as one document, with so many levels open to nesting and in front of all that
-- ends a number.
structure Reads (depth : Nat) (cs : List Char) (d : Document) : Prop where
  head : ∃ c more, cs = c :: more ∧ isSpace c = false ∧ c ≠ ']'
  reads : ∀ fuel rest, cs.length < fuel → Ends rest → value depth fuel (cs ++ rest) = .ok (d, rest)

def Blank (gap : List Char) : Prop := ∀ c ∈ gap, isSpace c = true

theorem skipSpace_blank {gap : List Char} (blank : Blank gap) (cs : List Char) :
    skipSpace (gap ++ cs) = skipSpace cs := by
  unfold skipSpace
  exact List.dropWhile_append_of_pos blank

theorem value_blank {gap : List Char} (blank : Blank gap) (depth fuel : Nat) (cs : List Char) :
    value depth fuel (gap ++ cs) = value depth fuel cs := by
  cases fuel with
  | zero => simp only [value]
  | succ fuel => simp only [value, skipSpace_blank blank]

theorem members_blank {gap : List Char} (blank : Blank gap) (depth fuel : Nat) (cs : List Char) :
    members depth fuel (gap ++ cs) = members depth fuel cs := by
  cases fuel with
  | zero => simp only [members]
  | succ fuel => simp only [members, skipSpace_blank blank]

theorem ends_of_mark {c : Char} (mark : c ∈ [',', ']', '\x7d']) (rest : List Char) :
    Ends (c :: rest) := by
  simp only [List.mem_cons, List.not_mem_nil, or_false] at mark
  rintro _ ⟨⟩
  rcases mark with rfl | rfl | rfl <;> decide

theorem ends_of_blank {gap rest : List Char} (blank : Blank gap) (ends : Ends rest) :
    Ends (gap ++ rest) := by
  cases gap with
  | nil => exact ends
  | cons c gap =>
    rintro _ ⟨⟩
    have space := blank c (List.mem_cons_self ..)
    refine ⟨?_, ?_, ?_, ?_⟩
    · cases digit : c.isDigit with
      | false => rfl
      | true =>
        rw [digit_notSpace digit] at space
        cases space
    all_goals
      rintro rfl
      cases space

section Layout

variable {gap last : List Char} (blank : Blank gap) (blankLast : Blank last)
include blank blankLast

theorem items_joined {depth : Nat} {pieces : List (List Char)} {ds : List Document}
    (all : List.Forall₂ (Reads depth) pieces ds) (some : pieces ≠ []) (fuel : Nat)
    (rest : List Char)
    (enough : (gap ++ joined (',' :: gap) pieces ++ last).length + 1 < fuel) :
    items depth fuel (gap ++ joined (',' :: gap) pieces ++ last ++ ']' :: rest) =
      .ok (ds, rest) := by
  induction all generalizing fuel with
  | nil => exact absurd rfl some
  | @cons piece d pieces ds first all ih =>
    obtain ⟨fuel, rfl⟩ := Nat.exists_eq_add_one_of_ne_zero (Nat.ne_of_gt (Nat.zero_lt_of_lt enough))
    cases all with
    | nil =>
      simp only [joined, List.length_append] at enough
      have read := first.reads fuel (last ++ ']' :: rest) (by omega)
        (ends_of_blank blankLast (ends_of_mark (by decide) rest))
      have close : skipSpace (last ++ ']' :: rest) = ']' :: rest := by
        rw [skipSpace_blank blankLast]
        rfl
      simp only [items, joined, List.append_assoc, value_blank blank, read]
      simp only [bind, Except.bind, close]
      rfl
    | @cons next e pieces ds second all =>
      simp only [joined, List.length_append, List.length_cons] at enough
      have read (more : List Char) := first.reads fuel (',' :: more) (by omega)
        (ends_of_mark (by decide) more)
      have comma (more : List Char) : skipSpace (',' :: more) = ',' :: more := rfl
      have further := ih (by simp) fuel (by simp only [List.length_append]; omega)
      simp only [List.append_assoc] at further
      simp only [items, joined, List.append_assoc, value_blank blank, List.cons_append, read]
      simp only [bind, Except.bind, comma, further]
      rfl

structure ReadsMember (depth : Nat) (cs : List Char) (entry : String × Document) : Prop where
  text : ∃ after, cs = writeText entry.1 ++ ':' :: ' ' :: after ∧ Reads depth after entry.2

theorem members_joined {depth : Nat} {pieces : List (List Char)}
    {entries : List (String × Document)}
    (all : List.Forall₂ (ReadsMember depth) pieces entries) (some : pieces ≠ []) (fuel : Nat)
    (rest : List Char)
    (enough : (gap ++ joined (',' :: gap) pieces ++ last).length + 1 < fuel) :
    members depth fuel (gap ++ joined (',' :: gap) pieces ++ last ++ '\x7d' :: rest) =
      .ok (.some entries, rest) := by
  induction all generalizing fuel with
  | nil => exact absurd rfl some
  | @cons piece entry pieces entries first all ih =>
    obtain ⟨fuel, rfl⟩ := Nat.exists_eq_add_one_of_ne_zero (Nat.ne_of_gt (Nat.zero_lt_of_lt enough))
    obtain ⟨key, d⟩ := entry
    obtain ⟨after, rfl, reads⟩ := first.text
    have quote (more : List Char) : skipSpace ('"' :: more) = '"' :: more := rfl
    have colon (more : List Char) : skipSpace (':' :: more) = ':' :: more := rfl
    have one : Blank [' '] := List.forall_mem_singleton.mpr rfl
    have space (more : List Char) : value depth fuel (' ' :: more) = value depth fuel more :=
      value_blank one depth fuel more
    cases all with
    | nil =>
      simp only [joined, List.length_append, List.length_cons] at enough
      have read := reads.reads fuel (last ++ '\x7d' :: rest) (by omega)
        (ends_of_blank blankLast (ends_of_mark (by decide) rest))
      have close : skipSpace (last ++ '\x7d' :: rest) = '\x7d' :: rest := by
        rw [skipSpace_blank blankLast]
        rfl
      simp only [joined, List.append_assoc, members_blank blank]
      simp only [members, writeText, List.cons_append, List.append_assoc, List.nil_append, quote]
      simp only [text_written, bind, Except.bind, colon, space, read, close]
      rfl
    | @cons next e pieces ds second all =>
      simp only [joined, List.length_append, List.length_cons] at enough
      have read (more : List Char) := reads.reads fuel (',' :: more) (by omega)
        (ends_of_mark (by decide) more)
      have comma (more : List Char) : skipSpace (',' :: more) = ',' :: more := rfl
      have further := ih (by simp) fuel (by simp only [List.length_append]; omega)
      simp only [List.append_assoc] at further
      simp only [joined, List.append_assoc, members_blank blank]
      simp only [members, writeText, List.cons_append, List.append_assoc, List.nil_append, quote]
      simp only [text_written, bind, Except.bind, colon, space, read, comma, further]
      rfl

end Layout

-- What reads back, with so many levels of lists and tables.
inductive Readable : (levels : Nat) → Document → Prop where
  | null {levels : Nat} : Readable levels .null
  | bool {levels : Nat} (b : Bool) : Readable levels (.bool b)
  | int {levels : Nat} {n : Int} (low : -(2 ^ 63) ≤ n) (high : n < 2 ^ 64) : Readable levels (.int n)
  | float {levels : Nat} {x : Float} (exact : Exact x) : Readable levels (.float x)
  | text {levels : Nat} (s : String) : Readable levels (.text s)
  | list {levels : Nat} {items : List Document} (each : ∀ d ∈ items, Readable levels d) :
      Readable (levels + 1) (.list items)
  | table {levels : Nat} {entries : List (String × Document)}
      (each : ∀ p ∈ entries, Readable levels p.2) : Readable (levels + 1) (.table entries)

theorem prettyItems_eq (indent : Nat) (items : List Document) :
    prettyItems indent items = items.map (prettyChars indent) := by
  induction items with
  | nil => rfl
  | cons d rest ih =>
    unfold prettyItems
    rw [ih, List.map_cons]

theorem prettyEntries_eq (indent : Nat) (entries : List (String × Document)) :
    prettyEntries indent entries =
      entries.map fun p => writeText p.1 ++ ':' :: ' ' :: prettyChars indent p.2 := by
  induction entries with
  | nil => rfl
  | cons p rest ih =>
    unfold prettyEntries
    rw [ih, List.map_cons]

theorem blank_newline (indent : Nat) : Blank (newline indent) := by
  unfold newline
  rintro c (_ | ⟨_, member⟩)
  · rfl
  · rw [List.eq_of_mem_replicate member]
    rfl

theorem reads_numeral {d : Document} {cs : List Char} (numeral : Numeral d cs) (depth : Nat) :
    Reads depth cs d where
  head := numeral.head
  reads fuel rest enough ends := by
    obtain ⟨fuel, rfl⟩ := Nat.exists_eq_add_one_of_ne_zero (Nat.ne_of_gt (Nat.zero_lt_of_lt enough))
    exact numeral.value ends

theorem reads_word {d : Document} {c : Char} {cs : List Char} (depth : Nat)
    (notSpace : isSpace c = false) (notClosing : c ≠ ']')
    (branch : ∀ fuel rest, value depth (fuel + 1) (c :: cs ++ rest) = .ok (d, rest)) :
    Reads depth (c :: cs) d where
  head := ⟨c, cs, rfl, notSpace, notClosing⟩
  reads fuel rest enough ends := by
    obtain ⟨fuel, rfl⟩ := Nat.exists_eq_add_one_of_ne_zero (Nat.ne_of_gt (Nat.zero_lt_of_lt enough))
    exact branch fuel rest

theorem reads_text (s : String) (depth : Nat) : Reads depth (writeText s) (.text s) := by
  have quote (more : List Char) : skipSpace ('"' :: more) = '"' :: more := rfl
  change Reads depth ('"' :: (s.toList.flatMap escapeChar ++ ['"'])) (.text s)
  refine reads_word depth rfl (by decide) fun fuel rest => ?_
  simp only [value, List.cons_append, List.append_assoc, List.nil_append, quote, text_written]
  rfl

theorem nested_open {depth : Nat} (nests : 1 < depth) (d : Document) : nested depth d = d :=
  if_neg (Nat.not_le.mpr nests)

theorem items_blank {gap : List Char} (blank : Blank gap) (depth fuel : Nat) (cs : List Char) :
    items depth fuel (gap ++ cs) = items depth fuel cs := by
  cases fuel with
  | zero => simp only [items]
  | succ fuel => simp only [items, value_blank blank]

theorem joined_head (c : Char) (more sep : List Char) (later : List (List Char))
    (rest : List Char) : ∃ after, joined sep ((c :: more) :: later) ++ rest = c :: after := by
  cases later with
  | nil => exact ⟨_, rfl⟩
  | cons => exact ⟨_, rfl⟩

section Levels

variable {depth indent : Nat} (nests : 1 < depth)
include nests

theorem reads_list {pieces : List (List Char)} {ds : List Document}
    (all : List.Forall₂ (Reads (depth - 1)) pieces ds) :
    Reads depth (block '[' ']' indent pieces) (.list ds) := by
  have bracket (more : List Char) : skipSpace ('[' :: more) = '[' :: more := rfl
  cases all with
  | nil =>
    refine reads_word depth rfl (by decide) fun fuel rest => ?_
    simp only [value, List.cons_append, List.nil_append, bracket]
    change Except.ok (nested depth (.list []), rest) = _
    rw [nested_open nests]
  | @cons piece d pieces ds first all =>
    refine ⟨⟨'[', _, rfl, rfl, by decide⟩, fun fuel rest enough ends => ?_⟩
    obtain ⟨fuel, rfl⟩ := Nat.exists_eq_add_one_of_ne_zero (Nat.ne_of_gt (Nat.zero_lt_of_lt enough))
    have inner := items_joined (blank_newline (indent + 1)) (blank_newline indent) (.cons first all)
      (List.cons_ne_nil _ _) fuel rest (by simp [block] at enough ⊢; omega)
    obtain ⟨c, more, rfl, notSpace, notClosing⟩ := first.head
    obtain ⟨after, start⟩ := joined_head c more (',' :: newline (indent + 1)) pieces
      (newline indent ++ ']' :: rest)
    have skipped : skipSpace (newline (indent + 1) ++ c :: after) = c :: after := by
      rw [skipSpace_blank (blank_newline _)]
      simp [skipSpace, notSpace]
    simp only [List.append_assoc, start, items_blank (blank_newline _)] at inner
    simp only [block, List.isEmpty_cons, Bool.false_eq_true, if_false, List.append_assoc,
      List.cons_append, List.nil_append, start, value, bracket, skipped]
    split
    · rename_i here
      cases here
      exact absurd rfl notClosing
    · simp only [inner, Except.map, nested_open nests]

theorem reads_table {pieces : List (List Char)} {entries : List (String × Document)}
    (all : List.Forall₂ (ReadsMember (depth - 1)) pieces entries) :
    Reads depth (block '\x7b' '\x7d' indent pieces) (.table entries) := by
  have brace (more : List Char) : skipSpace ('\x7b' :: more) = '\x7b' :: more := rfl
  cases all with
  | nil =>
    refine reads_word depth rfl (by decide) fun fuel rest => ?_
    simp only [value, List.cons_append, List.nil_append, brace]
    change Except.ok (nested depth (.table []), rest) = _
    rw [nested_open nests]
  | @cons piece entry pieces entries first all =>
    refine ⟨⟨'\x7b', _, rfl, rfl, by decide⟩, fun fuel rest enough ends => ?_⟩
    obtain ⟨fuel, rfl⟩ := Nat.exists_eq_add_one_of_ne_zero (Nat.ne_of_gt (Nat.zero_lt_of_lt enough))
    have inner := members_joined (blank_newline (indent + 1)) (blank_newline indent)
      (.cons first all) (List.cons_ne_nil _ _) fuel rest (by simp [block] at enough ⊢; omega)
    obtain ⟨text, rfl, _⟩ := first.text
    obtain ⟨after, start⟩ : ∃ after, joined (',' :: newline (indent + 1))
        ((writeText entry.1 ++ ':' :: ' ' :: text) :: pieces) ++ (newline indent ++ '\x7d' :: rest) =
        '"' :: after := joined_head '"' _ _ pieces _
    have skipped : skipSpace (newline (indent + 1) ++ '"' :: after) = '"' :: after := by
      rw [skipSpace_blank (blank_newline _)]
      rfl
    simp only [List.append_assoc, start, members_blank (blank_newline _)] at inner
    simp only [block, List.isEmpty_cons, Bool.false_eq_true, if_false, List.append_assoc,
      List.cons_append, List.nil_append, start, value, brace, skipped]
    change (members (depth - 1) fuel ('"' :: after)).map _ = _
    rw [inner]
    simp only [Except.map, Option.elim_some, nested_open nests]

end Levels

theorem reads_pretty {levels : Nat} {d : Document} (readable : Readable levels d) (indent : Nat)
    {depth : Nat} (nests : levels < depth) : Reads depth (prettyChars indent d) d := by
  induction readable generalizing indent depth with
  | null => exact reads_word depth rfl (by decide) fun fuel rest => rfl
  | bool b => cases b <;> exact reads_word depth rfl (by decide) fun fuel rest => rfl
  | int low high => exact reads_numeral (numeral_int low high) depth
  | float exact => exact reads_numeral (numeral_of_exact exact) depth
  | text s => exact reads_text s depth
  | @list levels items each ih =>
    unfold prettyChars
    rw [prettyItems_eq]
    apply reads_list (by omega)
    rw [List.forall₂_map_left_iff, List.forall₂_same]
    exact fun d member => ih d member (indent + 1) (by omega)
  | @table levels entries each ih =>
    unfold prettyChars
    rw [prettyEntries_eq]
    apply reads_table (by omega)
    rw [List.forall₂_map_left_iff, List.forall₂_same]
    exact fun p member => ⟨_, rfl, ih p member (indent + 1) (by omega)⟩

theorem read_pretty {levels : Nat} {d : Document} (readable : Readable levels d)
    (nests : levels < depthLimit) : read (pretty d) = .ok d := by
  have ends : Ends [] := fun _ head => nomatch head
  have reads := (reads_pretty readable 0 nests).reads ((prettyChars 0 d).length + 1) []
    (Nat.lt_succ_self _) ends
  rw [List.append_nil] at reads
  unfold read pretty
  rw [String.toList_ofList]
  simp only [reads]
  rfl

end Colloquy.Json
