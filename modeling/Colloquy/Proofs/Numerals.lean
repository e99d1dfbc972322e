import Colloquy.Json.Reader
import Colloquy.Json.Writer
import Mathlib

/-! Numbers in JSON text: the text of an integer, and of most floats, reads back in any place. -/
namespace Colloquy.Json

-- A float that is read back from its own text. Most finite ones are; the two steps of reading can
-- miss the last bit of one with many digits.
def Exact (x : Float) : Prop := read (line (.float x)) = .ok (.float x)

-- What may follow a number without going on with it.
def Ends (rest : List Char) : Prop :=
  ∀ c ∈ rest.head?, c.isDigit = false ∧ c ≠ '.' ∧ c ≠ 'e' ∧ c ≠ 'E'

theorem spanDigits_stop {digits rest : List Char} (all : ∀ c ∈ digits, c.isDigit = true)
    (stop : ∀ c ∈ rest.head?, c.isDigit = false) : spanDigits (digits ++ rest) = (digits, rest) := by
  unfold spanDigits
  rw [List.span_eq_takeWhile_dropWhile, List.takeWhile_append_of_pos all,
    List.dropWhile_append_of_pos all]
  cases rest with
  | nil => simp
  | cons c rest =>
    have here := stop c rfl
    simp [here]

theorem ofDigitChars_ge (digits : List Char) (w : Nat) : w ≤ Nat.ofDigitChars 10 digits w := by
  induction digits generalizing w with
  | nil => simp
  | cons c rest ih =>
    rw [Nat.ofDigitChars_cons]
    have := ih (10 * w + (c.toNat - '0'.toNat))
    omega

theorem wholeDigits_fits {digits : List Char} {w : Nat}
    (fits : Nat.ofDigitChars 10 digits w < wordBound) :
    wholeDigits ⟨w, 0⟩ digits = ⟨Nat.ofDigitChars 10 digits w, 0⟩ := by
  induction digits generalizing w with
  | nil => simp [wholeDigits]
  | cons c rest ih =>
    rw [Nat.ofDigitChars_cons] at fits ⊢
    have next : w * 10 + digitValue c = 10 * w + (c.toNat - '0'.toNat) := by
      unfold digitValue
      omega
    have bound := ofDigitChars_ge rest (10 * w + (c.toNat - '0'.toNat))
    unfold wholeDigits
    rw [next, if_pos (by omega)]
    exact ih fits

theorem toDigits_head {n : Nat} (head : (Nat.toDigits 10 n).head? = some '0') : n = 0 := by
  induction n using Nat.base_induction 10 (by decide) with
  | single m small =>
    rw [Nat.toDigits_of_lt_base small] at head
    have zero : ∀ k < 10, k.digitChar = '0' → k = 0 := by decide
    exact zero m small (Option.some.inj head)
  | digit m k small positive ih =>
    rw [← Nat.toDigits_append_toDigits (by decide) positive small,
      List.head?_append, List.head?_eq_some_head Nat.toDigits_ne_nil, Option.some_or,
      ← List.head?_eq_some_head] at head
    have := ih head
    omega

theorem isDigit_toDigits {n : Nat} {c : Char} (member : c ∈ Nat.toDigits 10 n) :
    c.isDigit = true := Nat.isDigit_of_mem_toDigits (by decide) (by decide) member

-- What a number without fraction and exponent is.
def wholeNumber (negative : Bool) (m : Mantissa) : Document :=
  if m.exponent ≠ 0 then decimalNumber negative m
  else if !negative then .int m.word
  else if m.word = 0 ∨ Nat.pow 2 63 < m.word then .float (-(Float.ofNat m.word))
  else .int (-(m.word : Int))

theorem afterWhole_unread {cs : List Char} (negative : Bool) (digits : List Char)
    (head : ∀ c ∈ cs.head?, c ≠ '.' ∧ c ≠ 'e' ∧ c ≠ 'E') :
    afterWhole negative digits cs =
      .ok (wholeNumber negative (wholeDigits ⟨0, 0⟩ digits), cs) := by
  unfold afterWhole wholeNumber
  split
  · exact absurd rfl (head '.' rfl).1
  · exact absurd rfl (head 'e' rfl).2.1
  · exact absurd rfl (head 'E' rfl).2.2
  · dsimp only
    split
    · rfl
    · split
      · rfl
      · split <;> rfl

theorem number_whole {n : Nat} {rest : List Char} (fits : n < wordBound) (ends : Ends rest)
    (negative : Bool) :
    number negative (Nat.toDigits 10 n ++ rest) = .ok (wholeNumber negative ⟨n, 0⟩, rest) := by
  have whole : wholeDigits ⟨0, 0⟩ (Nat.toDigits 10 n) = ⟨n, 0⟩ := by
    have value := Nat.ofDigitChars_ten_toDigits (n := n)
    rw [wholeDigits_fits (by omega), value]
  unfold number
  rw [spanDigits_stop (fun c => isDigit_toDigits) fun c head => (ends c head).1]
  split
  · rename_i empty
    exact absurd (Prod.mk.inj empty).1 Nat.toDigits_ne_nil
  · rename_i c more rest' zeros
    have digits := (Prod.mk.inj zeros).1
    have zero : n = 0 := toDigits_head (by rw [digits]; rfl)
    subst zero
    cases digits
  · rename_i digits rest' _ _ split
    cases split
    rw [afterWhole_unread negative _ fun c head => (ends c head).2, whole]

-- What a part of the reader makes of a text, it makes of the text when more follows.
structure Stable (part : List Char → Except ReadError (Document × List Char)) (cs : List Char)
    (d : Document) (tail : List Char) : Prop where
  suffix : tail <:+ cs
  further : ∀ rest, (tail = [] → Ends rest) → part (cs ++ rest) = .ok (d, tail ++ rest)

namespace Stable

variable {part inner : List Char → Except ReadError (Document × List Char)} {cs tail : List Char}
  {d : Document}

theorem of_same (same : ∀ more, part (cs ++ more) = inner (cs ++ more))
    (stable : Stable inner cs d tail) : Stable part cs d tail where
  suffix := stable.suffix
  further more ends := (same more).trans (stable.further more ends)

theorem cons {c : Char} (after : ∀ more, part (c :: more) = inner more)
    (stable : Stable inner cs d tail) : Stable part (c :: cs) d tail where
  suffix := stable.suffix.trans (List.suffix_cons c cs)
  further more ends := (after (cs ++ more)).trans (stable.further more ends)

-- A part that stops in front of some characters, and of all that may follow a number.
theorem unread {stops : Char → Prop} (all : ∀ c, c ≠ '.' ∧ c ≠ 'e' ∧ c ≠ 'E' → stops c)
    (leaves : ∀ cs, (∀ c ∈ cs.head?, stops c) → part cs = .ok (d, cs))
    (head : ∀ c ∈ cs.head?, stops c) : Stable part cs d cs where
  suffix := List.suffix_refl cs
  further more ends := by
    apply leaves
    cases cs with
    | nil => exact fun c there => all c (ends rfl c there).2
    | cons c cs => exact head

end Stable

theorem spanDigits_eq {cs digits tail : List Char} (span : spanDigits cs = (digits, tail)) :
    cs = digits ++ tail ∧ (∀ c ∈ digits, c.isDigit = true) ∧
      ∀ c ∈ tail.head?, c.isDigit = false := by
  unfold spanDigits at span
  rw [List.span_eq_takeWhile_dropWhile] at span
  cases span
  refine ⟨List.takeWhile_append_dropWhile.symm, fun c => List.mem_takeWhile_imp, ?_⟩
  intro c head
  have stops := List.head?_dropWhile_not Char.isDigit cs
  rw [head] at stops
  simpa using stops

theorem spanDigits_append {cs digits tail rest : List Char}
    (span : spanDigits cs = (digits, tail)) (ends : tail = [] → Ends rest) :
    spanDigits (cs ++ rest) = (digits, tail ++ rest) := by
  obtain ⟨rfl, all, stop⟩ := spanDigits_eq span
  rw [List.append_assoc]
  apply spanDigits_stop all
  cases tail with
  | nil => exact fun c head => (ends rfl c head).1
  | cons c tail => exact stop

def exponentDigits (negative : Bool) (m : Mantissa) (down : Bool) (cs : List Char) :
    Except ReadError (Document × List Char) :=
  match spanDigits cs with
  | ([], rest) => .error (unexpectedAt rest)
  | (digits, rest) => .ok (exponentNumber negative m down digits, rest)

theorem exponentDigits_stable {negative down : Bool} {m : Mantissa} {cs tail : List Char}
    {d : Document} (read : exponentDigits negative m down cs = .ok (d, tail)) :
    Stable (exponentDigits negative m down) cs d tail := by
  unfold exponentDigits at read
  split at read
  · cases read
  · rename_i digits rest notEmpty span
    cases read
    refine ⟨?_, ?_⟩
    · rw [(spanDigits_eq span).1]
      exact List.suffix_append ..
    · intro more ends
      unfold exponentDigits
      rw [spanDigits_append span ends]
      cases digits with
      | nil => exact absurd rfl notEmpty
      | cons => rfl

theorem exponentPart_unsigned {negative : Bool} {m : Mantissa} {cs : List Char}
    (unsigned : ∀ c ∈ cs.head?, c ≠ '+' ∧ c ≠ '-') :
    exponentPart negative m cs = exponentDigits negative m false cs := by
  unfold exponentPart
  split
  rename_i down rest sign
  split at sign
  · exact absurd rfl (unsigned '+' rfl).1
  · exact absurd rfl (unsigned '-' rfl).2
  · cases sign
    rfl

theorem exponentPart_stable {negative : Bool} {m : Mantissa} {cs tail : List Char} {d : Document}
    (read : exponentPart negative m cs = .ok (d, tail)) :
    Stable (exponentPart negative m) cs d tail := by
  cases cs with
  | nil => cases read
  | cons c cs =>
    by_cases plus : c = '+'
    · subst plus
      exact .cons (fun _ => rfl) (exponentDigits_stable read)
    by_cases minus : c = '-'
    · subst minus
      exact .cons (fun _ => rfl) (exponentDigits_stable read)
    have unsigned (more : List Char) : exponentPart negative m (c :: more) =
        exponentDigits negative m false (c :: more) :=
      exponentPart_unsigned (by rintro _ ⟨⟩; exact ⟨plus, minus⟩)
    rw [unsigned] at read
    exact .of_same (fun more => unsigned (cs ++ more)) (exponentDigits_stable read)

def afterFraction (negative : Bool) (m : Mantissa) (cs : List Char) :
    Except ReadError (Document × List Char) :=
  match cs with
  | 'e' :: rest | 'E' :: rest => exponentPart negative m rest
  | rest => .ok (decimalNumber negative m, rest)

theorem afterFraction_unread {cs : List Char} (negative : Bool) (m : Mantissa)
    (head : ∀ c ∈ cs.head?, c ≠ 'e' ∧ c ≠ 'E') :
    afterFraction negative m cs = .ok (decimalNumber negative m, cs) := by
  unfold afterFraction
  split
  · exact absurd rfl (head 'e' rfl).1
  · exact absurd rfl (head 'E' rfl).2
  · rfl

theorem afterFraction_stable {negative : Bool} {m : Mantissa} {cs tail : List Char} {d : Document}
    (read : afterFraction negative m cs = .ok (d, tail)) :
    Stable (afterFraction negative m) cs d tail := by
  unfold afterFraction at read
  split at read
  · exact .cons (fun _ => rfl) (exponentPart_stable read)
  · exact .cons (fun _ => rfl) (exponentPart_stable read)
  · rename_i notSmall notCapital
    cases read
    refine .unread (fun c other => other.2) (fun cs => afterFraction_unread negative m) ?_
    intro c head
    obtain ⟨rest, rfl⟩ := List.head?_eq_some_iff.mp head
    constructor <;> rintro rfl
    · exact notSmall rest rfl
    · exact notCapital rest rfl

def fractionPart (negative : Bool) (m : Mantissa) (cs : List Char) :
    Except ReadError (Document × List Char) :=
  match spanDigits cs with
  | ([], rest) => .error (unexpectedAt rest)
  | (fraction, rest) => afterFraction negative (fractionDigits m fraction) rest

theorem fractionPart_stable {negative : Bool} {m : Mantissa} {cs tail : List Char} {d : Document}
    (read : fractionPart negative m cs = .ok (d, tail)) :
    Stable (fractionPart negative m) cs d tail := by
  unfold fractionPart at read
  split at read
  · cases read
  · rename_i fraction rest notEmpty span
    obtain ⟨suffix, further⟩ := afterFraction_stable read
    refine ⟨?_, fun more ends => ?_⟩
    · rw [(spanDigits_eq span).1]
      exact suffix.trans (List.suffix_append ..)
    · have spent (nothing : rest = []) : tail = [] := List.suffix_nil.mp (nothing ▸ suffix)
      unfold fractionPart
      rw [spanDigits_append span fun nothing => ends (spent nothing)]
      cases fraction with
      | nil => exact absurd rfl notEmpty
      | cons => exact further more ends

theorem afterWhole_stable {negative : Bool} {digits cs tail : List Char} {d : Document}
    (read : afterWhole negative digits cs = .ok (d, tail)) :
    Stable (afterWhole negative digits) cs d tail := by
  cases cs with
  | nil =>
    rw [afterWhole_unread negative digits (by simp)] at read
    cases read
    exact .unread (fun c other => other) (fun cs => afterWhole_unread negative digits) (by simp)
  | cons c rest =>
    by_cases point : c = '.'
    · subst point
      have after (more : List Char) : afterWhole negative digits ('.' :: more) =
          fractionPart negative (wholeDigits ⟨0, 0⟩ digits) more := by
        unfold afterWhole fractionPart afterFraction
        rfl
      rw [after] at read
      exact .cons after (fractionPart_stable read)
    by_cases small : c = 'e'
    · subst small
      exact .cons (fun _ => rfl) (exponentPart_stable read)
    by_cases capital : c = 'E'
    · subst capital
      exact .cons (fun _ => rfl) (exponentPart_stable read)
    have head : ∀ d ∈ (c :: rest).head?, d ≠ '.' ∧ d ≠ 'e' ∧ d ≠ 'E' := by
      rintro _ ⟨⟩
      exact ⟨point, small, capital⟩
    rw [afterWhole_unread negative digits head] at read
    cases read
    exact .unread (fun c other => other) (fun cs => afterWhole_unread negative digits) head

theorem number_stable {negative : Bool} {cs tail : List Char} {d : Document}
    (read : number negative cs = .ok (d, tail)) : Stable (number negative) cs d tail := by
  unfold number at read
  split at read
  · cases read
  · cases read
  · rename_i digits rest notEmpty notZeros span
    obtain ⟨suffix, further⟩ := afterWhole_stable read
    refine ⟨?_, fun more ends => ?_⟩
    · rw [(spanDigits_eq span).1]
      exact suffix.trans (List.suffix_append ..)
    · have spent (nothing : rest = []) : tail = [] := List.suffix_nil.mp (nothing ▸ suffix)
      unfold number
      rw [spanDigits_append span fun nothing => ends (spent nothing)]
      split
      · rename_i empty
        exact (notEmpty (Prod.mk.inj empty).1).elim
      · rename_i zeros
        exact (notZeros _ _ (Prod.mk.inj zeros).1).elim
      · rename_i span
        cases span
        exact further more ends

theorem digit_notSpace {c : Char} (digit : c.isDigit = true) : isSpace c = false := by
  cases space : isSpace c with
  | false => rfl
  | true =>
    simp only [isSpace, Bool.or_eq_true, beq_iff_eq] at space
    obtain ((rfl | rfl) | rfl) | rfl := space <;> cases digit

def Dense (cs : List Char) : Prop := ∀ c ∈ cs, isSpace c = false

theorem dense_of_all {cs : List Char} (all : cs.all (!isSpace ·) = true) : Dense cs := by
  simpa [Dense] using all

theorem Dense.append {as bs : List Char} (first : Dense as) (second : Dense bs) :
    Dense (as ++ bs) := by
  intro c member
  rcases List.mem_append.mp member with here | there
  · exact first c here
  · exact second c there

theorem Dense.cons {c : Char} {cs : List Char} (first : isSpace c = false) (more : Dense cs) :
    Dense (c :: cs) := List.forall_mem_cons.mpr ⟨first, more⟩

theorem dense_toDigits (n : Nat) : Dense (Nat.toDigits 10 n) :=
  fun _ member => digit_notSpace (isDigit_toDigits member)

theorem dense_zeros (n : Nat) : Dense (Decimal.zeros n) := by
  intro c member
  rw [List.eq_of_mem_replicate member]
  rfl

theorem Dense.subset {as bs : List Char} (dense : Dense bs) (subset : as ⊆ bs) : Dense as :=
  fun c member => dense c (subset member)

theorem dense_positional (layout : Decimal.Layout) {text : List Char} (dense : Dense text)
    (point : Int) : Dense (Decimal.positional layout text point) := by
  have tail : Dense (if layout.keepsPoint then ['.', '0'] else []) := by
    split <;> exact dense_of_all rfl
  unfold Decimal.positional
  dsimp only
  split
  · exact .append (.cons rfl (.cons rfl (dense_zeros _))) dense
  split
  · exact .append (.append dense (dense_zeros _)) tail
  · exact .append (dense.subset (List.take_subset ..))
      (.cons rfl (dense.subset (List.drop_subset ..)))

theorem dense_scientific (layout : Decimal.Layout) {text : List Char} (dense : Dense text)
    (lead : Int) : Dense (Decimal.scientific layout text lead) := by
  have fraction : Dense (if (text.drop 1).isEmpty then [] else '.' :: text.drop 1) := by
    split
    · exact fun _ member => nomatch member
    · exact .cons rfl (dense.subset (List.drop_subset ..))
  have sign : Dense (if lead < 0 then ['-'] else if layout.plusSign then ['+'] else []) := by
    repeat' split
    all_goals exact dense_of_all rfl
  unfold Decimal.scientific
  exact .append (.append (.append (dense.subset (List.take_subset ..)) fraction) (.cons rfl sign))
    (dense_toDigits _)

theorem dense_layOut (layout : Decimal.Layout) (d : Decimal.Digits) :
    Dense (Decimal.layOut layout d) := by
  unfold Decimal.layOut
  dsimp only
  split
  · split <;> exact dense_of_all rfl
  split
  · exact dense_positional layout (dense_toDigits _) _
  · exact dense_scientific layout (dense_toDigits _) _

theorem dense_writeFloat (x : Float) : Dense (writeFloat x) := by
  have sign : Dense (if x.toBits.toNat < Nat.pow 2 63 then [] else ['-']) := by
    split <;> exact dense_of_all rfl
  unfold writeFloat Decimal.Layout.render
  split
  · split
    · exact dense_of_all rfl
    dsimp only
    split
    · rw [String.toList_ofList]
      exact .append sign (dense_of_all rfl)
    · rw [String.toList_ofList]
      exact .append sign (dense_layOut _ _)
  · exact dense_of_all rfl

-- A text that reads as one number in front of all that ends a number.
inductive Numeral (d : Document) : List Char → Prop where
  | plain {c : Char} {cs : List Char} (digit : c.isDigit = true)
      (reads : ∀ rest, Ends rest → number false (c :: cs ++ rest) = .ok (d, rest)) :
      Numeral d (c :: cs)
  | negative {cs : List Char}
      (reads : ∀ rest, Ends rest → number true (cs ++ rest) = .ok (d, rest)) :
      Numeral d ('-' :: cs)

theorem skipSpace_dense {cs : List Char} (dense : Dense cs) : skipSpace cs = cs := by
  unfold skipSpace
  cases cs with
  | nil => rfl
  | cons c cs =>
    have first := dense c (List.mem_cons_self ..)
    simp [first]

-- Only the branches of numbers give a float.
theorem value_float {x : Float} {c : Char} {cs rest : List Char} {depth fuel : Nat}
    (first : isSpace c = false) (read : value depth (fuel + 1) (c :: cs) = .ok (.float x, rest)) :
    (c = '-' ∧ number true cs = .ok (.float x, rest)) ∨
      (c.isDigit = true ∧ number false (c :: cs) = .ok (.float x, rest)) := by
  have word_other {expected : List Char} {d : Document} {cs : List Char} (other : d ≠ .float x) :
      word expected d cs ≠ .ok (.float x, rest) := by
    unfold word
    split
    · intro eq
      exact other (Prod.mk.inj (Except.ok.inj eq)).1
    · exact nofun
  have map_other {α : Type} {read : Except ReadError α} {f : α → Document × List Char}
      (other : ∀ a, (f a).1 ≠ .float x) : read.map f ≠ .ok (.float x, rest) := by
    cases read with
    | error => exact nofun
    | ok a =>
      intro eq
      exact other a (congrArg Prod.fst (Except.ok.inj eq))
  have nested_other {d : Document} (other : d ≠ .float x) : nested depth d ≠ .float x := by
    unfold nested
    split
    · exact nofun
    · exact other
  have same : skipSpace (c :: cs) = c :: cs := by simp [skipSpace, first]
  rw [value, same] at read
  split at read
  · cases read
  · exact absurd read (word_other nofun)
  · exact absurd read (word_other nofun)
  · exact absurd read (word_other nofun)
  · refine absurd read (map_other fun (s, _) => ?_)
    cases s <;> exact nofun
  · rename_i here
    cases here
    exact .inl ⟨rfl, read⟩
  · split at read
    · exact absurd (Prod.mk.inj (Except.ok.inj read)).1 (nested_other nofun)
    · exact absurd read (map_other fun _ => nested_other nofun)
  · split at read
    · exact absurd (Prod.mk.inj (Except.ok.inj read)).1 (nested_other nofun)
    · refine absurd read (map_other fun (es, _) => ?_)
      cases es with
      | none => exact nofun
      | some => exact nested_other nofun
  · split at read
    · rename_i here digit
      cases here
      exact .inr ⟨digit, read⟩
    · cases read

theorem Exact.finite {x : Float} (exact : Exact x) : x.isFinite = true := by
  cases finite : x.isFinite with
  | true => rfl
  | false =>
    have text : line (.float x) = "null" := by
      simp [line, lineChars, scalar?, writeFloat, finite]
    unfold Exact at exact
    rw [text] at exact
    cases exact

theorem numeral_of_exact {x : Float} (exact : Exact x) : Numeral (.float x) (writeFloat x) := by
  have dense := dense_writeFloat x
  unfold Exact read line at exact
  rw [String.toList_ofList] at exact
  change (value depthLimit ((writeFloat x).length + 1) (writeFloat x) >>= _) = _ at exact
  cases eq : value depthLimit ((writeFloat x).length + 1) (writeFloat x) with
  | error => rw [eq] at exact; cases exact
  | ok p =>
    obtain ⟨d, tail⟩ := p
    rw [eq] at exact
    simp only [bind, Except.bind] at exact
    split at exact
    · rename_i nothing
      cases exact
      cases text : writeFloat x with
      | nil => rw [text] at eq; cases eq
      | cons c cs =>
        rw [text] at dense eq
        have spent (suffix : tail <:+ c :: cs) : tail = [] := by
          rw [skipSpace_dense (dense.subset suffix.subset)] at nothing
          exact List.isEmpty_iff.mp nothing
        rcases value_float (dense c (List.mem_cons_self ..)) eq with ⟨rfl, read⟩ | ⟨digit, read⟩
        · obtain ⟨suffix, further⟩ := number_stable read
          cases spent (suffix.trans (List.suffix_cons ..))
          exact .negative fun rest ends => further rest fun _ => ends
        · obtain ⟨suffix, further⟩ := number_stable read
          cases spent suffix
          exact .plain digit fun rest ends => further rest fun _ => ends
    · cases exact

theorem numeral_int {n : Int} (low : -(2 ^ 63) ≤ n) (high : n < 2 ^ 64) :
    Numeral (.int n) (toString n).toList := by
  cases n with
  | ofNat n =>
    have text : (toString (Int.ofNat n)).toList = Nat.toDigits 10 n := by
      simp [toString, Int.repr, Nat.repr]
    rw [text]
    cases digits : Nat.toDigits 10 n with
    | nil => exact absurd digits Nat.toDigits_ne_nil
    | cons c cs =>
      refine .plain (isDigit_toDigits (n := n) (by rw [digits]; simp)) fun rest ends => ?_
      have fits : n < wordBound := Int.ofNat_lt.mp high
      rw [← digits, number_whole fits ends]
      simp [wholeNumber]
  | negSucc n =>
    have text : (toString (Int.negSucc n)).toList = '-' :: Nat.toDigits 10 (n + 1) := by
      simp [toString, Int.repr, Nat.repr]
    rw [text]
    refine .negative fun rest ends => ?_
    have fits : n + 1 ≤ 2 ^ 63 := by omega
    have within : ¬ (n + 1 = 0 ∨ Nat.pow 2 63 < n + 1) := by
      rw [Nat.pow_eq]
      omega
    rw [number_whole (Nat.lt_of_le_of_lt fits (by decide)) ends]
    simp only [wholeNumber, if_neg within]
    simp [Int.negSucc_eq]

theorem Numeral.head {d : Document} {cs : List Char} (numeral : Numeral d cs) :
    ∃ c more, cs = c :: more ∧ isSpace c = false ∧ c ≠ ']' := by
  cases numeral with
  | @plain c cs digit =>
    refine ⟨c, cs, rfl, digit_notSpace digit, ?_⟩
    rintro rfl
    cases digit
  | @negative cs => exact ⟨'-', cs, rfl, rfl, by decide⟩

theorem Numeral.value {d : Document} {cs rest : List Char} {depth fuel : Nat}
    (numeral : Numeral d cs) (ends : Ends rest) :
    value depth (fuel + 1) (cs ++ rest) = .ok (d, rest) := by
  cases numeral with
  | @plain c cs digit reads =>
    have first : skipSpace (c :: cs ++ rest) = c :: cs ++ rest := by
      simp [skipSpace, digit_notSpace digit]
    rw [Json.value, first, List.cons_append]
    -- No other branch begins with a digit.
    split <;> rename_i here <;> cases here
    any_goals cases digit
    rw [if_pos digit]
    exact reads rest ends
  | negative reads =>
    rw [Json.value]
    exact reads rest ends

end Colloquy.Json
