import Colloquy.Proofs.Calendar
import Mathlib.Data.List.TakeWhile

/-! Every point in time that a document can hold reads back from its own text. -/
namespace Colloquy.Instant

theorem isDigit_digits {width n : Nat} {c : Char} (member : c ∈ digits width n) :
    c.isDigit = true := by
  unfold digits at member
  rcases List.mem_append.mp member with zero | digit
  · rw [List.eq_of_mem_replicate zero]
    rfl
  · exact Nat.isDigit_of_mem_toDigits (by decide) (by decide) digit

theorem length_digits {width n : Nat} (positive : 0 < width) (fits : n < 10 ^ width) :
    (digits width n).length = width := by
  have short := (Nat.length_toDigits_le_iff (by decide) positive).mpr fits
  unfold digits
  rw [List.length_append, List.length_replicate]
  omega

theorem decimal_digits (width n : Nat) : decimal (digits width n) = n := by
  have whole (cs : List Char) : decimal cs = Nat.ofDigitChars 10 cs 0 := by
    unfold decimal
    rw [Nat.ofDigitChars_eq_foldl]
    congr 1
    funext n c
    rw [Nat.mul_comm]
  unfold digits
  rw [whole, Nat.ofDigitChars_append, Nat.ofDigitChars_replicate_zero, Nat.mul_zero,
    Nat.ofDigitChars_ten_toDigits]

theorem digits_cons (width n : Nat) : ∃ c rest, digits width n = c :: rest ∧ c.isDigit = true := by
  cases text : digits width n with
  | nil => exact absurd (List.append_eq_nil_iff.mp text).2 Nat.toDigits_ne_nil
  | cons c rest => exact ⟨c, rest, rfl, isDigit_digits (text ▸ List.mem_cons_self ..)⟩

theorem digit_notBlank {c : Char} (digit : c.isDigit = true) : Text.isBlank c = false := by
  have all : ∀ n < 58, 48 ≤ n → Text.isBlank (Char.ofNat n) = false := by decide
  have range : 48 ≤ c.toNat ∧ c.toNat ≤ 57 := by
    simpa [Char.isDigit, UInt32.le_iff_toNat_le] using digit
  have blank := all c.toNat (by omega) range.1
  rwa [Char.ofNat_toNat] at blank

theorem skipBlank_digits (width n : Nat) (rest : List Char) :
    skipBlank (digits width n ++ rest) = digits width n ++ rest := by
  obtain ⟨c, more, text, digit⟩ := digits_cons width n
  unfold skipBlank
  rw [text, List.cons_append, List.dropWhile_cons, digit_notBlank digit]
  rfl

-- Digits up to where something else stands, or to the width.
theorem digits_taken {width n k : Nat} {rest : List Char} (fits : (digits width n).length ≤ k)
    (stops : (digits width n).length = k ∨ ∀ c ∈ rest.head?, c.isDigit = false) :
    ((digits width n ++ rest).take k).takeWhile Char.isDigit = digits width n := by
  have nothing : (rest.take (k - (digits width n).length)).takeWhile Char.isDigit = [] := by
    rcases stops with full | other
    · rw [full, Nat.sub_self]
      rfl
    · rw [List.takeWhile_eq_nil_iff]
      intro some digit
      cases rest with
      | nil => simp at some
      | cons c rest =>
        have first := other c rfl
        simp [List.getElem_take, first] at digit
  rw [List.take_append, List.take_of_length_le fits,
    List.takeWhile_append_of_pos fun c => isDigit_digits, nothing, List.append_nil]

theorem upTo_digits {width n k : Nat} {rest : List Char} (fits : (digits width n).length ≤ k)
    (stops : (digits width n).length = k ∨ ∀ c ∈ rest.head?, c.isDigit = false) :
    upTo k (digits width n ++ rest) = some (n, rest) := by
  obtain ⟨c, more, text, _⟩ := digits_cons width n
  unfold upTo
  dsimp only
  rw [digits_taken fits stops, decimal_digits, List.drop_left]
  rw [text]
  rfl

theorem upTo_width {width n : Nat} {rest : List Char} (positive : 0 < width)
    (fits : n < 10 ^ width) : upTo width (skipBlank (digits width n ++ rest)) = some (n, rest) := by
  have length := length_digits positive fits
  rw [skipBlank_digits]
  exact upTo_digits (Nat.le_of_eq length) (.inl length)

theorem within_two {low high n : Nat} {rest : List Char} (above : low ≤ n) (below : n ≤ high)
    (short : high < 100) :
    within low high (upTo 2 (skipBlank (digits 2 n ++ rest))) = some (n, rest) := by
  rw [upTo_width (by decide) (Nat.lt_of_le_of_lt below short)]
  unfold within
  simp [above, below]

theorem signedYear_yearText (year : Int) (rest : List Char) :
    signedYear (skipBlank (yearText year ++ '-' :: rest)) = some (year, '-' :: rest) := by
  have dash : ∀ c ∈ ('-' :: rest).head?, c.isDigit = false := by
    rintro _ ⟨⟩
    rfl
  unfold yearText
  split
  · rename_i short
    have read : upTo 4 (skipBlank (digits 4 year.toNat ++ '-' :: rest)) =
        some (year.toNat, '-' :: rest) := upTo_width (by decide) (by omega)
    obtain ⟨c, more, text, digit⟩ := digits_cons 4 year.toNat
    rw [skipBlank_digits] at read ⊢
    rw [text, List.cons_append] at read ⊢
    unfold signedYear
    split
    · rename_i here
      cases here
      cases digit
    · rename_i here
      cases here
      cases digit
    · rw [read]
      simp [short.1]
  · have read : upTo (digits 4 year.natAbs ++ '-' :: rest).length
        (digits 4 year.natAbs ++ '-' :: rest) = some (year.natAbs, '-' :: rest) :=
      upTo_digits (by simp) (.inr dash)
    by_cases negative : year < 0
    · rw [if_pos negative]
      change (upTo (digits 4 year.natAbs ++ '-' :: rest).length
        (digits 4 year.natAbs ++ '-' :: rest)).map _ = _
      rw [read]
      simp only [Option.map_some, Option.some.injEq, Prod.mk.injEq, and_true]
      omega
    · rw [if_neg negative]
      change (upTo (digits 4 year.natAbs ++ '-' :: rest).length
        (digits 4 year.natAbs ++ '-' :: rest)).map _ = _
      rw [read]
      simp only [Option.map_some, Option.some.injEq, Prod.mk.injEq, and_true]
      omega

theorem fraction_digits {width n : Nat} (positive : 0 < width) (most : width ≤ 9)
    (fits : n < 10 ^ width) : fraction ('.' :: digits width n ++ ['Z']) =
      some (n * Nat.pow 10 (9 - width), ['Z']) := by
  have length := length_digits positive fits
  have mark : ∀ c ∈ ['Z'].head?, c.isDigit = false := by
    rintro _ ⟨⟩
    rfl
  obtain ⟨c, more, text, _⟩ := digits_cons width n
  rw [List.cons_append]
  unfold fraction
  split
  · rename_i rest here
    cases here
    dsimp only
    rw [digits_taken (Nat.le_trans (Nat.le_of_eq length) most) (.inr mark), decimal_digits, length,
      List.dropWhile_append_of_pos fun c => isDigit_digits, text]
    rfl
  · rename_i other
    exact absurd rfl (other _)

theorem fraction_text {nanos : Nat} (fits : nanos < 1000000000) :
    fraction (fractionText nanos ++ ['Z']) = some (nanos, ['Z']) := by
  unfold fractionText
  split
  · subst nanos
    rfl
  split
  · rw [fraction_digits (by decide) (by decide) (by omega)]
    simp only [Option.some.injEq, Prod.mk.injEq, and_true, Nat.pow_eq]
    omega
  split
  · rw [fraction_digits (by decide) (by decide) (by omega)]
    simp only [Option.some.injEq, Prod.mk.injEq, and_true, Nat.pow_eq]
    omega
  · rw [fraction_digits (by decide) (by decide) (by omega)]
    simp only [Option.some.injEq, Prod.mk.injEq, and_true, Nat.pow_eq]
    omega

-- What a point in time can be: in the years that there are, and with a leap second only where a
-- minute ends.
structure Valid (i : Instant) : Prop where
  notBefore : yearLow ≤ (dateOfDays (i.seconds / 86400)).year
  notAfter : (dateOfDays (i.seconds / 86400)).year ≤ yearHigh
  nanos : i.nanos < 1000000000 ∨ i.nanos < 2000000000 ∧ i.seconds % 60 = 59

theorem ofCivil_valid {i : Instant} (valid : i.Valid) :
    let time := (i.seconds % 86400).toNat
    ofCivil (dateOfDays (i.seconds / 86400)) (time / 3600) (time / 60 % 60)
      (time % 60 + i.nanos / 1000000000) (i.nanos % 1000000000) 0 = some i := by
  intro time
  obtain ⟨⟨month, december, day, last⟩, back⟩ := date_of_day (i.seconds / 86400)
  obtain ⟨notBefore, notAfter, nanos⟩ := valid
  -- A leap second is written as second 60.
  have second : (if time % 60 + i.nanos / 1000000000 = 60 then
      (59, i.nanos % 1000000000 + 1000000000)
      else (time % 60 + i.nanos / 1000000000, i.nanos % 1000000000)) = (time % 60, i.nanos) := by
    dsimp only [time]
    by_cases usual : i.nanos < 1000000000
    · rw [if_neg (by omega), Nat.div_eq_of_lt usual, Nat.mod_eq_of_lt usual, Nat.add_zero]
    · rw [if_pos (by omega), Prod.mk.injEq]
      omega
  have seconds : i.seconds / 86400 * 86400 +
      (time / 3600 * 3600 + time / 60 % 60 * 60 + time % 60 : Nat) = i.seconds := by
    dsimp only [time]
    omega
  unfold ofCivil
  simp only [month, december, day, last, notBefore, notAfter, decide_true, Bool.and_self,
    Bool.not_true, Bool.false_eq_true, if_false, second, back, seconds, Int.sub_zero, and_self,
    if_true]

theorem bind_some {x : Option α} {more : α → Option β} {a : α} {r : Option β} (reads : x = some a)
    (goes : more a = r) : x >>= more = r := by
  rw [reads]
  exact goes

theorem parse_zulu {i : Instant} (valid : i.Valid) : parse? i.zulu = some i := by
  obtain ⟨⟨month, december, day, last⟩, back⟩ := date_of_day (i.seconds / 86400)
  have longest : (dateOfDays (i.seconds / 86400)).day ≤ 31 := by
    refine Nat.le_trans last ?_
    unfold daysInMonth
    repeat' split
    all_goals decide
  have made := ofCivil_valid valid
  have nanos := valid.nanos
  have sixty : (i.seconds % 86400).toNat % 60 + i.nanos / 1000000000 ≤ 60 := by omega
  unfold parse? zulu baseText
  simp only [String.toList_ofList, List.append_assoc, List.cons_append]
  refine bind_some (signedYear_yearText _ _) ?_
  refine bind_some rfl ?_
  refine bind_some (within_two month december (by decide)) ?_
  refine bind_some rfl ?_
  refine bind_some (within_two day longest (by decide)) ?_
  refine bind_some rfl ?_
  refine bind_some (within_two (Nat.zero_le _) (by omega) (by decide)) ?_
  refine bind_some rfl ?_
  refine bind_some (within_two (Nat.zero_le _) (by omega) (by decide)) ?_
  refine bind_some rfl ?_
  refine bind_some (within_two (Nat.zero_le _) sixty (by decide)) ?_
  refine bind_some (fraction_text (Nat.mod_lt _ (by decide))) ?_
  exact made

end Colloquy.Instant
