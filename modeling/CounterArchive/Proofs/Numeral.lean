import CounterArchive.Numeral.Plain
import Mathlib.Data.Nat.Digits.Lemmas

/-! What is written of a number, digit by digit, and reading it again. -/
namespace CounterArchive.Numeral

def digitList (base n : Nat) : List Nat := if n = 0 then [0] else (Nat.digits base n).reverse

theorem digitsOnto_of_ne_zero {base n : Nat} (two : 2 ≤ base) (rest : List Char) (nonzero : n ≠ 0) :
    digitsOnto base n rest = (Nat.digits base n).reverse.map digitChar ++ rest := by
  fun_induction digitsOnto base n rest with
  | case1 n rest more ih =>
    have higher : n / base ≠ 0 := by
      have := Nat.div_pos more.1 (by omega)
      omega
    rw [ih higher, Nat.digits_eq_cons_digits_div two nonzero, List.reverse_cons, List.map_append,
      List.append_assoc]
    rfl
  | case2 n rest last =>
    rw [Nat.digits_of_lt base n nonzero (by omega)]
    rfl

theorem digitsOnto_eq {base : Nat} (two : 2 ≤ base) (n : Nat) (rest : List Char) :
    digitsOnto base n rest = (digitList base n).map digitChar ++ rest := by
  unfold digitList
  split
  · rename_i zero
    rw [zero, digitsOnto, if_neg (by omega)]
    rfl
  · rename_i nonzero
    exact digitsOnto_of_ne_zero two rest nonzero

theorem decimal_eq (n : Nat) : decimal n = (digitList 10 n).map digitChar := by
  rw [decimal, digitsOnto_eq (by omega), List.append_nil]

theorem hexadecimal_eq (n : Nat) : hexadecimal n = (digitList 16 n).map digitChar := by
  rw [hexadecimal, digitsOnto_eq (by omega), List.append_nil]

theorem digitList_ne_nil (base n : Nat) : digitList base n ≠ [] := by
  unfold digitList
  split
  · exact List.cons_ne_nil _ _
  · rename_i nonzero
    simpa [Nat.digits_ne_nil_iff_ne_zero] using nonzero

theorem digitList_lt {base n d : Nat} (two : 2 ≤ base) (digit : d ∈ digitList base n) :
    d < base := by
  unfold digitList at digit
  split at digit
  · obtain rfl := List.mem_singleton.mp digit
    omega
  · exact Nat.digits_lt_base two (List.mem_reverse.mp digit)

theorem length_digitList_le_iff {base n count : Nat} (two : 2 ≤ base) (positive : 0 < count) :
    (digitList base n).length ≤ count ↔ n < base ^ count := by
  unfold digitList
  split
  · rename_i zero
    have : 0 < base ^ count := Nat.pow_pos (by omega)
    simp only [List.length_singleton, zero]
    omega
  · rw [List.length_reverse, Nat.digits_length_le_iff two]

theorem value_append_singleton (base : Nat) (digits : List Nat) (d : Nat) :
    value base (digits ++ [d]) = base * value base digits + d := by
  simp only [value, List.foldl_append, List.foldl_cons, List.foldl_nil]

theorem value_reverse (base : Nat) (digits : List Nat) :
    value base digits.reverse = Nat.ofDigits base digits := by
  induction digits with
  | nil => rfl
  | cons d rest ih =>
    rw [List.reverse_cons, value_append_singleton, ih, Nat.ofDigits_cons, Nat.add_comm]

theorem value_digitList (base n : Nat) : value base (digitList base n) = n := by
  unfold digitList
  split
  · rename_i zero
    simp [value, zero]
  · rw [value_reverse, Nat.ofDigits_digits]

theorem value_zeros_append (base count : Nat) (digits : List Nat) :
    value base (List.replicate count 0 ++ digits) = value base digits := by
  induction count with
  | zero => rfl
  | succ count ih =>
    rw [List.replicate_succ, List.cons_append]
    simpa only [value, List.foldl_cons, Nat.mul_zero, Nat.zero_add] using ih

theorem asciiDigit_digitChar : ∀ d < 10, asciiDigit? (digitChar d) = some d := by decide

theorem hexDigit_digitChar : ∀ d < 16, hexDigit? (digitChar d) = some d := by decide

theorem digitChar_zero : digitChar 0 = '0' := rfl

theorem mapM_digits {digit? : Char → Option Nat} {digits : List Nat}
    (read : ∀ d ∈ digits, digit? (digitChar d) = some d) :
    (digits.map digitChar).mapM digit? = some digits := by
  induction digits with
  | nil => rfl
  | cons d rest ih =>
    rw [List.map_cons, List.mapM_cons, read d (List.mem_cons_self ..),
      ih fun other member => read other (List.mem_cons_of_mem _ member)]
    rfl

/-- A number that fits is written with exactly so many digits, zeros in front included. -/
theorem padded_digitList {base n : Nat} (width : Nat) (two : 2 ≤ base) (positive : 0 < width)
    (fits : n < base ^ width) :
    ∃ digits, padded width ((digitList base n).map digitChar) = digits.map digitChar ∧
      digits.length = width ∧ (∀ d ∈ digits, d < base) ∧ value base digits = n := by
  have short := (length_digitList_le_iff two positive).mpr fits
  refine ⟨List.replicate (width - (digitList base n).length) 0 ++ digitList base n, ?_, ?_, ?_, ?_⟩
  · rw [padded, List.map_append, List.map_replicate, List.length_map, digitChar_zero]
  · rw [List.length_append, List.length_replicate]
    omega
  · intro d member
    rcases List.mem_append.mp member with zero | digit
    · have := (List.mem_replicate.mp zero).2
      omega
    · exact digitList_lt two digit
  · rw [value_zeros_append, value_digitList]

def NoDigit (text : List Char) : Prop := ∀ c ∈ text.head?, asciiDigit? c = none

theorem spanDigits_digits {digits : List Nat} {rest : List Char} (small : ∀ d ∈ digits, d < 10)
    (ended : NoDigit rest) : spanDigits asciiDigit? (digits.map digitChar ++ rest) =
      (digits, rest) := by
  induction digits with
  | nil =>
    cases rest with
    | nil => rfl
    | cons c rest => simp only [List.map_nil, List.nil_append, spanDigits, ended c rfl]
  | cons d digits ih =>
    have first := asciiDigit_digitChar d (small d (List.mem_cons_self ..))
    have others := ih fun d member => small d (List.mem_cons_of_mem _ member)
    simp only [List.map_cons, List.cons_append, spanDigits, first, others]

theorem someDigits_digits {digits : List Nat} {rest : List Char} (present : digits ≠ [])
    (small : ∀ d ∈ digits, d < 10) (ended : NoDigit rest) :
    someDigits? asciiDigit? (digits.map digitChar ++ rest) = some (digits, rest) := by
  rw [someDigits?, spanDigits_digits small ended, if_neg present]

/-- The first digit of a number that is not zero is not zero. -/
theorem digitList_head {n d : Nat} {more : List Nat} (split : digitList 10 n = d :: more) :
    n = 0 ∨ d ≠ 0 := by
  unfold digitList at split
  split at split
  · exact .inl ‹_›
  · rename_i nonzero
    right
    have first : (Nat.digits 10 n).getLast (Nat.digits_ne_nil_iff_ne_zero.mpr nonzero) = d := by
      rw [← List.head_reverse (by simpa [Nat.digits_ne_nil_iff_ne_zero] using nonzero)]
      simp only [split, List.head_cons]
    exact first ▸ Nat.getLast_digit_ne_zero 10 nonzero

theorem digitChar_ne : ∀ d < 10, digitChar d ≠ '-' ∧ (d ≠ 0 → digitChar d ≠ '0') := by decide

theorem plainDigits_decimal {rest : List Char} (n : Nat) (ended : NoDigit rest) :
    plainDigits? (decimal n ++ rest) = some (digitList 10 n, rest) := by
  have small : ∀ d ∈ digitList 10 n, d < 10 := fun d => digitList_lt (by omega)
  by_cases zero : n = 0
  · rw [decimal_eq, digitList, if_pos zero]
    rfl
  · obtain ⟨d, more, split⟩ := List.exists_cons_of_ne_nil (digitList_ne_nil 10 n)
    have first := (digitChar_ne d (small d (split ▸ List.mem_cons_self ..))).2
      ((digitList_head split).resolve_left zero)
    have all := someDigits_digits (digitList_ne_nil 10 n) small ended
    rw [decimal_eq]
    rw [split, List.map_cons, List.cons_append] at all ⊢
    rw [plainDigits?.eq_def]
    split
    · rename_i same
      exact absurd (List.cons.inj same).1 first
    · exact all

theorem takeMinus_decimal (n : Nat) (rest : List Char) :
    takeMinus (decimal n ++ rest) = (false, decimal n ++ rest) := by
  obtain ⟨d, more, split⟩ := List.exists_cons_of_ne_nil (digitList_ne_nil 10 n)
  have first := (digitChar_ne d (digitList_lt (by omega) (split ▸ List.mem_cons_self ..))).1
  rw [decimal_eq, split, List.map_cons, List.cons_append, takeMinus.eq_def]
  split
  · rename_i same
    exact absurd (List.cons.inj same).1 first
  · rfl

/-- A sign and the size make up the number. -/
theorem takeMinus_signed (n : Int) (rest : List Char) :
    takeMinus (signed n ++ rest) = (decide (n < 0), decimal n.natAbs ++ rest) := by
  cases n with
  | ofNat n => exact takeMinus_decimal n rest
  | negSucc n => simp [signed, takeMinus]

theorem withSign_natAbs (n : Int) : withSign (decide (n < 0)) n.natAbs = n := by
  unfold withSign
  split
  · rename_i negative
    have := of_decide_eq_true negative
    omega
  · rename_i positive
    have := of_decide_eq_false (Bool.eq_false_iff.mpr positive)
    omega

end CounterArchive.Numeral
