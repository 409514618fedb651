import CounterArchive.Proofs.Numeral

/-! How great a number can be that was read: its digits are digits, and there are no more of them
than the limit. -/
namespace CounterArchive.Numeral

theorem value_lt {base : Nat} {digits : List Nat} (two : 1 < base) (small : ∀ d ∈ digits, d < base) :
    value base digits < base ^ digits.length := by
  have all : ∀ d ∈ digits.reverse, d < base := by simpa using small
  have bound := Nat.ofDigits_lt_base_pow_length two all
  rw [← value_reverse, List.reverse_reverse, List.length_reverse] at bound
  exact bound

theorem asciiDigit?_lt {c : Char} {d : Nat} (digit : asciiDigit? c = some d) : d < 10 := by
  unfold asciiDigit? at digit
  split at digit
  · rename_i ascii
    cases digit
    simp only [Char.isDigit, Bool.and_eq_true, decide_eq_true_eq] at ascii
    have upper : c.toNat ≤ 57 := ascii.2
    omega
  · cases digit

theorem spanDigits_lt (text : List Char) : ∀ d ∈ (spanDigits asciiDigit? text).1, d < 10 := by
  induction text with
  | nil => simp [spanDigits]
  | cons c rest ih =>
    cases digit : asciiDigit? c with
    | none => simp [spanDigits, digit]
    | some d =>
      have first := asciiDigit?_lt digit
      simpa [spanDigits, digit, first] using ih

theorem plainDigits?_lt {text rest : List Char} {digits : List Nat}
    (found : plainDigits? text = some (digits, rest)) : ∀ d ∈ digits, d < 10 := by
  unfold plainDigits? at found
  split at found
  · cases found
    simp
  · unfold someDigits? at found
    split at found
    · cases found
    · have span := spanDigits_lt text
      rw [Option.some.inj found] at span
      exact span

@[simp] theorem natAbs_withSign (negative : Bool) (n : Nat) : (withSign negative n).natAbs = n := by
  cases negative <;> simp [withSign]

/-- A number of so many digits, with any sign. -/
theorem natAbs_lt_of_digits {text rest : List Char} {digits : List Nat} {count : Nat}
    (found : plainDigits? text = some (digits, rest)) (short : digits.length ≤ count)
    (negative : Bool) : (withSign negative (value 10 digits)).natAbs < 10 ^ count := by
  have bound := value_lt (by decide) (plainDigits?_lt found)
  have room : 10 ^ digits.length ≤ 10 ^ count := Nat.pow_le_pow_right (by decide) short
  rw [natAbs_withSign]
  omega

theorem readPlain_fits {text : List Char} {n : Int} (read : readPlain text = .ok n) :
    n.natAbs < 10 ^ digitLimit := by
  unfold readPlain at read
  dsimp only at read
  split at read
  · cases read
  · rename_i digits rest found
    split at read
    · cases read
    · rename_i short
      split at read
      · cases read
      · cases read
        exact natAbs_lt_of_digits found (Nat.not_lt.mp short) _

/-- However a number is spelled, it is made plain before it is read. -/
theorem readLoose_fits {text : List Char} {n : Int} (read : readLoose text = .ok n) :
    n.natAbs < 10 ^ digitLimit := by
  unfold readLoose at read
  split at read
  · split at read
    · rename_i plain
      cases read
      obtain ⟨body, -, same⟩ := Option.map_eq_some_iff.mp plain
      exact readPlain_fits same
    · cases read
  · exact readPlain_fits read

end CounterArchive.Numeral
