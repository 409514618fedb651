import CounterArchive.Proofs.Numeral
import CounterArchive.Text.DecimalDigit
import Mathlib.Data.List.TakeWhile

/-! Which texts are read as whole numbers. A grammar tells it: blanks, at most one sign, digits with
single underscores between them, and blanks again. The digits may be those of any script, as long as
they are neither blanks nor signs. -/
namespace CounterArchive.Numeral

open CounterArchive.Text (isBlank trim)

/-- Digits, the first one first, with at most one underscore between two of them. -/
inductive Grouped (digit? : Char → Option Nat) : List Nat → List Char → Prop where
  | last {c : Char} {d : Nat} (digit : digit? c = some d) : Grouped digit? [d] [c]
  | next {c : Char} {d : Nat} {digits : List Nat} {text : List Char} (digit : digit? c = some d)
      (more : Grouped digit? digits text) : Grouped digit? (d :: digits) (c :: text)
  | underscore {c : Char} {d : Nat} {digits : List Nat} {text : List Char}
      (digit : digit? c = some d) (more : Grouped digit? digits text) :
      Grouped digit? (d :: digits) (c :: '_' :: text)

inductive Sign : List Char → Bool → Prop where
  | none : Sign [] false
  | plus : Sign ['+'] false
  | minus : Sign ['-'] true

inductive Denotes (digit? : Char → Option Nat) : List Char → Int → Prop where
  | intro {front sign body back : List Char} {digits : List Nat} {negative : Bool}
      (blankFront : ∀ c ∈ front, isBlank c = true) (signed : Sign sign negative)
      (grouped : Grouped digit? digits body) (short : digits.length ≤ 4300)
      (blankBack : ∀ c ∈ back, isBlank c = true) :
      Denotes digit? (front ++ (sign ++ body) ++ back)
        (if negative then -(Nat.ofDigits 10 digits.reverse : Nat)
          else (Nat.ofDigits 10 digits.reverse : Nat))

/-- Digits are no other characters of a number. -/
structure Distinct (digit? : Char → Option Nat) : Prop where
  notBlank : ∀ {c d}, digit? c = some d → isBlank c = false
  notUnderscore : digit? '_' = none
  notPlus : digit? '+' = none
  notMinus : digit? '-' = none

/-! Blanks around a text -/

theorem trim_append {front core back : List Char} (blankFront : ∀ c ∈ front, isBlank c = true)
    (first : ∃ c rest, core = c :: rest ∧ isBlank c = false)
    (last : ∃ rest c, core = rest ++ [c] ∧ isBlank c = false)
    (blankBack : ∀ c ∈ back, isBlank c = true) : trim (front ++ core ++ back) = core := by
  have opened : (front ++ core ++ back).dropWhile isBlank = core ++ back := by
    obtain ⟨c, rest, rfl, kept⟩ := first
    rw [List.append_assoc, List.dropWhile_append_of_pos blankFront]
    simp [kept]
  have closed : (core ++ back).reverse.dropWhile isBlank = core.reverse := by
    obtain ⟨rest, c, rfl, kept⟩ := last
    rw [List.reverse_append, List.dropWhile_append_of_pos (by simpa using blankBack)]
    simp [kept]
  rw [trim, opened, closed, List.reverse_reverse]

theorem exists_trim (text : List Char) : ∃ front back, text = front ++ trim text ++ back ∧
    (∀ c ∈ front, isBlank c = true) ∧ ∀ c ∈ back, isBlank c = true := by
  refine ⟨text.takeWhile isBlank,
    ((text.dropWhile isBlank).reverse.takeWhile isBlank).reverse, ?_, ?_, ?_⟩
  · rw [trim, List.append_assoc, ← List.reverse_append, List.takeWhile_append_dropWhile,
      List.reverse_reverse, List.takeWhile_append_dropWhile]
  · exact fun c listed => List.mem_takeWhile_imp listed
  · exact fun c listed => List.mem_takeWhile_imp (List.mem_reverse.mp listed)

/-! Signs -/

theorem takeSign_sound {text body : List Char} {negative : Bool}
    (taken : takeSign text = (negative, body)) : ∃ sign, Sign sign negative ∧ text = sign ++ body := by
  unfold takeSign at taken
  split at taken <;> cases taken
  · exact ⟨['-'], .minus, rfl⟩
  · exact ⟨['+'], .plus, rfl⟩
  · exact ⟨[], .none, rfl⟩

theorem takeSign_complete {sign body : List Char} {negative : Bool} (signed : Sign sign negative)
    (unsigned : ∀ c ∈ body.head?, c ≠ '+' ∧ c ≠ '-') : takeSign (sign ++ body) = (negative, body) := by
  cases signed with
  | plus => rfl
  | minus => rfl
  | none =>
    cases body with
    | nil => rfl
    | cons c rest =>
      obtain ⟨notPlus, notMinus⟩ := unsigned c rfl
      change takeSign (c :: rest) = _
      unfold takeSign
      split
      · exact absurd (List.cons.inj ‹_›).1 notMinus
      · exact absurd (List.cons.inj ‹_›).1 notPlus
      · rfl

/-! Digits -/

section Grouped

variable {digit? : Char → Option Nat} {digits : List Nat} {text : List Char}

theorem Grouped.first (grouped : Grouped digit? digits text) :
    ∃ c rest d, text = c :: rest ∧ digit? c = some d := by
  cases grouped with
  | last digit | next digit | underscore digit => exact ⟨_, _, _, rfl, digit⟩

theorem Grouped.final (grouped : Grouped digit? digits text) :
    ∃ rest c d, text = rest ++ [c] ∧ digit? c = some d := by
  induction grouped with
  | last digit => exact ⟨[], _, _, rfl, digit⟩
  | @next first _ _ _ _ _ ih =>
    obtain ⟨rest, c, d, rfl, digit⟩ := ih
    exact ⟨first :: rest, c, d, rfl, digit⟩
  | @underscore first _ _ _ _ _ ih =>
    obtain ⟨rest, c, d, rfl, digit⟩ := ih
    exact ⟨first :: '_' :: rest, c, d, rfl, digit⟩

/-- What follows a digit: nothing, or more digits, perhaps behind an underscore. -/
def Follows (digit? : Char → Option Nat) (digits : List Nat) (text : List Char) : Prop :=
  (digits = [] ∧ text = []) ∨ Grouped digit? digits text ∨
    ∃ rest, text = '_' :: rest ∧ Grouped digit? digits rest

theorem Grouped.cons {c : Char} {d : Nat} (digit : digit? c = some d)
    (follows : Follows digit? digits text) : Grouped digit? (d :: digits) (c :: text) := by
  rcases follows with ⟨rfl, rfl⟩ | more | ⟨rest, rfl, more⟩
  · exact .last digit
  · exact .next digit more
  · exact .underscore digit more

/-- Whatever is read to its end is made up of digits, after a digit perhaps with an underscore first. -/
theorem spanGrouped_sound {afterDigit : Bool}
    (read : spanGrouped digit? afterDigit text = some (digits, [])) :
    if afterDigit then Follows digit? digits text else Grouped digit? digits text := by
  induction text generalizing afterDigit digits with
  | nil =>
    cases afterDigit with
    | false => cases read
    | true =>
      cases read
      exact .inl ⟨rfl, rfl⟩
  | cons c rest ih =>
    rw [spanGrouped] at read
    cases digit : digit? c with
    | some d =>
      rw [digit] at read
      obtain ⟨⟨more, left⟩, others, same⟩ := Option.bind_eq_some_iff.mp read
      cases same
      have grouped := Grouped.cons digit (ih others)
      cases afterDigit with
      | false => exact grouped
      | true => exact .inr (.inl grouped)
    | none =>
      cases afterDigit with
      | false => simp [digit] at read
      | true =>
        simp only [digit, Bool.not_true, Bool.false_eq_true, if_false] at read
        split at read
        · rename_i same
          exact .inr (.inr ⟨rest, by rw [same], ih read⟩)
        · cases read

theorem spanGrouped_complete (distinct : Distinct digit?) (grouped : Grouped digit? digits text)
    (afterDigit : Bool) : spanGrouped digit? afterDigit text = some (digits, []) := by
  induction grouped generalizing afterDigit with
  | last digit => simp [spanGrouped, digit]
  | next digit _ ih => simp [spanGrouped, digit, ih]
  | underscore digit _ ih => simp [spanGrouped, digit, distinct.notUnderscore, ih]

end Grouped

section Signed

variable {digit? : Char → Option Nat} {text : List Char} {n : Int}

theorem value_eq_ofDigits (base : Nat) (digits : List Nat) :
    value base digits = Nat.ofDigits base digits.reverse := by
  rw [← value_reverse, List.reverse_reverse]

theorem denotes_of_readSigned (read : readSigned digit? text = .ok n) : Denotes digit? text n := by
  unfold readSigned at read
  rcases taken : takeSign (trim text) with ⟨negative, body⟩
  obtain ⟨sign, signed, core⟩ := takeSign_sound taken
  obtain ⟨front, back, whole, blankFront, blankBack⟩ := exists_trim text
  simp only [taken] at read
  split at read
  · cases read
  · rename_i digits rest spanned
    split at read
    · cases read
    · rename_i short
      split at read
      · cases read
      · rename_i ended
        rw [not_not.mp ended] at spanned
        cases read
        rw [whole, core, value_eq_ofDigits]
        exact .intro blankFront signed (spanGrouped_sound spanned) (Nat.not_lt.mp short) blankBack

theorem readSigned_of_denotes (distinct : Distinct digit?) (denotes : Denotes digit? text n) :
    readSigned digit? text = .ok n := by
  cases denotes with
  | @intro front sign body back digits negative blankFront signed grouped short blankBack =>
    have ⟨first, rest, d, starts, digit⟩ := grouped.first
    have ⟨init, last, e, ends, lastDigit⟩ := grouped.final
    have trimmed : trim (front ++ (sign ++ body) ++ back) = sign ++ body := by
      refine trim_append blankFront ?_ ?_ blankBack
      · cases signed with
        | none => exact ⟨first, rest, starts, distinct.notBlank digit⟩
        | plus => exact ⟨'+', body, rfl, by decide⟩
        | minus => exact ⟨'-', body, rfl, by decide⟩
      · exact ⟨sign ++ init, last, by rw [ends, List.append_assoc], distinct.notBlank lastDigit⟩
    have taken : takeSign (sign ++ body) = (negative, body) := by
      apply takeSign_complete signed
      rw [starts]
      rintro c ⟨⟩
      constructor
      · rintro rfl
        simp [distinct.notPlus] at digit
      · rintro rfl
        simp [distinct.notMinus] at digit
    have spanned := spanGrouped_complete distinct grouped false
    have fits : ¬ digitLimit < digits.length := Nat.not_lt.mpr short
    simp only [readSigned, trimmed, taken, spanned, fits, if_false, ne_eq, not_true_eq_false]
    rw [value_eq_ofDigits]
    rfl

/-- A text is read as just the number that it denotes. -/
theorem readSigned_iff (distinct : Distinct digit?) :
    readSigned digit? text = .ok n ↔ Denotes digit? text n :=
  ⟨denotes_of_readSigned, readSigned_of_denotes distinct⟩

end Signed

/-- The decimal digits of all scripts. -/
theorem distinct_decimalDigit : Distinct Text.decimalDigit? := by
  refine ⟨?_, by decide, by decide, by decide⟩
  intro c d digit
  have blanks : ∀ z ∈ Text.zeros, ∀ i < 10, isBlank (Char.ofNat (z + i)) = false := by decide +kernel
  obtain ⟨z, found, -⟩ := Option.map_eq_some_iff.mp digit
  have among := List.mem_of_find?_eq_some found
  have inside := List.find?_some found
  simp only [Bool.and_eq_true, decide_eq_true_eq] at inside
  have same : z + (c.toNat - z) = c.toNat := by omega
  have kept := blanks z among (c.toNat - z) (by omega)
  rwa [same, Char.ofNat_toNat] at kept

end CounterArchive.Numeral
