import CounterArchive.Json.Printer
import CounterArchive.Json.Reader
import CounterArchive.Proofs.Numeral

/-! Strings are read back as they were, whatever characters they consist of. -/
namespace CounterArchive.Json

open Numeral

/-- The short escapes of the printer are those of the reader. -/
theorem unescaped_shortEscape {c e : Char} (short : shortEscape? c = some e) :
    unescaped? e = some c ∧ e ≠ 'u' := by
  unfold shortEscape? at short
  repeat' split at short
  all_goals cases short
  · rename_i quoted
    rcases quoted with rfl | rfl <;> decide
  all_goals
    rename_i same
    subst same
    decide

/-- The four digits of a control character denote it. -/
theorem hexNumber_control {n : Nat} (small : n < 0x20) :
    ∃ a b c d, padded 4 (hexadecimal n) = [a, b, c, d] ∧ hexNumber [a, b, c, d] = some n := by
  obtain ⟨digits, written, length, below, denoted⟩ :=
    padded_digitList 4 (by omega) (by omega) (show n < 16 ^ 4 by omega)
  obtain ⟨a, b, c, d, rfl⟩ := List.length_eq_four.mp length
  refine ⟨digitChar a, digitChar b, digitChar c, digitChar d, ?_, ?_⟩
  · rw [hexadecimal_eq, written]
    rfl
  · have read := mapM_digits fun d member => hexDigit_digitChar d (below d member)
    rw [hexNumber, show [digitChar a, digitChar b, digitChar c, digitChar d] =
      [a, b, c, d].map digitChar from rfl, read, Option.map_some, denoted]

theorem unicodeEscape_control {n : Nat} {rest : List Char} (small : n < 0x20) (more : rest ≠ []) :
    unicodeEscape (padded 4 (hexadecimal n) ++ rest) = .ok (.char (Char.ofNat n), rest) := by
  obtain ⟨a, b, c, d, written, denoted⟩ := hexNumber_control small
  have noHalf : isHighHalf n = false ∧ isLowHalf n = false := by
    simp only [isHighHalf, isLowHalf, Bool.and_eq_false_iff, decide_eq_false_iff_not]
    omega
  have whole : letterOfUnit n = .char (Char.ofNat n) := by simp [letterOfUnit, noHalf]
  rw [written, unicodeEscape.eq_def]
  simp only [List.cons_append, List.nil_append, denoted, more, if_false, noHalf.1, whole]
  split <;> rfl

/-- A character is read from what is written of it. Behind it there is at least the closing
quote. -/
theorem stringUnit_charText (opened : List Char) (c : Char) {rest : List Char}
    (more : rest ≠ []) : stringUnit opened (charText c ++ rest) = .ok (some (.char c), rest) := by
  unfold charText
  split
  · rename_i e short
    obtain ⟨known, notU⟩ := unescaped_shortEscape short
    obtain ⟨d, tail, rfl⟩ := List.exists_cons_of_ne_nil more
    simp only [List.cons_append, List.nil_append, stringUnit, known]
  · rename_i plain
    split
    · rename_i control
      have same : Char.ofNat c.toNat = c := Char.ofNat_toNat c
      have read := unicodeEscape_control control more
      simp only [List.cons_append, stringUnit, read, same]
    · rename_i visible
      have noMark : c ≠ '"' ∧ c ≠ '\\' := by
        constructor
        all_goals
          rintro rfl
          cases plain
      rw [List.singleton_append, stringUnit.eq_def]
      split
      all_goals rename_i same
      all_goals cases same
      all_goals try exact absurd rfl noMark.1
      all_goals try exact absurd rfl noMark.2
      rw [if_neg visible]

theorem stringBody_cons {opened text after rest : List Char} {letter : Letter}
    {body : List Letter} (unit : stringUnit opened text = .ok (some letter, after))
    (read : stringBody opened after = .ok (body, rest)) :
    stringBody opened text = .ok (letter :: body, rest) := by
  rw [stringBody.eq_def]
  split
  all_goals
    rename_i found
    rw [unit] at found
    cases found
  rw [read]

theorem stringBody_text (opened chars rest : List Char) :
    stringBody opened (chars.flatMap charText ++ '"' :: rest) = .ok (chars.map .char, rest) := by
  induction chars with
  | nil =>
    rw [stringBody.eq_def]
    rfl
  | cons c chars ih =>
    have unit := stringUnit_charText opened c
      (List.append_ne_nil_of_right_ne_nil (chars.flatMap charText) (List.cons_ne_nil '"' rest))
    rw [List.flatMap_cons, List.append_assoc]
    exact stringBody_cons unit ih

theorem shownText_char (s : String) : shownText (s.toList.map .char) = s := by
  rw [shownText, List.map_map]
  exact (congrArg String.ofList (List.map_id s.toList)).trans String.ofList_toList

/-- Whole characters make up a string, in which nothing is replaced. -/
theorem stringOf_char (s : String) : stringOf (s.toList.map .char) = .string s := by
  have whole : (s.toList.map Letter.char).any Letter.isHalf = false := by simp [Letter.isHalf]
  rw [stringOf, whole, shownText_char]
  rfl

/-- A string in front of `rest`, behind its opening quote. -/
theorem stringText_append (s : String) (rest : List Char) :
    stringText s ++ rest = '"' :: (s.toList.flatMap charText ++ '"' :: rest) := by
  simp only [stringText, List.cons_append, List.append_assoc, List.nil_append]

end CounterArchive.Json
