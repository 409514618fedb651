import CounterArchive.Proofs.Json.RoundTrip
import Mathlib.Data.Nat.Find

/-! How deep a text nests. A reader that allows for less gives up, and all readers that allow for
as much read the same. -/
namespace CounterArchive.Json

def Failure.isTooDeep : Failure → Bool
  | .tooDeep _ => true
  | _ => false

def isTooDeep {α : Type} : Except Failure α → Bool
  | .ok _ => false
  | .error failure => failure.isTooDeep

@[simp] theorem isTooDeep_ok {α : Type} (value : α) : isTooDeep (.ok value) = false := rfl

@[simp] theorem isTooDeep_error {α : Type} (failure : Failure) :
    isTooDeep (.error failure : Except Failure α) = failure.isTooDeep := rfl

theorem isTooDeep_iff {α : Type} {result : Except Failure α} :
    isTooDeep result = true ↔ ∃ container, result = .error (.tooDeep container) := by
  rcases result with (⟨flaw, rest⟩ | digits | container) | value
  all_goals simp [Failure.isTooDeep]

/-! What a reader makes of a text, a reader that allows for more makes of it too. -/

/-- Reads what a deeper reader reads, or gives up. -/
def Reader.Within {α : Type} (shallow deep : Reader α) : Prop :=
  ∀ text, isTooDeep (shallow.run text) = false → deep.run text = shallow.run text

section Within

variable {α : Type} {shallow deep : Reader α} {close : Char}

theorem separated_within (within : shallow.Within deep) {text : List Char}
    (fine : isTooDeep (separated shallow close text) = false) :
    separated deep close text = separated shallow close text := by
  fun_induction separated shallow close text with
  | case1 text failure run =>
    have same := within text (by rw [run]; exact fine)
    rw [separated_eq, same, run]
  | case2 text first afterItem run blank =>
    have same := within text (by rw [run]; rfl)
    rw [separated_eq, same, run]
    simp only [blank]
  | case3 text first afterItem run rest blank =>
    have same := within text (by rw [run]; rfl)
    rw [separated_eq, same, run]
    simp only [blank, if_true]
  | case4 text first afterItem run rest failure again blank other ih =>
    have same := within text (by rw [run]; rfl)
    rw [separated_eq, same, run]
    simp only [blank, if_neg other, if_true, ih (by rw [again]; exact fine), again]
  | case5 text first afterItem run rest more last again blank other ih =>
    have same := within text (by rw [run]; rfl)
    rw [separated_eq, same, run]
    simp only [blank, if_neg other, if_true, ih (by rw [again]; rfl), again]
  | case6 text first afterItem run mark rest blank other noComma =>
    have same := within text (by rw [run]; rfl)
    rw [separated_eq, same, run]
    simp only [blank, if_neg other, if_neg noComma]

theorem enclosed_within (within : shallow.Within deep) {text : List Char}
    (fine : isTooDeep (enclosed shallow close text) = false) :
    enclosed deep close text = enclosed shallow close text := by
  unfold enclosed at fine ⊢
  split at fine
  · exact separated_within within fine
  · rename_i mark rest _
    by_cases closed : mark = close
    · simp only [if_pos closed]
    · simp only [if_neg closed] at fine ⊢
      exact separated_within within fine

end Within

theorem Reader.Within.member {shallow deep : Reader Json} (within : shallow.Within deep) :
    (member shallow).Within (member deep) := by
  intro text fine
  change isTooDeep (readMember shallow text) = false at fine
  change readMember deep text = readMember shallow text
  unfold readMember at fine ⊢
  split
  · rename_i text
    simp only at fine
    cases named : stringBody text text with
    | error failure => rfl
    | ok found =>
      obtain ⟨name, afterName⟩ := found
      simp only [named] at fine ⊢
      split
      · rename_i rest blank
        simp only [blank] at fine
        have same := within (skipBlanks rest) (by
          cases run : shallow.run (skipBlanks rest) with
          | error failure =>
            rw [run] at fine
            exact fine
          | ok found => rfl)
        rw [same]
      · rfl
  · rfl

def WithinInner {α : Type} : Option (Reader α) → Option (Reader α) → Prop
  | none, _ => True
  | some shallow, some deep => shallow.Within deep
  | some _, none => False

theorem WithinInner.member {shallow deep : Option (Reader Json)}
    (within : WithinInner shallow deep) :
    WithinInner (shallow.map Json.member) (deep.map Json.member) := by
  cases shallow with
  | none => trivial
  | some shallow =>
    cases deep with
    | none => cases within
    | some deep => exact Reader.Within.member within

theorem readContainer_within {α : Type} {container : Container} {close : Char}
    {make : List α → Json} {shallow deep : Option (Reader α)} (within : WithinInner shallow deep)
    {text : List Char}
    (fine : isTooDeep (readContainer container close make shallow text) = false) :
    readContainer container close make deep text =
      readContainer container close make shallow text := by
  cases shallow with
  | none => cases fine
  | some shallow =>
    cases deep with
    | none => cases within
    | some deep =>
      unfold readContainer at fine ⊢
      dsimp only at fine ⊢
      have same : enclosed deep close text = enclosed shallow close text := by
        apply enclosed_within within
        cases read : enclosed shallow close text with
        | error failure =>
          rw [read] at fine
          exact fine
        | ok found => rfl
      rw [same]

theorem readValue_within (limits : Limits) {shallow deep : Option (Reader Json)}
    (within : WithinInner shallow deep) {text : List Char}
    (fine : isTooDeep (readValue limits shallow text) = false) :
    readValue limits deep text = readValue limits shallow text := by
  unfold readValue at fine ⊢
  split
  · rfl
  · exact readContainer_within within fine
  · exact readContainer_within within.member fine
  · rfl

theorem valueReader_within (limits : Limits) (depth : Nat) :
    (valueReader limits depth).Within (valueReader limits (depth + 1)) := by
  induction depth with
  | zero =>
    have within : WithinInner none (some (valueReader limits 0)) := trivial
    exact fun text fine => readValue_within limits within fine
  | succ depth ih =>
    have within : WithinInner (some (valueReader limits depth))
        (some (valueReader limits (depth + 1))) := ih
    exact fun text fine => readValue_within limits within fine

/-! A text is never too deep for a reader that allows for as many containers as there are
characters. -/

@[simp] theorem isTooDeep_unicodeEscape (text : List Char) :
    isTooDeep (unicodeEscape text) = false := by
  unfold unicodeEscape
  repeat' split
  all_goals rfl

@[simp] theorem isTooDeep_stringUnit (opened text : List Char) :
    isTooDeep (stringUnit opened text) = false := by
  unfold stringUnit
  split
  case h_4 =>
    rename_i rest
    have escape := isTooDeep_unicodeEscape rest
    split
    · rename_i found
      rw [found] at escape
      exact escape
    · rfl
  all_goals repeat' split
  all_goals rfl

@[simp] theorem isTooDeep_stringBody (opened text : List Char) :
    isTooDeep (stringBody opened text) = false := by
  fun_induction stringBody opened text with
  | case1 text failure found =>
    have unit := isTooDeep_stringUnit opened text
    rw [found] at unit
    exact unit
  | case2 => rfl
  | case3 text c rest found failure read ih =>
    rw [read] at ih
    exact ih
  | case4 => rfl

@[simp] theorem isTooDeep_number (limits : Limits) (text : List Char) :
    isTooDeep (number limits text) = false := by
  unfold number
  repeat' split
  all_goals rfl

section Shorter

variable {α : Type} {item : Reader α} {size : Nat}

theorem isTooDeep_separated (fine : ∀ text, text.length ≤ size → isTooDeep (item.run text) = false)
    (close : Char) {text : List Char} (short : text.length ≤ size) :
    isTooDeep (separated item close text) = false := by
  fun_induction separated item close text with
  | case1 text failure run =>
    have first := fine text short
    rw [run] at first
    exact first
  | case2 => rfl
  | case3 => rfl
  | case4 text first afterItem run rest failure again blank other ih =>
    have consumed := item.consumes run
    have blanks := length_skipBlanks_le afterItem
    have more := length_skipBlanks_le rest
    rw [blank, List.length_cons] at blanks
    have later := ih (by omega)
    rw [again] at later
    exact later
  | case5 => rfl
  | case6 => rfl

theorem isTooDeep_enclosed (fine : ∀ text, text.length ≤ size → isTooDeep (item.run text) = false)
    (close : Char) {text : List Char} (short : text.length ≤ size) :
    isTooDeep (enclosed item close text) = false := by
  have blanks := length_skipBlanks_le text
  unfold enclosed
  split
  · exact isTooDeep_separated fine close (Nat.zero_le size)
  · rename_i found
    rw [found] at blanks
    split
    · rfl
    · exact isTooDeep_separated fine close (Nat.le_trans blanks short)

theorem isTooDeep_readContainer (container : Container) (close : Char) (make : List α → Json)
    (fine : ∀ text, text.length ≤ size → isTooDeep (item.run text) = false) {text : List Char}
    (short : text.length ≤ size) :
    isTooDeep (readContainer container close make (some item) text) = false := by
  have items := isTooDeep_enclosed fine close short
  unfold readContainer
  simp only
  split
  · rename_i read
    rw [read] at items
    exact items
  · rfl

end Shorter

theorem isTooDeep_member {value : Reader Json} {size : Nat}
    (fine : ∀ text, text.length ≤ size → isTooDeep (value.run text) = false) {text : List Char}
    (short : text.length ≤ size) : isTooDeep ((member value).run text) = false := by
  change isTooDeep (readMember value text) = false
  unfold readMember
  split
  · rename_i text
    have body := isTooDeep_stringBody text text
    split
    · rename_i read
      rw [read] at body
      exact body
    · rename_i name afterName read
      have named := length_stringBody read
      have blanks := length_skipBlanks_le afterName
      split
      · rename_i rest blank
        have more := length_skipBlanks_le rest
        rw [blank, List.length_cons] at blanks
        rw [List.length_cons] at short
        have inner := fine (skipBlanks rest) (by omega)
        split
        · rename_i run
          rw [run] at inner
          exact inner
        · rfl
      · rfl
  · rfl

theorem isTooDeep_valueReader (limits : Limits) {depth : Nat} {text : List Char}
    (short : text.length ≤ depth) : isTooDeep ((valueReader limits depth).run text) = false := by
  induction depth generalizing text with
  | zero =>
    obtain rfl := List.eq_nil_of_length_eq_zero (Nat.le_zero.mp short)
    rfl
  | succ depth ih =>
    rw [run_valueReader]
    unfold readValue
    split
    · rename_i text
      have body := isTooDeep_stringBody text text
      split
      · rename_i read
        rw [read] at body
        exact body
      · rfl
    · exact isTooDeep_readContainer _ _ _ (fun _ => ih) (Nat.le_of_succ_le_succ short)
    · exact isTooDeep_readContainer _ _ _ (fun _ => isTooDeep_member fun _ => ih)
        (Nat.le_of_succ_le_succ short)
    · split
      · rfl
      · exact isTooDeep_number limits _

/-- How many arrays and objects are open at once while a text is read, up to its end or to what
is wrong with it. -/
def nesting (limits : Limits) (text : List Char) : Nat :=
  Nat.find (p := fun depth => isTooDeep ((valueReader limits depth).run text) = false)
    ⟨text.length, isTooDeep_valueReader limits (Nat.le_refl _)⟩

theorem nesting_le_length (limits : Limits) (text : List Char) :
    nesting limits text ≤ text.length :=
  Nat.find_min' _ (isTooDeep_valueReader limits (Nat.le_refl _))

/-- All readers that allow for the nesting of a text read the same. -/
theorem run_of_nesting_le {limits : Limits} {depth : Nat} {text : List Char}
    (enough : nesting limits text ≤ depth) :
    (valueReader limits depth).run text =
      (valueReader limits (nesting limits text)).run text := by
  induction depth, enough using Nat.le_induction with
  | base => rfl
  | succ depth enough ih =>
    have fine : isTooDeep ((valueReader limits (nesting limits text)).run text) = false :=
      Nat.find_spec (p := fun depth => isTooDeep ((valueReader limits depth).run text) = false) _
    rw [← ih]
    exact valueReader_within limits depth text (ih ▸ fine)

theorem isTooDeep_run_iff (limits : Limits) (depth : Nat) (text : List Char) :
    isTooDeep ((valueReader limits depth).run text) = true ↔ depth < nesting limits text := by
  constructor
  · intro deep
    by_contra enough
    have fine : isTooDeep ((valueReader limits (nesting limits text)).run text) = false :=
      Nat.find_spec (p := fun depth => isTooDeep ((valueReader limits depth).run text) = false) _
    rw [run_of_nesting_le (Nat.le_of_not_lt enough), fine] at deep
    cases deep
  · intro less
    exact Bool.eq_true_of_not_eq_false (Nat.find_min _ less)

/-- A reader gives up a text just when it nests deeper than is allowed. -/
theorem isTooDeep_read_iff (limits : Limits) (text : List Char) :
    isTooDeep (read limits text) = true ↔
      text.head? ≠ some (Char.ofNat 0xFEFF) ∧ limits.depth < nesting limits (skipBlanks text) := by
  rw [← isTooDeep_run_iff]
  unfold read
  split
  · rename_i mark
    constructor
    · intro never
      cases never
    · rintro ⟨noMark, -⟩
      exact absurd mark noMark
  · rename_i noMark
    rw [and_iff_right noMark]
    cases (valueReader limits limits.depth).run (skipBlanks text) with
    | error failure => rfl
    | ok found =>
      obtain ⟨value, rest⟩ := found
      simp only [bind, Except.bind]
      split <;> rfl

theorem enclosed_brackets {α : Type} (item : Reader α) (count : Nat) :
    enclosed item ']' (List.replicate count '[') =
      separated item ']' (List.replicate count '[') := by
  cases count <;> rfl

/-- Opening brackets, and nothing that closes them. -/
theorem run_brackets (limits : Limits) (depth count : Nat) :
    ∃ failure, (valueReader limits depth).run (List.replicate count '[') = .error failure ∧
      failure.isTooDeep = decide (depth < count) := by
  induction count generalizing depth with
  | zero => cases depth <;> exact ⟨_, rfl, rfl⟩
  | succ count ih =>
    cases depth with
    | zero => exact ⟨_, rfl, rfl⟩
    | succ depth =>
      obtain ⟨failure, run, deep⟩ := ih depth
      refine ⟨failure, ?_, by simp [deep]⟩
      rw [run_valueReader, List.replicate_succ]
      change readContainer .array ']' .array (some (valueReader limits depth)) _ = _
      rw [readContainer]
      simp only [enclosed_brackets, separated_error run]

theorem nesting_brackets (limits : Limits) (count : Nat) :
    nesting limits (List.replicate count '[') = count := by
  have threshold (depth : Nat) : depth < nesting limits (List.replicate count '[') ↔
      depth < count := by
    obtain ⟨failure, run, deep⟩ := run_brackets limits depth count
    rw [← isTooDeep_run_iff, run, isTooDeep_error, deep, decide_eq_true_iff]
  exact Nat.le_antisymm (Nat.le_of_not_lt fun more => Nat.lt_irrefl _ ((threshold count).mp more))
    (Nat.le_of_not_lt fun less => Nat.lt_irrefl _ ((threshold _).mpr less))

end CounterArchive.Json
