import CounterArchive.Proofs.Json.Strings
import CounterArchive.Proofs.Table

/-! Values are read back from their text. Which values can be read depends on how deep they nest
and on the first whole number, in the order of the text, that has too many digits. -/
namespace CounterArchive.Json

open Numeral

mutual

def integers : Json → List Int
  | .int n => [n]
  | .array items => integersOfItems items
  | .object fields => integersOfFields fields
  | _ => []

def integersOfItems : List Json → List Int
  | [] => []
  | item :: rest => item.integers ++ integersOfItems rest

def integersOfFields : List (String × Json) → List Int
  | [] => []
  | (_, value) :: rest => value.integers ++ integersOfFields rest

end

theorem integersOfItems_eq (items : List Json) :
    integersOfItems items = items.flatMap integers := by
  induction items with
  | nil => rfl
  | cons item rest ih => rw [integersOfItems, ih, List.flatMap_cons]

theorem integersOfFields_eq (fields : List (String × Json)) :
    integersOfFields fields = fields.flatMap fun field => field.2.integers := by
  induction fields with
  | nil => rfl
  | cons field rest ih => rw [integersOfFields, ih, List.flatMap_cons]

/-- Values without floats and without repeated names, which nest at most so deep. -/
inductive Legible : Nat → Json → Prop
  | null {depth : Nat} : Legible depth .null
  | bool {depth : Nat} (b : Bool) : Legible depth (.bool b)
  | int {depth : Nat} (n : Int) : Legible depth (.int n)
  | string {depth : Nat} (s : String) : Legible depth (.string s)
  | array {depth : Nat} {items : List Json} (inner : ∀ item ∈ items, Legible depth item) :
      Legible (depth + 1) (.array items)
  | object {depth : Nat} {fields : List (String × Json)}
      (distinct : (fields.map Prod.fst).Nodup) (inner : ∀ field ∈ fields, Legible depth field.2) :
      Legible (depth + 1) (.object fields)

def digitCount (n : Int) : Nat := (digitList 10 n.natAbs).length

def Limits.refuses (limits : Limits) (n : Int) : Bool := limits.digits.any (· < digitCount n)

/-- What comes of reading a value with these whole numbers in it, in front of `rest`. -/
def Limits.outcome {α : Type} (limits : Limits) (numbers : List Int) (value : α)
    (rest : List Char) : Except Failure (α × List Char) :=
  match numbers.find? limits.refuses with
  | none => .ok (value, rest)
  | some n => .error (.tooManyDigits (digitCount n))

/-- What may follow a value inside of an array or an object, or at the end. -/
def Ended (rest : List Char) : Prop := ∀ c ∈ rest.head?, c = ',' ∨ c = ']' ∨ c = '}'

theorem Ended.noDigit {rest : List Char} (ended : Ended rest) : NoDigit rest := by
  intro c head
  rcases ended c head with rfl | rfl | rfl <;> decide

theorem Ended.fraction_eq {rest : List Char} (ended : Ended rest) :
    fraction rest = (none, rest) := by
  unfold fraction
  split
  · rcases ended '.' rfl with h | h | h <;> cases h
  · rfl

theorem Ended.exponent_eq {rest : List Char} (ended : Ended rest) :
    exponent rest = (none, rest) := by
  cases rest with
  | nil => rfl
  | cons c rest => rcases ended c rfl with rfl | rfl | rfl <;> rfl

theorem number_signed {rest : List Char} (limits : Limits) (n : Int) (ended : Ended rest) :
    number limits (signed n ++ rest) = limits.outcome [n] (.int n) rest := by
  have digits := plainDigits_decimal n.natAbs ended.noDigit
  simp only [number, takeMinus_signed, digits, ended.fraction_eq, ended.exponent_eq,
    value_digitList, withSign_natAbs]
  change (if limits.refuses n = true then _ else _) = _
  by_cases refused : limits.refuses n = true
  · rw [if_pos refused, Limits.outcome, List.find?_cons_of_pos refused]
    rfl
  · rw [if_neg refused, Limits.outcome, List.find?_cons_of_neg refused]
    rfl

/-! What a value begins with. -/

/-- No value begins with these: blanks, closing marks and the byte order mark. -/
def isStart (c : Char) : Bool :=
  !(c = ' ' || c = '\t' || c = '\n' || c = '\r' || c = ']' || c = '}' ||
    c = Char.ofNat 0xFEFF)

theorem isDigit_digitChar : ∀ d < 10, (digitChar d).isDigit = true := by decide

theorem decimal_head (n : Nat) : ∃ c more, decimal n = c :: more ∧ c.isDigit = true := by
  obtain ⟨d, digits, split⟩ := List.exists_cons_of_ne_nil (digitList_ne_nil 10 n)
  have first := isDigit_digitChar d (digitList_lt (by omega) (split ▸ List.mem_cons_self ..))
  refine ⟨digitChar d, digits.map digitChar, ?_, first⟩
  rw [decimal_eq]
  exact congrArg _ split

theorem signed_head (n : Int) :
    ∃ c more, signed n = c :: more ∧ (c.isDigit = true ∨ c = '-') := by
  cases n with
  | ofNat n =>
    obtain ⟨c, more, begins, digit⟩ := decimal_head n
    exact ⟨c, more, begins, .inl digit⟩
  | negSucc n => exact ⟨'-', decimal (n + 1), rfl, .inr rfl⟩

/-- Whole numbers begin with none of the characters that are no digits. -/
theorem ne_of_head {c : Char} (head : c.isDigit = true ∨ c = '-') (other : Char)
    (noDigit : other.isDigit = false) (noMinus : other ≠ '-') : c ≠ other := by
  rintro rfl
  rcases head with digit | minus
  · rw [digit] at noDigit
    cases noDigit
  · exact noMinus minus

theorem isStart_of_head {c : Char} (head : c.isDigit = true ∨ c = '-') : isStart c = true := by
  have other := ne_of_head head
  simp [isStart, other ' ' rfl, other '\t' rfl, other '\n' rfl, other '\r' rfl, other ']' rfl,
    other '}' rfl, other (Char.ofNat 0xFEFF) rfl]

theorem text_head {depth : Nat} {value : Json} (legible : Legible depth value) :
    ∃ c more, value.text = c :: more ∧ isStart c = true := by
  cases legible with
  | null => exact ⟨'n', ['u', 'l', 'l'], by simp [text], by decide⟩
  | bool b =>
    cases b with
    | true => exact ⟨'t', ['r', 'u', 'e'], by simp [text], by decide⟩
    | false => exact ⟨'f', ['a', 'l', 's', 'e'], by simp [text], by decide⟩
  | int n =>
    obtain ⟨c, more, begins, head⟩ := signed_head n
    exact ⟨c, more, by rw [text, begins], isStart_of_head head⟩
  | string => exact ⟨'"', _, by rw [text, stringText]; rfl, by decide⟩
  | array => exact ⟨'[', _, by rw [text]; rfl, by decide⟩
  | object => exact ⟨'{', _, by rw [text]; rfl, by decide⟩

def NoBlank (text : List Char) : Prop := skipBlanks text = text

theorem noBlank_of_isStart {c : Char} (more : List Char) (start : isStart c = true) :
    NoBlank (c :: more) := by
  have notBlank : ¬ (c = ' ' || c = '\t' || c = '\n' || c = '\r') = true := by
    simp_all [isStart]
  rw [NoBlank, skipBlanks]
  exact List.dropWhile_cons_of_neg notBlank

theorem Ended.noBlank {rest : List Char} (ended : Ended rest) : NoBlank rest := by
  cases rest with
  | nil => rfl
  | cons c rest => rcases ended c rfl with rfl | rfl | rfl <;> rfl

/-! Lists of anything that can be read, between commas. -/

section Separated

variable {α : Type} {limits : Limits} {item : Reader α} {close : Char}

theorem separated_eq (item : Reader α) (close : Char) (text : List Char) :
    separated item close text =
      match item.run text with
      | .error failure => .error failure
      | .ok (first, afterItem) =>
        match skipBlanks afterItem with
        | [] => .error (.malformed .comma [])
        | mark :: rest =>
          if mark = close then .ok ([first], rest)
          else if mark = ',' then
            match separated item close (skipBlanks rest) with
            | .error failure => .error failure
            | .ok (more, rest) => .ok (first :: more, rest)
          else .error (.malformed .comma (mark :: rest)) := by
  rw [separated.eq_def]
  split
  · rename_i found
    simp only [found]
  · rename_i found
    simp only [found]
    split
    · rename_i blank
      simp only [blank]
    · rename_i blank
      rewrite [blank]
      rfl

theorem separated_error {text : List Char} {failure : Failure}
    (run : item.run text = .error failure) : separated item close text = .error failure := by
  rw [separated_eq, run]

theorem separated_last {text rest : List Char} {first : α}
    (run : item.run text = .ok (first, close :: rest)) (blank : NoBlank (close :: rest)) :
    separated item close text = .ok ([first], rest) := by
  have same : skipBlanks (close :: rest) = close :: rest := blank
  rw [separated_eq, run]
  simp only [same, if_true]

theorem separated_more {text rest : List Char} {first : α} (other : ',' ≠ close)
    (run : item.run text = .ok (first, ',' :: rest)) (blank : NoBlank rest) :
    separated item close text =
      match separated item close rest with
      | .error failure => .error failure
      | .ok (more, rest) => .ok (first :: more, rest) := by
  have same : skipBlanks rest = rest := blank
  have comma : skipBlanks (',' :: rest) = ',' :: rest := rfl
  rw [separated_eq, run]
  simp only [comma, if_neg other, if_true, same]

/-- What is written of a value, from which a reader gets it back. -/
structure Readable (limits : Limits) (item : Reader α) (x : α) (written : List Char)
    (numbers : List Int) : Prop where
  head : ∃ c more, written = c :: more ∧ isStart c = true
  run : ∀ rest, Ended rest → item.run (written ++ rest) = limits.outcome numbers x rest

def commaSeparated : List (List Char) → List Char
  | [] => []
  | [written] => written
  | written :: rest => written ++ ',' :: commaSeparated rest

variable {β : Type} {made : β → α} {written : β → List Char}

theorem commaSeparated_head {x : β} {numbers : List Int} (xs : List β)
    (readable : Readable limits item (made x) (written x) numbers) :
    ∃ c more, commaSeparated ((x :: xs).map written) = c :: more ∧ isStart c = true := by
  obtain ⟨c, more, first, start⟩ := readable.head
  cases xs with
  | nil => exact ⟨c, more, first, start⟩
  | cons y ys =>
    refine ⟨c, more ++ ',' :: commaSeparated ((y :: ys).map written), ?_, start⟩
    simp only [List.map_cons, commaSeparated, first, List.cons_append]

theorem separated_commaSeparated {xs : List β} {numbers : β → List Int}
    (rest : List Char) (closing : close = ']' ∨ close = '}') (present : xs ≠ [])
    (readable : ∀ x ∈ xs, Readable limits item (made x) (written x) (numbers x)) :
    separated item close (commaSeparated (xs.map written) ++ close :: rest) =
      limits.outcome (xs.flatMap numbers) (xs.map made) rest := by
  have other : ',' ≠ close := by rcases closing with rfl | rfl <;> decide
  have ended : Ended (close :: rest) := by
    intro c head
    cases head
    exact .inr closing
  induction xs with
  | nil => exact absurd rfl present
  | cons x xs ih =>
    have first := readable x (List.mem_cons_self ..)
    have others (more : xs ≠ []) :=
      ih more fun y member => readable y (List.mem_cons_of_mem _ member)
    rw [List.flatMap_cons, Limits.outcome, List.find?_append]
    cases xs with
    | nil =>
      have run := first.run _ ended
      rw [Limits.outcome] at run
      rw [List.flatMap_nil, List.find?_nil, Option.or_none]
      cases found : (numbers x).find? limits.refuses with
      | none =>
        rw [found] at run
        exact separated_last run ended.noBlank
      | some n =>
        rw [found] at run
        exact separated_error run
    | cons y ys =>
      have text : commaSeparated ((x :: y :: ys).map written) ++ close :: rest =
          written x ++ ',' :: (commaSeparated ((y :: ys).map written) ++ close :: rest) := by
        simp only [List.map_cons, commaSeparated, List.append_assoc, List.cons_append]
      have run := first.run (',' :: (commaSeparated ((y :: ys).map written) ++ close :: rest))
        (by intro c head; cases head; exact .inl rfl)
      rw [Limits.outcome] at run
      rw [text]
      cases found : (numbers x).find? limits.refuses with
      | none =>
        have blank : NoBlank (commaSeparated ((y :: ys).map written) ++ close :: rest) := by
          obtain ⟨c, more, begins, start⟩ := commaSeparated_head ys
            (readable y (List.mem_cons_of_mem _ (List.mem_cons_self ..)))
          rw [begins]
          exact noBlank_of_isStart (more ++ close :: rest) start
        rw [found] at run
        rw [separated_more other run blank, others (List.cons_ne_nil y ys), Option.none_or,
          Limits.outcome]
        cases ((y :: ys).flatMap numbers).find? limits.refuses <;> rfl
      | some n =>
        rw [found] at run
        exact separated_error run

theorem enclosed_commaSeparated {xs : List β} {numbers : β → List Int}
    {rest : List Char} (closing : close = ']' ∨ close = '}')
    (readable : ∀ x ∈ xs, Readable limits item (made x) (written x) (numbers x)) :
    enclosed item close (commaSeparated (xs.map written) ++ close :: rest) =
      limits.outcome (xs.flatMap numbers) (xs.map made) rest := by
  cases xs with
  | nil =>
    have blank : NoBlank (close :: rest) := by rcases closing with rfl | rfl <;> rfl
    rw [enclosed, List.map_nil, commaSeparated, List.nil_append, blank]
    exact if_pos rfl
  | cons x xs =>
    have whole := separated_commaSeparated rest closing (List.cons_ne_nil x xs) readable
    obtain ⟨c, more, begins, start⟩ := commaSeparated_head xs (readable x (List.mem_cons_self ..))
    have notClose : c ≠ close := by
      rintro rfl
      rcases closing with rfl | rfl <;> cases start
    rw [begins] at whole ⊢
    rw [enclosed, List.cons_append, noBlank_of_isStart _ start]
    exact (if_neg notClose).trans whole

end Separated

/-! Values -/

theorem itemsText_eq (items : List Json) : itemsText items = commaSeparated (items.map text) := by
  induction items with
  | nil => rfl
  | cons item rest ih =>
    cases rest with
    | nil => rfl
    | cons next rest =>
      rw [itemsText, ih]
      · rfl
      · exact List.cons_ne_nil _ _

def fieldText (field : String × Json) : List Char := stringText field.1 ++ ':' :: field.2.text

theorem fieldsText_eq (fields : List (String × Json)) :
    fieldsText fields = commaSeparated (fields.map fieldText) := by
  induction fields with
  | nil => rfl
  | cons field rest ih =>
    cases rest with
    | nil => rfl
    | cons next rest =>
      rw [fieldsText, ih]
      · rfl
      · exact List.cons_ne_nil _ _

/-- A field as it is read, with the letters of its name. -/
def letteredField (field : String × Json) : List Letter × Json :=
  (field.1.toList.map .char, field.2)

/-- A field is read from its text when its value is. -/
theorem readable_field {limits : Limits} {reader : Reader Json} {field : String × Json}
    (value : Readable limits reader field.2 field.2.text field.2.integers) :
    Readable limits (member reader) (letteredField field) (fieldText field)
      field.2.integers := by
  constructor
  · exact ⟨'"', _, by rw [fieldText, stringText]; rfl, by decide⟩
  · intro rest ended
    obtain ⟨c, more, begins, start⟩ := value.head
    have run := value.run rest ended
    have text : fieldText field ++ rest =
        '"' :: (field.1.toList.flatMap charText ++ '"' :: (':' :: (field.2.text ++ rest))) := by
      rw [fieldText, List.append_assoc, stringText_append, List.cons_append]
    have name := stringBody_text (field.1.toList.flatMap charText ++
      '"' :: (':' :: (field.2.text ++ rest))) field.1.toList (':' :: (field.2.text ++ rest))
    have colon : skipBlanks (':' :: (field.2.text ++ rest)) = ':' :: (field.2.text ++ rest) := rfl
    have blank : skipBlanks (field.2.text ++ rest) = field.2.text ++ rest := by
      rw [begins]
      exact noBlank_of_isStart (more ++ rest) start
    rw [Limits.outcome] at run ⊢
    rw [text, member]
    simp only [readMember, name, colon, blank, run]
    cases field.2.integers.find? limits.refuses <;> rfl

/-- Names begin with letters, one of them behind a minus sign. -/
theorem named_of_digit {c : Char} (digit : c.isDigit = true) (more : List Char) :
    named? (c :: more) = none ∧ named? ('-' :: c :: more) = none := by
  have other (letter : Char) (noDigit : letter.isDigit = false) : (letter == c) = false := by
    apply beq_false_of_ne
    rintro rfl
    rw [digit] at noDigit
    cases noDigit
  have letters := And.intro (other 'n' rfl) (And.intro (other 't' rfl) (And.intro (other 'f' rfl)
    (And.intro (other 'N' rfl) (And.intro (other 'I' rfl) (other '-' rfl)))))
  constructor
  all_goals simp [named?, names, List.find?, List.isPrefixOf, letters]

theorem named_signed (n : Int) (rest : List Char) : named? (signed n ++ rest) = none := by
  cases n with
  | ofNat m =>
    obtain ⟨c, more, begins, digit⟩ := decimal_head m
    rw [signed, begins]
    exact (named_of_digit digit (more ++ rest)).1
  | negSucc m =>
    obtain ⟨c, more, begins, digit⟩ := decimal_head (m + 1)
    rw [signed, List.cons_append, begins]
    exact (named_of_digit digit (more ++ rest)).2

theorem run_valueReader (limits : Limits) (depth : Nat) (text : List Char) :
    (valueReader limits depth).run text = readValue limits
      (match depth with | 0 => none | depth + 1 => some (valueReader limits depth)) text := by
  cases depth <;> rfl

theorem Limits.outcome_nil {α : Type} (limits : Limits) (value : α) (rest : List Char) :
    limits.outcome [] value rest = .ok (value, rest) := rfl

theorem readContainer_of_outcome {α : Type} {limits : Limits} (container : Container)
    {close : Char} {make : List α → Json} {item : Reader α} {text rest : List Char}
    {numbers : List Int} {values : List α}
    (read : enclosed item close text = limits.outcome numbers values rest) :
    readContainer container close make (some item) text =
      limits.outcome numbers (make values) rest := by
  rw [Limits.outcome] at read ⊢
  rw [readContainer]
  simp only [read]
  cases numbers.find? limits.refuses <;> rfl

/-- Names without halves of characters are shown as they are, and different ones have different
letters. -/
theorem objectOf_lettered {fields : List (String × Json)}
    (distinct : (fields.map Prod.fst).Nodup) :
    objectOf (fields.map letteredField) = .object fields := by
  have letters : ((fields.map letteredField).map Prod.fst).Nodup := by
    have apart := distinct.map (f := fun name : String => name.toList.map Letter.char) <| by
      intro s t same
      have shown := congrArg shownText same
      rwa [shownText_char, shownText_char] at shown
    rw [List.map_map] at apart ⊢
    exact apart
  have shown : (fun field : List Letter × Json => (shownText field.1, field.2)) ∘ letteredField =
      id := funext fun field => Prod.ext (shownText_char field.1) rfl
  rw [objectOf, Table.entries_ofList letters, List.map_map, shown, List.map_id]

theorem readValue_signed {rest : List Char} (limits : Limits) (inner : Option (Reader Json))
    (n : Int) (ended : Ended rest) :
    readValue limits inner (signed n ++ rest) = limits.outcome [n] (.int n) rest := by
  have unnamed := named_signed n rest
  have read := number_signed limits n ended
  obtain ⟨c, more, begins, head⟩ := signed_head n
  have other := ne_of_head head
  rw [begins, List.cons_append] at unnamed read ⊢
  rw [readValue, unnamed]
  · exact read
  · exact fun _ same => other '"' rfl (by decide) (List.cons.inj same).1
  · exact fun _ same => other '[' rfl (by decide) (List.cons.inj same).1
  · exact fun _ same => other '{' rfl (by decide) (List.cons.inj same).1

/-- A value comes back from its text, however many arrays and objects may still be opened beyond
those in it. -/
theorem Legible.readable (limits : Limits) {depth : Nat} {value : Json}
    (legible : Legible depth value) :
    Readable limits (valueReader limits depth) value value.text value.integers := by
  refine ⟨text_head legible, ?_⟩
  induction legible with
  | null =>
    intro rest _
    have none : integers .null = [] := rfl
    rw [run_valueReader, none, Limits.outcome_nil]
    simp [text, readValue, named?, names, List.isPrefixOf]
  | bool b =>
    intro rest _
    have none : integers (.bool b) = [] := rfl
    rw [run_valueReader, none, Limits.outcome_nil]
    cases b
    all_goals simp [text, readValue, named?, names, List.find?, List.isPrefixOf]
  | int n =>
    intro rest ended
    rw [run_valueReader, text]
    exact readValue_signed limits _ n ended
  | string s =>
    intro rest _
    have body := stringBody_text (s.toList.flatMap charText ++ '"' :: rest) s.toList rest
    have none : integers (.string s) = [] := rfl
    rw [run_valueReader, text, stringText_append, none, Limits.outcome_nil]
    simp only [readValue, body, stringOf_char]
  | @array depth items inner ih =>
    intro rest ended
    have readable : ∀ item ∈ items,
        Readable limits (valueReader limits depth) (id item) item.text item.integers := by
      intro item listed
      exact ⟨text_head (inner item listed), ih item listed⟩
    rw [run_valueReader, text, itemsText_eq, integers, integersOfItems_eq, List.append_assoc,
      List.singleton_append]
    have read : enclosed (valueReader limits depth) ']'
        (commaSeparated (items.map text) ++ ']' :: rest) = _ :=
      enclosed_commaSeparated (.inl rfl) readable
    rw [List.map_id] at read
    exact readContainer_of_outcome .array read
  | @object depth fields distinct inner ih =>
    intro rest ended
    have readable : ∀ field ∈ fields,
        Readable limits (member (valueReader limits depth)) (letteredField field)
          (fieldText field) field.2.integers := by
      intro field listed
      exact readable_field ⟨text_head (inner field listed), ih field listed⟩
    rw [run_valueReader, text, fieldsText_eq, integers, integersOfFields_eq, List.append_assoc,
      List.singleton_append, ← objectOf_lettered distinct]
    exact readContainer_of_outcome .object
      (enclosed_commaSeparated (.inr rfl) readable)

/-- A whole text is read back as its value, unless one of the numbers in it is refused. -/
theorem read_text {limits : Limits} {value : Json} (legible : Legible limits.depth value) :
    read limits value.text =
      match value.integers.find? limits.refuses with
      | none => .ok value
      | some n => .error (.tooManyDigits (digitCount n)) := by
  obtain ⟨c, more, begins, start⟩ := text_head legible
  have noMark : ¬ value.text.head? = some (Char.ofNat 0xFEFF) := by
    intro head
    rw [begins, List.head?_cons, Option.some.injEq] at head
    rw [head] at start
    cases start
  have blank : skipBlanks value.text = value.text := by
    rw [begins]
    exact noBlank_of_isStart more start
  have run := (legible.readable limits).run [] (by intro c head; cases head)
  rw [List.append_nil, Limits.outcome] at run
  rw [read, if_neg noMark, blank, run]
  cases value.integers.find? limits.refuses <;> rfl

end CounterArchive.Json
