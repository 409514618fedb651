import CounterArchive.Json.Basic
import CounterArchive.Numeral.Plain

/-! Reading JSON texts. Beside the numbers of the standard, `NaN` and the two infinities are
read. How many digits a whole number may have and how deep arrays and objects may nest is up to
the caller. The first fault ends the reading; it is reported with the text from there on. -/
namespace CounterArchive.Json

inductive Flaw where
  | byteOrderMark
  | value
  | propertyName
  | colon
  | comma
  | unterminated
  | controlCharacter
  | escape
  | unicodeEscape
  | extraData
deriving DecidableEq

def Flaw.message : Flaw → String
  | .byteOrderMark => "Unexpected UTF-8 BOM (decode using utf-8-sig)"
  | .value => "Expecting value"
  | .propertyName => "Expecting property name enclosed in double quotes"
  | .colon => "Expecting ':' delimiter"
  | .comma => "Expecting ',' delimiter"
  | .unterminated => "Unterminated string starting at"
  | .controlCharacter => "Invalid control character at"
  | .escape => "Invalid \\escape"
  | .unicodeEscape => "Invalid \\uXXXX escape"
  | .extraData => "Extra data"

inductive Container where
  | array
  | object
deriving DecidableEq

inductive Failure where
  /-- The text is flawed, from `rest` on. -/
  | malformed (flaw : Flaw) (rest : List Char)
  | tooManyDigits (digits : Nat)
  | tooDeep (container : Container)
deriving DecidableEq

/-- The number of the line, of the column, both from 1, and of the character, from 0, that comes
after a beginning of a text. -/
def position (before : List Char) : Nat × Nat × Nat :=
  let line := before.reverse.takeWhile (· ≠ '\n')
  (before.count '\n' + 1, line.length + 1, before.length)

def Failure.message (text : List Char) : Failure → String
  | .malformed flaw rest =>
    let (line, column, offset) := position (text.take (text.length - rest.length))
    flaw.message ++ ": line " ++ Numeral.decimalText line ++ " column " ++
      Numeral.decimalText column ++ " (char " ++ Numeral.decimalText offset ++ ")"
  | .tooManyDigits digits => Numeral.tooLongMessage digits
  | .tooDeep container =>
    "maximum recursion depth exceeded while decoding a JSON " ++
      (match container with | .array => "array" | .object => "object") ++ " from a unicode string"

structure Limits where
  /-- The most digits of a whole number, if there is a bound. -/
  digits : Option Nat
  /-- How many arrays and objects may be open at once. -/
  depth : Nat

structure Reader (α : Type) where
  run : List Char → Except Failure (α × List Char)
  consumes : ∀ {text value rest}, run text = .ok (value, rest) → rest.length < text.length

def skipBlanks (text : List Char) : List Char :=
  text.dropWhile fun c => c = ' ' || c = '\t' || c = '\n' || c = '\r'

theorem length_skipBlanks_le (text : List Char) : (skipBlanks text).length ≤ text.length :=
  (List.dropWhile_sublist _).length_le

/-! Strings -/

/-- What a string is made of: characters, and halves of such that stand alone. -/
inductive Letter where
  | char (c : Char)
  | half (n : Nat)
deriving DecidableEq

namespace Letter

def isHalf : Letter → Bool
  | .char _ => false
  | .half _ => true

def shown : Letter → Char
  | .char c => c
  | .half _ => Char.ofNat 0xFFFD

end Letter

def shownText (letters : List Letter) : String := String.ofList (letters.map Letter.shown)

def stringOf (letters : List Letter) : Json :=
  if letters.any Letter.isHalf then .halved (shownText letters) else .string (shownText letters)

/-- An object in which each name occurs once: the last value for a name wins, in the place of
the first. Names with different halves are different ones. -/
def objectOf (fields : List (List Letter × Json)) : Json :=
  .object ((Table.ofList fields).entries.map fun (name, value) => (shownText name, value))

def unescaped? (c : Char) : Option Char :=
  if c = '"' ∨ c = '\\' ∨ c = '/' then some c
  else if c = 'b' then some '\x08'
  else if c = 'f' then some '\x0c'
  else if c = 'n' then some '\n'
  else if c = 'r' then some '\r'
  else if c = 't' then some '\t'
  else none

/-- The first half of a character beyond the 16-bit range. -/
def isHighHalf (n : Nat) : Bool := 0xD800 ≤ n && n ≤ 0xDBFF

def isLowHalf (n : Nat) : Bool := 0xDC00 ≤ n && n ≤ 0xDFFF

def letterOfUnit (n : Nat) : Letter :=
  if isHighHalf n || isLowHalf n then .half n else .char (Char.ofNat n)

def joinHalves (high low : Nat) : Char :=
  Char.ofNat (0x10000 + (high - 0xD800) * 0x400 + (low - 0xDC00))

def hexNumber (digits : List Char) : Option Nat :=
  (digits.mapM Numeral.hexDigit?).map (Numeral.value 16)

/-- The letter of a `u` escape, from its first digit on. Behind the first half of a character
an escaped second half belongs to the escape. Neither the one nor the other may stand at the end
of the text. -/
def unicodeEscape (text : List Char) : Except Failure (Letter × List Char) :=
  match text with
  | a :: b :: c :: d :: rest =>
    match hexNumber [a, b, c, d] with
    | none => .error (.malformed .unicodeEscape ('u' :: text))
    | some first =>
      if rest = [] then .error (.malformed .unicodeEscape ('u' :: text))
      else
        match rest with
        | '\\' :: 'u' :: e :: f :: g :: h :: more =>
          if !isHighHalf first || more = [] then .ok (letterOfUnit first, rest)
          else
            match hexNumber [e, f, g, h] with
            | none => .error (.malformed .unicodeEscape ('u' :: e :: f :: g :: h :: more))
            | some second =>
              if isLowHalf second then .ok (.char (joinHalves first second), more)
              else .ok (letterOfUnit first, rest)
        | _ => .ok (letterOfUnit first, rest)
  | _ => .error (.malformed .unicodeEscape ('u' :: text))

theorem length_unicodeEscape {text rest : List Char} {letter : Letter}
    (h : unicodeEscape text = .ok (letter, rest)) : rest.length < text.length := by
  unfold unicodeEscape at h
  repeat' split at h
  all_goals simp only [Except.ok.injEq, Prod.mk.injEq, reduceCtorEq] at h
  all_goals
    obtain ⟨-, rfl⟩ := h
    simp only [List.length_cons]
    omega

/-- One letter of a string whose quote opened it in front of `opened`, or the closing quote. -/
def stringUnit (opened : List Char) : List Char → Except Failure (Option Letter × List Char)
  | [] => .error (.malformed .unterminated ('"' :: opened))
  | '"' :: rest => .ok (none, rest)
  | ['\\'] => .error (.malformed .unterminated ('"' :: opened))
  | '\\' :: 'u' :: rest =>
    match unicodeEscape rest with
    | .error failure => .error failure
    | .ok (letter, rest) => .ok (some letter, rest)
  | '\\' :: c :: rest =>
    match unescaped? c with
    | some c => .ok (some (.char c), rest)
    | none => .error (.malformed .escape ('\\' :: c :: rest))
  | c :: rest =>
    if c.toNat < 0x20 then .error (.malformed .controlCharacter (c :: rest))
    else .ok (some (.char c), rest)

theorem length_stringUnit {opened text rest : List Char} {unit : Option Letter}
    (h : stringUnit opened text = .ok (unit, rest)) : rest.length < text.length := by
  unfold stringUnit at h
  split at h
  case h_4 =>
    split at h
    all_goals simp only [Except.ok.injEq, Prod.mk.injEq, reduceCtorEq] at h
    rename_i found
    obtain ⟨-, rfl⟩ := h
    have := length_unicodeEscape found
    simp only [List.length_cons]
    omega
  all_goals repeat' split at h
  all_goals simp only [Except.ok.injEq, Prod.mk.injEq, reduceCtorEq] at h
  all_goals
    obtain ⟨-, rfl⟩ := h
    simp only [List.length_cons]
    omega

def stringBody (opened text : List Char) : Except Failure (List Letter × List Char) :=
  match _ : stringUnit opened text with
  | .error failure => .error failure
  | .ok (none, rest) => .ok ([], rest)
  | .ok (some letter, rest) =>
    match stringBody opened rest with
    | .error failure => .error failure
    | .ok (more, rest) => .ok (letter :: more, rest)
termination_by text.length
decreasing_by exact length_stringUnit ‹_›

theorem length_stringBody {opened text rest : List Char} {body : List Letter}
    (h : stringBody opened text = .ok (body, rest)) : rest.length < text.length := by
  fun_induction stringBody opened text generalizing body rest with
  | case1 => simp at h
  | case2 text after found =>
    simp only [Except.ok.injEq, Prod.mk.injEq] at h
    exact h.2 ▸ length_stringUnit found
  | case3 => simp at h
  | case4 text letter after found more last read ih =>
    simp only [Except.ok.injEq, Prod.mk.injEq] at h
    exact h.2 ▸ Nat.lt_trans (ih read) (length_stringUnit found)

/-! Numbers and names -/

/-- What has a name, in any place where a value can stand. -/
def names : List (List Char × Json) :=
  [("null".toList, .null), ("true".toList, .bool true), ("false".toList, .bool false),
   ("NaN".toList, .float .nan), ("Infinity".toList, .float (.infinite false)),
   ("-Infinity".toList, .float (.infinite true))]

def named? (text : List Char) : Option (Json × List Char) :=
  (names.find? fun entry => entry.1.isPrefixOf text).map fun (name, value) =>
    (value, text.drop name.length)

def fraction : List Char → Option (List Nat) × List Char
  | '.' :: text =>
    match Numeral.someDigits? Numeral.asciiDigit? text with
    | none => (none, '.' :: text)
    | some (digits, rest) => (some digits, rest)
  | text => (none, text)

def exponent : List Char → Option Int × List Char
  | [] => (none, [])
  | mark :: text =>
    if mark = 'e' ∨ mark = 'E' then
      match Numeral.someDigits? Numeral.asciiDigit? (Numeral.takeSign text).2 with
      | none => (none, mark :: text)
      | some (digits, rest) =>
        (some (Numeral.withSign (Numeral.takeSign text).1 (Numeral.value 10 digits)), rest)
    else (none, mark :: text)

/-- A number with a fraction or a power of ten is a float, any other a whole number. -/
def number (limits : Limits) (text : List Char) : Except Failure (Json × List Char) :=
  let (negative, body) := Numeral.takeMinus text
  match Numeral.plainDigits? body with
  | none => .error (.malformed .value text)
  | some (whole, rest) =>
    let (part, rest) := fraction rest
    let (power, rest) := exponent rest
    match part, power with
    | none, none =>
      if limits.digits.any (· < whole.length) then .error (.tooManyDigits whole.length)
      else .ok (.int (Numeral.withSign negative (Numeral.value 10 whole)), rest)
    | part, power =>
      let part := part.getD []
      .ok (.float (Binary64.ofDecimal negative (whole ++ part) (power.getD 0 - part.length)), rest)

theorem length_named? {text rest : List Char} {value : Json}
    (h : named? text = some (value, rest)) : rest.length < text.length := by
  simp only [named?, Option.map_eq_some_iff, Prod.mk.injEq] at h
  obtain ⟨⟨name, _⟩, found, -, rfl⟩ := h
  have listed := List.mem_of_find?_eq_some found
  have begins : name.isPrefixOf text := by simpa using List.find?_some found
  have := (List.isPrefixOf_iff_prefix.mp begins).length_le
  have nonempty : 0 < name.length := by
    simp only [names, List.mem_cons, Prod.mk.injEq, List.not_mem_nil, or_false] at listed
    rcases listed with h | h | h | h | h | h <;> simp [h.1]
  simp only [List.length_drop] at *
  omega

theorem length_fraction_le (text : List Char) : (fraction text).2.length ≤ text.length := by
  unfold fraction
  split
  · split
    · exact Nat.le_refl _
    · rename_i found
      have := Numeral.length_someDigits? found
      simp only [List.length_cons]
      omega
  · exact Nat.le_refl _

theorem length_exponent_le (text : List Char) : (exponent text).2.length ≤ text.length := by
  unfold exponent
  split
  · exact Nat.le_refl _
  · rename_i mark text
    split
    · split
      · exact Nat.le_refl _
      · rename_i found
        have := Numeral.length_someDigits? found
        have := Numeral.length_takeSign_le text
        simp only [List.length_cons]
        omega
    · exact Nat.le_refl _

theorem length_number {limits : Limits} {text rest : List Char} {value : Json}
    (h : number limits text = .ok (value, rest)) : rest.length < text.length := by
  have minus := Numeral.length_takeMinus_le text
  unfold number at h
  dsimp only at h
  split at h
  · simp at h
  · rename_i whole after found
    have := Numeral.length_plainDigits? found
    have := length_fraction_le after
    have := length_exponent_le (fraction after).2
    repeat' split at h
    all_goals simp only [Except.ok.injEq, Prod.mk.injEq, reduceCtorEq] at h
    all_goals
      obtain ⟨-, rfl⟩ := h
      omega

/-! Arrays, objects and values -/

/-- Items between commas, up to the closing mark; there is at least one. -/
def separated {α : Type} (item : Reader α) (close : Char) (text : List Char) :
    Except Failure (List α × List Char) :=
  match _ : item.run text with
  | .error failure => .error failure
  | .ok (first, afterItem) =>
    match _ : skipBlanks afterItem with
    | [] => .error (.malformed .comma [])
    | mark :: rest =>
      if mark = close then .ok ([first], rest)
      else if mark = ',' then
        match separated item close (skipBlanks rest) with
        | .error failure => .error failure
        | .ok (more, rest) => .ok (first :: more, rest)
      else .error (.malformed .comma (mark :: rest))
termination_by text.length
decreasing_by
  have := item.consumes ‹_›
  have := length_skipBlanks_le afterItem
  have := length_skipBlanks_le rest
  simp only [‹skipBlanks afterItem = _›, List.length_cons] at *
  omega

theorem length_separated {α : Type} {item : Reader α} {close : Char} {text rest : List Char}
    {values : List α} (h : separated item close text = .ok (values, rest)) :
    rest.length < text.length := by
  fun_induction separated item close text generalizing values rest with
  | case1 => simp at h
  | case2 => simp at h
  | case3 text first afterItem read after found =>
    have := item.consumes read
    have := length_skipBlanks_le afterItem
    simp only [found, List.length_cons, Except.ok.injEq, Prod.mk.injEq] at *
    obtain ⟨-, rfl⟩ := h
    omega
  | case4 => simp at h
  | case5 text first afterItem read after more last again found _ ih =>
    have := item.consumes read
    have := length_skipBlanks_le afterItem
    have := length_skipBlanks_le after
    have := ih again
    simp only [found, List.length_cons, Except.ok.injEq, Prod.mk.injEq] at *
    obtain ⟨-, rfl⟩ := h
    omega
  | case6 => simp at h

def enclosed {α : Type} (item : Reader α) (close : Char) (text : List Char) :
    Except Failure (List α × List Char) :=
  match skipBlanks text with
  | [] => separated item close []
  | mark :: rest => if mark = close then .ok ([], rest) else separated item close (mark :: rest)

theorem length_enclosed_le {α : Type} {item : Reader α} {close : Char} {text rest : List Char}
    {values : List α} (h : enclosed item close text = .ok (values, rest)) :
    rest.length ≤ text.length := by
  have blanks := length_skipBlanks_le text
  unfold enclosed at h
  split at h
  · exact absurd (length_separated h) (by simp)
  · rename_i mark after found
    rw [found] at blanks
    split at h
    · simp only [Except.ok.injEq, Prod.mk.injEq] at h
      obtain ⟨-, rfl⟩ := h
      exact Nat.le_trans (Nat.le_succ _) blanks
    · exact Nat.le_trans (Nat.le_of_lt (length_separated h)) blanks

def readMember (value : Reader Json) :
    List Char → Except Failure ((List Letter × Json) × List Char)
  | '"' :: text =>
    match stringBody text text with
    | .error failure => .error failure
    | .ok (name, rest) =>
      match skipBlanks rest with
      | ':' :: rest =>
        match value.run (skipBlanks rest) with
        | .error failure => .error failure
        | .ok (value, rest) => .ok ((name, value), rest)
      | rest => .error (.malformed .colon rest)
  | text => .error (.malformed .propertyName text)

theorem length_readMember {value : Reader Json} {text rest : List Char}
    {found : List Letter × Json}
    (h : readMember value text = .ok (found, rest)) : rest.length < text.length := by
  unfold readMember at h
  repeat' split at h
  all_goals simp only [Except.ok.injEq, Prod.mk.injEq, reduceCtorEq] at h
  rename_i text _ name afterName named _ afterColon blank _ value after read
  obtain ⟨-, rfl⟩ := h
  have := length_stringBody named
  have := length_skipBlanks_le afterName
  have := length_skipBlanks_le afterColon
  have := Reader.consumes _ read
  simp only [blank, List.length_cons] at *
  omega

def member (value : Reader Json) : Reader (List Letter × Json) :=
  ⟨readMember value, length_readMember⟩

/-- An array or object behind the mark that opens it. What is in it is read with `inner`, if it
may be there at all. -/
def readContainer {α : Type} (container : Container) (close : Char) (make : List α → Json)
    (inner : Option (Reader α)) (text : List Char) : Except Failure (Json × List Char) :=
  match inner with
  | none => .error (.tooDeep container)
  | some item =>
    match enclosed item close text with
    | .error failure => .error failure
    | .ok (items, rest) => .ok (make items, rest)

theorem length_readContainer_le {α : Type} {container : Container} {close : Char}
    {make : List α → Json} {inner : Option (Reader α)} {text rest : List Char} {value : Json}
    (h : readContainer container close make inner text = .ok (value, rest)) :
    rest.length ≤ text.length := by
  unfold readContainer at h
  repeat' split at h
  all_goals simp only [Except.ok.injEq, Prod.mk.injEq, reduceCtorEq] at h
  rename_i read
  obtain ⟨-, rfl⟩ := h
  exact length_enclosed_le read

/-- One value; `inner` reads what stands in arrays and objects, if they may nest any deeper. -/
def readValue (limits : Limits) (inner : Option (Reader Json)) :
    List Char → Except Failure (Json × List Char)
  | '"' :: text =>
    match stringBody text text with
    | .error failure => .error failure
    | .ok (body, rest) => .ok (stringOf body, rest)
  | '[' :: text => readContainer .array ']' .array inner text
  | '{' :: text => readContainer .object '}' objectOf (inner.map member) text
  | text =>
    match named? text with
    | some found => .ok found
    | none => number limits text

theorem length_readValue {limits : Limits} {inner : Option (Reader Json)} {text rest : List Char}
    {value : Json} (h : readValue limits inner text = .ok (value, rest)) :
    rest.length < text.length := by
  unfold readValue at h
  split at h
  · split at h
    all_goals simp only [Except.ok.injEq, Prod.mk.injEq, reduceCtorEq] at h
    rename_i read
    obtain ⟨-, rfl⟩ := h
    exact Nat.lt_succ_of_lt (length_stringBody read)
  · exact Nat.lt_succ_of_le (length_readContainer_le h)
  · exact Nat.lt_succ_of_le (length_readContainer_le h)
  · split at h
    · rename_i found
      simp only [Except.ok.injEq] at h
      exact length_named? (h ▸ found)
    · exact length_number h

/-- A reader of values in which so many arrays and objects may be open at once. -/
def valueReader (limits : Limits) : Nat → Reader Json
  | 0 => ⟨readValue limits none, length_readValue⟩
  | depth + 1 => ⟨readValue limits (some (valueReader limits depth)), length_readValue⟩

def read (limits : Limits) (text : List Char) : Except Failure Json :=
  if text.head? = some (Char.ofNat 0xFEFF) then .error (.malformed .byteOrderMark text)
  else do
    let (value, rest) ← (valueReader limits limits.depth).run (skipBlanks text)
    let rest := skipBlanks rest
    if rest = [] then return value else throw (.malformed .extraData rest)

end CounterArchive.Json
