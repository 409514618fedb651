import CounterArchive.Numeral

/-! Plain numerals, which have neither zeros in front nor a plus sign, and loose ones, which are
made plain before they are read: blanks around them, a plus sign, zeros in front, underscores
between digits and an empty fraction are left out. -/
namespace CounterArchive.Numeral

def takeMinus : List Char → Bool × List Char
  | '-' :: rest => (true, rest)
  | text => (false, text)

theorem length_takeMinus_le (text : List Char) : (takeMinus text).2.length ≤ text.length := by
  unfold takeMinus
  split <;> simp

/-- The digits at the beginning of a text: a lone zero, or digits of which the first is none. -/
def plainDigits? : List Char → Option (List Nat × List Char)
  | '0' :: rest => some ([0], rest)
  | text => someDigits? asciiDigit? text

theorem length_plainDigits? {text rest : List Char} {digits : List Nat}
    (h : plainDigits? text = some (digits, rest)) : rest.length < text.length := by
  unfold plainDigits? at h
  split at h
  · simp only [Option.some.injEq, Prod.mk.injEq] at h
    simp [h.2]
  · exact length_someDigits? h

def readPlain (text : List Char) : Except Fault Int :=
  let (negative, body) := takeMinus text
  match plainDigits? body with
  | none => .error .malformed
  | some (digits, rest) =>
    if digitLimit < digits.length then .error (.tooLong digits.length)
    else if rest ≠ [] then .error .malformed
    else .ok (withSign negative (value 10 digits))

/-- What follows zeros, and underscores among them. The last of them, which came before the text,
stays where no more than a fraction follows. -/
def afterZeros (last : Char) : List Char → List Char
  | [] => [last]
  | c :: rest =>
    if c = '0' ∨ c = '_' then afterZeros c rest
    else if c = '.' then last :: c :: rest
    else c :: rest

def dropZeros? : List Char → Option (List Char)
  | [] => none
  | c :: rest =>
    if c = '0' then some (afterZeros c rest)
    else if c.isDigit then some (c :: rest)
    else none

/-- A text without its fraction, which has to be empty: zeros behind a point, at least one. -/
def dropFraction? (text : List Char) : Option (List Char) :=
  match text.dropWhile (· ≠ '.') with
  | [] => some text
  | _ :: zeros =>
    if zeros ≠ [] ∧ zeros.all (· = '0') then some (text.takeWhile (· ≠ '.')) else none

/-- A text without its underscores, each of which has to stand between two other characters. The
flag says that the text follows such a character. -/
def joinGroups? : Bool → List Char → Option (List Char)
  | afterOther, [] => if afterOther then some [] else none
  | afterOther, c :: rest =>
    if c ≠ '_' then (c :: ·) <$> joinGroups? true rest
    else if afterOther then joinGroups? false rest
    else none

/-- A loose numeral made plain, as far as it can be. Zeros are left out before a minus sign too,
unless there is one in front of them. -/
def makePlain? (text : List Char) : Option (List Char) := do
  let (negative, body) := takeSign (Text.trim text)
  let body ← joinGroups? false (← dropFraction? (← dropZeros? body))
  return if negative then '-' :: body else body

/-- Reads a whole number from a plain numeral or a loose one. Too many digits are a fault of
their own only where the text begins like a plain numeral. -/
def readLoose (text : List Char) : Except Fault Int :=
  match readPlain text with
  | .error .malformed =>
    match (makePlain? text).map readPlain with
    | some (.ok n) => .ok n
    | _ => .error .malformed
  | read => read

end CounterArchive.Numeral
