import CounterArchive.Text.Blank

/-! Numerals in a base, written without leading zeros and read digit by digit. In what is read,
single underscores may stand between digits. -/
namespace CounterArchive.Numeral

def digitChar (d : Nat) : Char := Char.ofNat (if d < 10 then 48 + d else 87 + d)

/-- The digits of `n` in a base, written in front of `rest`. -/
def digitsOnto (base n : Nat) (rest : List Char) : List Char :=
  if base ≤ n ∧ 2 ≤ base then digitsOnto base (n / base) (digitChar (n % base) :: rest)
  else digitChar n :: rest
termination_by n
decreasing_by exact Nat.div_lt_self (by omega) (by omega)

def decimal (n : Nat) : List Char := digitsOnto 10 n []

def hexadecimal (n : Nat) : List Char := digitsOnto 16 n []

def signed : Int → List Char
  | .ofNat n => decimal n
  | .negSucc n => '-' :: decimal (n + 1)

def decimalText (n : Nat) : String := String.ofList (decimal n)

def signedText (n : Int) : String := String.ofList (signed n)

def padded (width : Nat) (digits : List Char) : List Char :=
  List.replicate (width - digits.length) '0' ++ digits

def asciiDigit? (c : Char) : Option Nat := if c.isDigit then some (c.toNat - 48) else none

def hexDigit? (c : Char) : Option Nat :=
  if c.isDigit then some (c.toNat - 48)
  else if 'a' ≤ c ∧ c ≤ 'f' then some (c.toNat - 87)
  else if 'A' ≤ c ∧ c ≤ 'F' then some (c.toNat - 55)
  else none

def value (base : Nat) (digits : List Nat) : Nat := digits.foldl (fun n d => base * n + d) 0

def spanDigits (digit? : Char → Option Nat) : List Char → List Nat × List Char
  | [] => ([], [])
  | c :: rest =>
    match digit? c with
    | some d => let (digits, rest) := spanDigits digit? rest; (d :: digits, rest)
    | none => ([], c :: rest)

theorem length_spanDigits (digit? : Char → Option Nat) (text : List Char) :
    (spanDigits digit? text).1.length + (spanDigits digit? text).2.length = text.length := by
  induction text with
  | nil => rfl
  | cons c rest ih =>
    simp only [spanDigits]
    split
    · simp only [List.length_cons]
      omega
    · simp

def someDigits? (digit? : Char → Option Nat) (text : List Char) :
    Option (List Nat × List Char) :=
  if (spanDigits digit? text).1 = [] then none else some (spanDigits digit? text)

theorem length_someDigits? {digit? : Char → Option Nat} {text rest : List Char}
    {digits : List Nat} (h : someDigits? digit? text = some (digits, rest)) :
    rest.length < text.length := by
  unfold someDigits? at h
  split at h
  · simp at h
  · have := length_spanDigits digit? text
    simp only [Option.some.injEq] at h
    have : digits.length ≠ 0 := by simp_all
    simp only [h] at *
    omega

/-- The longest beginning of a text that consists of digits and underscores, and what follows
it. There is none unless every underscore stands between two digits. The flag says that the
text follows a digit. -/
def spanGrouped (digit? : Char → Option Nat) : Bool → List Char → Option (List Nat × List Char)
  | afterDigit, [] => if afterDigit then some ([], []) else none
  | afterDigit, c :: rest =>
    match digit? c with
    | some d => do
      let (digits, rest) ← spanGrouped digit? true rest
      return (d :: digits, rest)
    | none =>
      if !afterDigit then none
      else if c = '_' then spanGrouped digit? false rest
      else some ([], c :: rest)

def takeSign : List Char → Bool × List Char
  | '-' :: rest => (true, rest)
  | '+' :: rest => (false, rest)
  | text => (false, text)

theorem length_takeSign_le (text : List Char) : (takeSign text).2.length ≤ text.length := by
  unfold takeSign
  split <;> simp

def withSign (negative : Bool) (n : Nat) : Int := if negative then -n else n

def digitLimit : Nat := 4300

inductive Fault where
  | malformed
  | tooLong (digits : Nat)
deriving DecidableEq

def tooLongMessage (digits : Nat) : String :=
  "Exceeds the limit (" ++ decimalText digitLimit ++
    " digits) for integer string conversion: value has " ++ decimalText digits ++
    " digits; use sys.set_int_max_str_digits() to increase the limit"

/-- Reads a whole number: blanks, an optional sign, digits, blanks. -/
def readSigned (digit? : Char → Option Nat) (text : List Char) : Except Fault Int :=
  let (negative, body) := takeSign (Text.trim text)
  match spanGrouped digit? false body with
  | none => .error .malformed
  | some (digits, rest) =>
    if digitLimit < digits.length then .error (.tooLong digits.length)
    else if rest ≠ [] then .error .malformed
    else .ok (withSign negative (value 10 digits))

end CounterArchive.Numeral
