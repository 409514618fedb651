import CounterArchive.Binary64
import CounterArchive.Calendar.DateTime

/-! The texts and numbers that are read as a date and time: a date with a time of day behind it, a
count of seconds or milliseconds from the beginning of 1970, or a date alone. Dates of the year 0
are understood, but they lie outside the calendar. -/
namespace CounterArchive.DateTime

inductive Reading where
  | moment (t : DateTime)
  | yearZero

def takeDigits (count : Nat) (text : List Char) : Option (Nat × List Char) := do
  let digits ← (text.take count).mapM Numeral.asciiDigit?
  if digits.length = count then some (Numeral.value 10 digits, text.drop count) else none

def takeDate (text : List Char) : Option (Option Date × List Char) := do
  let (year, text) ← takeDigits 4 text
  let '-' :: text := text | none
  let (month, text) ← takeDigits 2 text
  let '-' :: text := text | none
  let (day, text) ← takeDigits 2 text
  if 1 ≤ day ∧ day ≤ daysInMonth year month then some (Date.of? year month day, text) else none

/-- The digits behind a point as microseconds: the first six, zeros standing for missing ones. -/
def microseconds (digits : List Nat) : Nat :=
  Numeral.value 10 (digits.take 6 ++ List.replicate (6 - digits.length) 0)

/-- A part of a second, behind a point or a comma, if there is one. A point without digits is a
fault. -/
def takeFraction : List Char → Option (Nat × List Char)
  | mark :: text =>
    if mark = '.' ∨ mark = ',' then
      match Numeral.spanDigits Numeral.asciiDigit? text with
      | ([], _) => none
      | (digits, text) => some (microseconds digits, text)
    else some (0, mark :: text)
  | [] => some (0, [])

def takeTime (text : List Char) : Option (TimeOfDay × List Char) := do
  let (hour, text) ← takeDigits 2 text
  let ':' :: text := text | none
  let (minute, text) ← takeDigits 2 text
  match text with
  | ':' :: text =>
    let (second, text) ← takeDigits 2 text
    let (micro, text) ← takeFraction text
    return (← TimeOfDay.of? hour minute second micro, text)
  | text => return (← TimeOfDay.of? hour minute 0 0, text)

/-- The sign of an offset; a minus sign proper will do for the hyphen. -/
def offsetSign? (c : Char) : Option Int :=
  if c = '+' then some 1 else if c = '-' ∨ c = '−' then some (-1) else none

def readOffset : List Char → Option (Option Offset)
  | [] => some none
  | ['Z'] => some (some .utc)
  | ['z'] => some (some .utc)
  | mark :: text => do
    let sign ← offsetSign? mark
    let (hours, text) ← takeDigits 2 text
    let (minutes, text) ← takeDigits 2 (if text.head? = some ':' then text.tail else text)
    if text = [] ∧ minutes < 60 then
      return some (← Offset.ofMinutes? (sign * (60 * hours + minutes)))
    else none

def isSeparator (c : Char) : Bool := c = 'T' || c = 't' || c = ' ' || c = '_'

def ofParts (date : Option Date) (time : TimeOfDay) (offset : Option Offset) : Reading :=
  match date with
  | some date => .moment ⟨date, time, offset⟩
  | none => .yearZero

def readFull (text : List Char) : Option Reading := do
  let (date, text) ← takeDate text
  let mark :: text := text | none
  if !isSeparator mark then none
  let (time, text) ← takeTime text
  return ofParts date time (← readOffset text)

/-- A date alone: the midnight that begins it, in no time zone. -/
def readDate (text : List Char) : Option Reading := do
  let (date, []) ← takeDate text | none
  return ofParts date .midnight none

/-- Numbers up to this size count seconds, greater ones milliseconds. -/
def greatestSeconds : Nat := 20000000000

/-- The greatest whole number in 64 bits; the least is one farther from zero. -/
def greatestWord : Nat := 9223372036854775807

def ofSeconds? (seconds : Int) (micros : Nat) : Option Reading :=
  let instant := seconds * 1000000 + micros
  if Date.inYearZero (epochDay + instant.fdiv microsPerDay) then some .yearZero
  else (ofEpochMicros? instant).map .moment

def ofMillis? (millis : Int) (micros : Nat) : Option Reading :=
  ofSeconds? (millis.fdiv 1000) ((millis.fmod 1000).toNat * 1000 + micros)

def ofWord? (n : Int) : Option Reading :=
  if n.natAbs ≤ greatestSeconds then ofSeconds? n 0 else ofMillis? n 0

/-- How many of `parts` equal parts of a unit lie between a number and the whole number below it.
Each step is one of floating-point arithmetic, and a half is rounded upwards. -/
def partsAbove? (parts : Nat) (q : Rat) : Option Nat := do
  let .finite excess := Binary64.ofRat (q - q.floor) | none
  let .finite count := Binary64.ofRat (excess * parts) | none
  return (Binary64.roundHalfAway count).toNat

/-- The seconds or milliseconds are the whole number below, and the rest is rounded to
microseconds. -/
def ofRat? (q : Rat) : Option Reading := do
  if Binary64.magnitude q ≤ greatestSeconds then ofSeconds? q.floor (← partsAbove? 1000000 q)
  else ofMillis? q.floor (← partsAbove? 1000 q)

inductive Fault where
  | unreadable
  /-- The number is too great to be taken for a number of any unit. -/
  | beyondRange
  /-- The instant lies outside the calendar, or there is none. -/
  | noInstant
deriving DecidableEq

def settle (unread : Fault) : Option Reading → Except Fault DateTime
  | some (.moment t) => .ok t
  | some .yearZero => .error .noInstant
  | none => .error unread

def ofBinary64 : Binary64 → Except Fault DateTime
  | .finite q => settle .noInstant (ofRat? q)
  | _ => .error .noInstant

def isWord (n : Int) : Bool := -(greatestWord : Int) - 1 ≤ n && n ≤ greatestWord

/-- A whole number that does not fit a word is taken as a floating-point number. -/
def ofInt (n : Int) : Except Fault DateTime :=
  if isWord n then settle .noInstant (ofWord? n)
  else
    match Binary64.ofInt n with
    | .finite q => settle .noInstant (ofRat? q)
    | _ => .error .beyondRange

def readExponent : List Char → Option Int
  | [] => some 0
  | mark :: text =>
    if mark = 'e' ∨ mark = 'E' then
      let (negative, text) := Numeral.takeSign text
      match Numeral.spanDigits Numeral.asciiDigit? text with
      | ([], _) => none
      | (digits, []) => some (Numeral.withSign negative (Numeral.value 10 digits))
      | _ => none
    else none

/-- A number as a text: a sign and digits, or a decimal whose point comes before any exponent. -/
def readNumber (text : List Char) : Option Reading :=
  let (negative, body) := Numeral.takeSign text
  let (whole, rest) := Numeral.spanDigits Numeral.asciiDigit? body
  let n := Numeral.value 10 whole
  match rest with
  | [] =>
    if whole ≠ [] ∧ n ≤ greatestWord then ofWord? (Numeral.withSign negative n) else none
  | '.' :: rest => do
    let (part, rest) := Numeral.spanDigits Numeral.asciiDigit? rest
    let digits := whole ++ part
    let exponent ← readExponent rest
    if digits = [] then none
    else
      match Binary64.ofDecimal negative digits (exponent - part.length) with
      | .finite q => ofRat? q
      | _ => none
  | _ => none

def ofText (text : List Char) : Except Fault DateTime :=
  settle .unreadable ((readFull text).or ((readNumber text).or (readDate text)))

end CounterArchive.DateTime
