import CounterArchive.Numeral
import CounterArchive.Text.Printable

/-! Quoted texts, as error messages show them: one line between quotes, in which every character
that could not be seen is written as an escape. The quotes are apostrophes, unless the text has
an apostrophe and no double quote. -/
namespace CounterArchive.Text

def apostrophe : Char := Char.ofNat 39

def doubleQuote : Char := Char.ofNat 34

def backslash : Char := Char.ofNat 92

def quoteFor (text : List Char) : Char :=
  if text.contains apostrophe && !text.contains doubleQuote then doubleQuote else apostrophe

/-- A number as an escape of two, four or eight hexadecimal digits. -/
def numericEscape (n : Nat) : List Char :=
  let digits := Numeral.hexadecimal n
  if n < 0x100 then backslash :: 'x' :: Numeral.padded 2 digits
  else if n < 0x10000 then backslash :: 'u' :: Numeral.padded 4 digits
  else backslash :: 'U' :: Numeral.padded 8 digits

def escapedIn (quote : Char) (printable : Char → Bool) (c : Char) : List Char :=
  if c = quote ∨ c = backslash then [backslash, c]
  else if c = '\t' then [backslash, 't']
  else if c = '\n' then [backslash, 'n']
  else if c = '\r' then [backslash, 'r']
  else if printable c then [c]
  else numericEscape c.toNat

def quotedBy (printable : Char → Bool) (text : List Char) : List Char :=
  let quote := quoteFor text
  quote :: text.flatMap (escapedIn quote printable) ++ [quote]

def quoted (text : String) : String := String.ofList (quotedBy isPrintable text.toList)

/-- Bytes are quoted like the characters of the same numbers, and marked by a `b` in front. All
but the visible ASCII characters are escaped. -/
def quotedBytes (bytes : List UInt8) : String :=
  let visible (c : Char) : Bool := 0x20 ≤ c.toNat && c.toNat ≤ 0x7E
  String.ofList ('b' :: quotedBy visible (bytes.map (fun b => Char.ofNat b.toNat)))

end CounterArchive.Text
