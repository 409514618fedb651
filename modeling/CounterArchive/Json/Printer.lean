import CounterArchive.Json.Basic
import CounterArchive.Numeral

/-! The compact text of a JSON value: no blanks, fields in order, and of all characters only the
quote, the backslash and the control characters escaped. -/
namespace CounterArchive.Json

def shortEscape? (c : Char) : Option Char :=
  if c = '"' ∨ c = '\\' then some c
  else if c = '\x08' then some 'b'
  else if c = '\t' then some 't'
  else if c = '\n' then some 'n'
  else if c = '\x0c' then some 'f'
  else if c = '\r' then some 'r'
  else none

def charText (c : Char) : List Char :=
  match shortEscape? c with
  | some e => ['\\', e]
  | none =>
    if c.toNat < 0x20 then '\\' :: 'u' :: Numeral.padded 4 (Numeral.hexadecimal c.toNat) else [c]

def stringText (s : String) : List Char := '"' :: s.toList.flatMap charText ++ ['"']

/-- A binary fraction as the decimal that is equal to it, with an exponent. -/
def floatText : Binary64 → List Char
  | .nan => "NaN".toList
  | .infinite negative => (if negative then "-Infinity" else "Infinity").toList
  | .finite q =>
    let places := q.den.log2
    Numeral.signed (q.num * (Nat.pow 5 places : Nat)) ++ 'e' :: '-' :: Numeral.decimal places

mutual

def text : Json → List Char
  | .null => "null".toList
  | .bool value => (if value then "true" else "false").toList
  | .int value => Numeral.signed value
  | .float value => floatText value
  | .string value => stringText value
  | .halved shown => stringText shown
  | .array items => '[' :: itemsText items ++ [']']
  | .object fields => '{' :: fieldsText fields ++ ['}']

def itemsText : List Json → List Char
  | [] => []
  | [item] => item.text
  | item :: rest => item.text ++ ',' :: itemsText rest

def fieldsText : List (String × Json) → List Char
  | [] => []
  | [(name, value)] => stringText name ++ ':' :: value.text
  | (name, value) :: rest => stringText name ++ ':' :: value.text ++ ',' :: fieldsText rest

end

end CounterArchive.Json
