import CounterArchive.Numeral

/-! UTF-8. A text is written as the bytes of its characters in order. Reading accepts shortest
forms only and no surrogates; it stops at the first fault, which is reported with the offset and
the bytes of the longest valid beginning of a character found there. -/
namespace CounterArchive.Utf8

def encodeChar (c : Char) : List UInt8 :=
  let n := c.toNat
  if n < 0x80 then [n.toUInt8]
  else if n < 0x800 then [(0xC0 + n / 0x40).toUInt8, (0x80 + n % 0x40).toUInt8]
  else if n < 0x10000 then
    [(0xE0 + n / 0x1000).toUInt8, (0x80 + n / 0x40 % 0x40).toUInt8, (0x80 + n % 0x40).toUInt8]
  else
    [(0xF0 + n / 0x40000).toUInt8, (0x80 + n / 0x1000 % 0x40).toUInt8,
      (0x80 + n / 0x40 % 0x40).toUInt8, (0x80 + n % 0x40).toUInt8]

def encode (text : List Char) : List UInt8 := text.flatMap encodeChar

def size (text : List Char) : Nat := (encode text).length

inductive Reason where
  | invalidStart
  | invalidContinuation
  | unexpectedEnd
deriving DecidableEq

def Reason.message : Reason → String
  | .invalidStart => "invalid start byte"
  | .invalidContinuation => "invalid continuation byte"
  | .unexpectedEnd => "unexpected end of data"

/-- The faulty bytes are `count` many, from the offset `start` on; the first of them is `byte`. -/
structure Fault where
  reason : Reason
  start : Nat
  byte : UInt8
  count : Nat
deriving DecidableEq

/-- A fault of one byte names the byte, a longer one the range of offsets. -/
def Fault.message (fault : Fault) : String :=
  let first := Numeral.decimalText fault.start
  let last := Numeral.decimalText (fault.start + fault.count - 1)
  let digits := Numeral.padded 2 (Numeral.hexadecimal fault.byte.toNat)
  let place := if fault.count = 1 then "byte 0x" ++ String.ofList digits ++ " in position " ++ first
    else "bytes in position " ++ first ++ "-" ++ last
  "'utf-8' codec can't decode " ++ place ++ ": " ++ fault.reason.message

def between (low high : Nat) (b : UInt8) : Bool := low ≤ b.toNat && b.toNat ≤ high

def continues (b : UInt8) : Bool := between 0x80 0xBF b

/-- The second of three bytes: neither an overlong form nor a surrogate. -/
def secondOfThree (lead second : UInt8) : Bool :=
  between (if lead = 0xE0 then 0xA0 else 0x80) (if lead = 0xED then 0x9F else 0xBF) second

/-- The second of four bytes: neither an overlong form nor beyond the last character. -/
def secondOfFour (lead second : UInt8) : Bool :=
  between (if lead = 0xF0 then 0x90 else 0x80) (if lead = 0xF4 then 0x8F else 0xBF) second

def join (lead : Nat) (more : List UInt8) : Char :=
  Char.ofNat (more.foldl (fun n b => n * 0x40 + b.toNat % 0x40) lead)

def decodeFrom (offset : Nat) : List UInt8 → Except Fault (List Char)
  | [] => .ok []
  | a :: rest =>
    let fault (reason : Reason) (count : Nat) : Except Fault (List Char) :=
      .error ⟨reason, offset, a, count⟩
    if a.toNat < 0x80 then do
      return join a.toNat [] :: (← decodeFrom (offset + 1) rest)
    else if between 0xC2 0xDF a then
      match rest with
      | [] => fault .unexpectedEnd 1
      | b :: rest =>
        if !continues b then fault .invalidContinuation 1 else do
          return join (a.toNat % 0x20) [b] :: (← decodeFrom (offset + 2) rest)
    else if between 0xE0 0xEF a then
      match rest with
      | [] => fault .unexpectedEnd 1
      | b :: rest =>
        if !secondOfThree a b then fault .invalidContinuation 1 else
        match rest with
        | [] => fault .unexpectedEnd 2
        | c :: rest =>
          if !continues c then fault .invalidContinuation 2 else do
            return join (a.toNat % 0x10) [b, c] :: (← decodeFrom (offset + 3) rest)
    else if between 0xF0 0xF4 a then
      match rest with
      | [] => fault .unexpectedEnd 1
      | b :: rest =>
        if !secondOfFour a b then fault .invalidContinuation 1 else
        match rest with
        | [] => fault .unexpectedEnd 2
        | c :: rest =>
          if !continues c then fault .invalidContinuation 2 else
          match rest with
          | [] => fault .unexpectedEnd 3
          | d :: rest =>
            if !continues d then fault .invalidContinuation 3 else do
              return join (a.toNat % 0x8) [b, c, d] :: (← decodeFrom (offset + 4) rest)
    else fault .invalidStart 1

def decode (bytes : List UInt8) : Except Fault (List Char) := decodeFrom 0 bytes

end CounterArchive.Utf8
