import CounterArchive.Gzip.Code
import CounterArchive.Gzip.Symbols

/-! Compressed blocks. A block is either stored as it is, or a sequence of bytes and of matches,
which repeat earlier bytes; its codes are fixed or given in front of it. -/
namespace CounterArchive.Gzip

open Decoder

/-- The codes of bytes, lengths and the end of the block on the one hand, of distances on the
other. -/
structure Codes where
  literals : Code
  distances : Code

def fixedCodes : Codes := ⟨.ofLengths fixedLiteralLengths, .ofLengths fixedDistanceLengths⟩

/-- Repeats bytes from so far back. What is repeated may be what has just been written. -/
def repeatBack (distance : Nat) : Nat → Array UInt8 → Array UInt8
  | 0, out => out
  | count + 1, out => repeatBack distance count (out.push (out.getD (out.size - distance) 0))

def ranged (ranges : List (Nat × Nat)) (flaw : Flaw) (symbol : Option Nat) : Decoder Nat :=
  match symbol.bind (ranges[·]?) with
  | none => corrupt flaw
  | some (base, extra) => do return base + (← bits extra)

def symbolRound (codes : Codes) (first : Bool) (out : Array UInt8) :
    Decoder (Array UInt8 ⊕ Array UInt8) := do
  match ← codes.literals.symbol? first with
  | none => corrupt .literalSymbol
  | some symbol =>
    if symbol < 256 then return .inl (out.push symbol.toUInt8)
    else if symbol = 256 then return .inr out
    else
      let length ← ranged lengthRanges .literalSymbol (some (symbol - 257))
      let distance ← ranged distanceRanges .distanceSymbol (← codes.distances.symbol? (← bit))
      if out.size < distance then corrupt .distanceTooFar
      return .inl (repeatBack distance length out)

/-- Code lengths up to a number of them: one more, the last one again, or many zeros. A code
without symbols stands for a zero with every bit. -/
def lengthRound (code : Code) (total : Nat) (first : Bool) (lengths : Array Nat) :
    Decoder (Array Nat ⊕ Array Nat) := do
  let added ←
    match (← code.symbol? first).getD 0 with
    | 16 => do
      let count := 3 + (← bits 2)
      match lengths.back? with
      | none => corrupt .lengthRepeat
      | some length => pure (Array.replicate count length)
    | 17 => do pure (Array.replicate (3 + (← bits 3)) 0)
    | 18 => do pure (Array.replicate (11 + (← bits 7)) 0)
    | length => pure #[length]
  let lengths := lengths ++ added
  if total < lengths.size then corrupt .lengthRepeat
  return if lengths.size = total then .inr lengths else .inl lengths

/-- Only a code of a single bit may be incomplete. -/
def usable (code : Code) : Bool :=
  code.isComplete || (code.levels.length ≤ 1 && code.spare?.isSome)

def readCodes : Decoder Codes := do
  let literalCount := 257 + (← bits 5)
  let distanceCount := 1 + (← bits 5)
  let lengthCount := 4 + (← bits 4)
  if 286 < literalCount ∨ 30 < distanceCount then corrupt .tooManySymbols
  let given ← (lengthOrder.take lengthCount).mapM fun symbol => do return (symbol, ← bits 3)
  let lengthCode := Code.ofLengths ((List.range 19).map fun n => (given.lookup n).getD 0)
  if !lengthCode.isComplete && !lengthCode.levels.isEmpty then corrupt .lengthCode
  let lengths := (← rounds (lengthRound lengthCode (literalCount + distanceCount)) #[]).toList
  if lengths[256]? = some 0 then corrupt .noEndOfBlock
  let literals := Code.ofLengths (lengths.take literalCount)
  if !usable literals then corrupt .literalCode
  let distances := Code.ofLengths (lengths.drop literalCount)
  if !usable distances then corrupt .distanceCode
  return ⟨literals, distances⟩

/-- A stored block: its length, the length again with all bits inverted, and the bytes. -/
def storedBlock (out : Array UInt8) : Decoder (Array UInt8) := do
  let length ← word 2
  let inverted ← word 2
  if length + inverted ≠ 0xFFFF then corrupt .storedLengths
  return out ++ (← bytes length)

def block (out : Array UInt8) : Decoder (Array UInt8) := do
  match ← bits 2 with
  | 0 => storedBlock out
  | 1 => rounds (symbolRound fixedCodes) out
  | 2 => rounds (symbolRound (← readCodes)) out
  | _ => corrupt .blockType

def inflate : Decoder (Array UInt8) :=
  rounds (fun last out => do
    let out ← block out
    return if last then .inr out else .inl out) #[]

end CounterArchive.Gzip
