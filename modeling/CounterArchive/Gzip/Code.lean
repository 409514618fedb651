import CounterArchive.Gzip.Decoder

/-! Prefix codes given by their lengths. Shorter codes come before longer ones, and codes of one
length are numbered in the order of their symbols. -/
namespace CounterArchive.Gzip

/-- The symbols with codes of one bit, of two bits, and so on, in order. -/
structure Code where
  levels : List (Array Nat)

namespace Code

/-- The code in which the symbol `n` has a code of the `n`th length, unless that is zero. -/
def ofLengths (lengths : List Nat) : Code where
  levels := (List.range' 1 (lengths.foldl max 0)).map fun length =>
    ((List.range lengths.length).filter fun symbol => lengths[symbol]? = some length).toArray

/-- How many codes of the greatest length could be added. There is no such number if there are
more codes than different ones of their lengths. -/
def spare? (code : Code) : Option Nat :=
  code.levels.foldlM (fun free level =>
    if level.size ≤ 2 * free then some (2 * free - level.size) else none) 1

def isComplete (code : Code) : Bool := code.spare? = some 0

/-- Looks up a code in the levels from its last bit on, by its number among what is left for
that level. -/
def search (number : Nat) : List (Array Nat) → Decoder (Option Nat)
  | [] => pure none
  | level :: longer =>
    match level[number]?, longer with
    | some symbol, _ => pure (some symbol)
    | none, [] => pure none
    | none, longer => do
      let next ← Decoder.bit
      search (2 * (number - level.size) + next.toNat) longer

def symbol? (code : Code) (first : Bool) : Decoder (Option Nat) := search first.toNat code.levels

end Code

end CounterArchive.Gzip
