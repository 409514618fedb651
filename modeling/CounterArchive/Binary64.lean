/-! Binary floating-point numbers with 53 significant bits and exponents from -1074 to 971. A
finite number is kept as the rational that it denotes, so that each operation is an exact
operation on rationals followed by one rounding to the nearest, ties to even. Both zeros are one
number. -/
namespace CounterArchive

inductive Binary64 where
  | nan
  | infinite (negative : Bool)
  | finite (value : Rat)
deriving DecidableEq

namespace Binary64

def roundHalfEven (q : Rat) : Int :=
  let below := q.floor
  let excess := q - below
  if excess < 1 / 2 then below
  else if 1 / 2 < excess then below + 1
  else if below % 2 = 0 then below else below + 1

def roundHalfAway (q : Rat) : Int :=
  if 0 ≤ q then (q + 1 / 2).floor else -((-q + 1 / 2).floor)

def truncateRat (q : Rat) : Int := if 0 ≤ q then q.floor else -((-q).floor)

def powerOfTwo : Int → Rat
  | .ofNat n => (Nat.pow 2 n : Rat)
  | .negSucc n => 1 / (Nat.pow 2 (n + 1) : Rat)

def magnitude (q : Rat) : Rat := if q < 0 then -q else q

/-- The exponent of the greatest power of two that is at most a nonzero rational in size. -/
def logTwo (q : Rat) : Int :=
  let guess := (q.num.natAbs.log2 : Int) - (q.den.log2 : Int)
  if magnitude q < powerOfTwo guess then guess - 1 else guess

/-- The exponent of the unit in the last place around a nonzero rational. -/
def unitExponent (q : Rat) : Int := max (-1074) (logTwo q - 52)

def ofRat (q : Rat) : Binary64 :=
  if q = 0 then .finite 0
  else
    let unit := powerOfTwo (unitExponent q)
    let rounded := (roundHalfEven (q / unit) : Rat) * unit
    if powerOfTwo 1024 ≤ magnitude rounded then .infinite (q < 0) else .finite rounded

def ofInt (n : Int) : Binary64 := ofRat n

/-- The number nearest to a decimal: its digits, the most significant first, times a power of
ten. Far outside the range of the finite numbers the power is not computed. -/
def ofDecimal (negative : Bool) (digits : List Nat) (exponent : Int) : Binary64 :=
  let significant := digits.dropWhile (· = 0)
  let n := significant.foldl (fun n d => 10 * n + d) 0
  let order := exponent + significant.length
  if significant = [] ∨ order < -400 then .finite 0
  else if 400 < order then .infinite negative
  else
    let size : Rat := match exponent with
      | .ofNat k => ((n * Nat.pow 10 k : Nat) : Rat)
      | .negSucc k => (n : Rat) / (Nat.pow 10 (k + 1) : Rat)
    ofRat (if negative then -size else size)

def scale (x : Binary64) (factor : Rat) : Binary64 :=
  match x with
  | .finite q => ofRat (q * factor)
  | other => other

/-- Why a floating-point number is no whole number. -/
inductive Unbounded where
  | nan
  | infinite
deriving DecidableEq

def Unbounded.message : Unbounded → String
  | .nan => "cannot convert float NaN to integer"
  | .infinite => "cannot convert float infinity to integer"

def truncate : Binary64 → Except Unbounded Int
  | .nan => .error .nan
  | .infinite _ => .error .infinite
  | .finite q => .ok (truncateRat q)

end Binary64

end CounterArchive
