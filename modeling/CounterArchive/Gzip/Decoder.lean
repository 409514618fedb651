import CounterArchive.Gzip.Fault

/-! Reading bits and bytes in turn. The bits of a byte come least significant first. A decoder
never gives back what it has read, which is why a loop that reads a bit in each round ends. -/
namespace CounterArchive.Gzip

/-- The bits of a begun byte that are left, and the bytes behind it. -/
structure Source where
  pending : List Bool
  bytes : List UInt8

namespace Source

def size (s : Source) : Nat := s.pending.length + 8 * s.bytes.length

def bitsAbove (byte : UInt8) : List Bool := (List.range' 1 7).map byte.toNat.testBit

def next? (s : Source) : Option (Bool × Source) :=
  match s.pending, s.bytes with
  | bit :: pending, bytes => some (bit, ⟨pending, bytes⟩)
  | [], byte :: bytes => some (byte.toNat.testBit 0, ⟨bitsAbove byte, bytes⟩)
  | [], [] => none

theorem size_of_next? {s rest : Source} {bit : Bool} (h : s.next? = some (bit, rest)) :
    rest.size < s.size := by
  obtain ⟨pending, bytes⟩ := s
  unfold next? at h
  split at h
  all_goals simp only [Option.some.injEq, Prod.mk.injEq, reduceCtorEq] at h
  all_goals obtain ⟨-, rfl⟩ := h
  all_goals simp_all [size, bitsAbove]
  omega

end Source

structure Decoder (α : Type) where
  run : Source → Except Fault (α × Source)
  shrinks : ∀ {s value rest}, run s = .ok (value, rest) → rest.size ≤ s.size

namespace Decoder

variable {α β σ : Type}

def bindRun (d : Decoder α) (f : α → Decoder β) (s : Source) : Except Fault (β × Source) :=
  match d.run s with
  | .error fault => .error fault
  | .ok (value, rest) => (f value).run rest

theorem shrinks_bindRun {d : Decoder α} {f : α → Decoder β} {s rest : Source} {value : β}
    (h : bindRun d f s = .ok (value, rest)) : rest.size ≤ s.size := by
  unfold bindRun at h
  split at h
  · simp at h
  · exact Nat.le_trans ((f _).shrinks h) (d.shrinks ‹_›)

instance : Monad Decoder where
  pure value := ⟨fun s => .ok (value, s), by simp_all⟩
  bind d f := ⟨bindRun d f, shrinks_bindRun⟩

theorem run_pure (value : α) (s : Source) : (pure value : Decoder α).run s = .ok (value, s) := rfl

theorem run_bind (d : Decoder α) (f : α → Decoder β) (s : Source) :
    (d >>= f).run s = bindRun d f s := rfl

def fail (fault : Fault) : Decoder α := ⟨fun _ => .error fault, by simp⟩

def corrupt (flaw : Flaw) : Decoder α := fail (.corrupt flaw)

def bit : Decoder Bool where
  run s := s.next?.elim (.error .truncated) .ok
  shrinks {s value rest} h := by
    cases found : s.next? with
    | none => simp [found] at h
    | some pair =>
      simp only [found, Option.elim, Except.ok.injEq] at h
      exact Nat.le_of_lt (Source.size_of_next? (h ▸ found))

/-- A number of so many bits, the least significant first. -/
def bits : Nat → Decoder Nat
  | 0 => pure 0
  | count + 1 => do
    let low ← bit
    return low.toNat + 2 * (← bits count)

/-- The next bytes; what is left of a begun byte is skipped. -/
def bytes (count : Nat) : Decoder (List UInt8) where
  run s :=
    if count ≤ s.bytes.length then .ok (s.bytes.take count, ⟨[], s.bytes.drop count⟩)
    else .error .truncated
  shrinks {s value rest} h := by
    split at h
    · simp only [Except.ok.injEq, Prod.mk.injEq] at h
      obtain ⟨-, rfl⟩ := h
      simp only [Source.size, List.length_nil, List.length_drop]
      omega
    · simp at h

def word (count : Nat) : Decoder Nat := do
  return (← bytes count).foldr (fun byte n => byte.toNat + 256 * n) 0

def skipThroughZero : Decoder Unit where
  run s := .ok ((), ⟨[], (s.bytes.dropWhile (· ≠ 0)).tail⟩)
  shrinks {s value rest} h := by
    simp only [Except.ok.injEq, Prod.mk.injEq, true_and] at h
    subst h
    have := (List.dropWhile_sublist (· ≠ 0) (l := s.bytes)).length_le
    simp only [Source.size, List.length_nil, List.length_tail]
    omega

/-- One round of a loop after another, each of which begins with a bit, until one ends it. -/
def roundsRun (round : Bool → σ → Decoder (σ ⊕ β)) (state : σ) (s : Source) :
    Except Fault (β × Source) :=
  match _ : s.next? with
  | none => .error .truncated
  | some (bit, afterBit) =>
    match _ : (round bit state).run afterBit with
    | .error fault => .error fault
    | .ok (.inr value, rest) => .ok (value, rest)
    | .ok (.inl state, rest) => roundsRun round state rest
termination_by s.size
decreasing_by
  exact Nat.lt_of_le_of_lt ((round _ _).shrinks ‹_›) (Source.size_of_next? ‹_›)

theorem shrinks_roundsRun {round : Bool → σ → Decoder (σ ⊕ β)} {state : σ} {s rest : Source}
    {value : β} (h : roundsRun round state s = .ok (value, rest)) : rest.size ≤ s.size := by
  fun_induction roundsRun round state s with
  | case1 => simp at h
  | case2 => simp at h
  | case3 state s bit afterBit first last after ended =>
    simp only [Except.ok.injEq, Prod.mk.injEq] at h
    have := Source.size_of_next? first
    have := (round bit state).shrinks ended
    rw [← h.2]
    omega
  | case4 state s bit afterBit first next after went ih =>
    have := Source.size_of_next? first
    have := (round bit state).shrinks went
    have := ih h
    omega

def rounds (round : Bool → σ → Decoder (σ ⊕ β)) (state : σ) : Decoder β :=
  ⟨roundsRun round state, shrinks_roundsRun⟩

end Decoder

end CounterArchive.Gzip
