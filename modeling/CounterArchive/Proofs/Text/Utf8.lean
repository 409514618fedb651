import CounterArchive.Text.Utf8

/-! Reading UTF-8 undoes writing it, for all characters: what a character is written as is a
shortest form and no surrogate, so that no test of the reader stops at it. -/
namespace CounterArchive.Utf8

/-- Characters are below the last code point and no surrogates. -/
theorem toNat_range (c : Char) :
    c.toNat < 0xD800 ∨ 0xDFFF < c.toNat ∧ c.toNat < 0x110000 := by
  have := c.valid
  simp only [UInt32.isValidChar, Nat.isValidChar] at this
  exact this

theorem toNat_toUInt8 {n : Nat} (small : n < 256) : n.toUInt8.toNat = n := by
  simp only [Nat.toUInt8, UInt8.toNat_ofNat']
  omega

/-- Between bounds that are both written out, a byte is in the range of its number. -/
theorem between_toUInt8 {low high n : Nat} (small : n < 256) :
    between low high n.toUInt8 = decide (low ≤ n ∧ n ≤ high) := by
  simp [between, toNat_toUInt8 small, Bool.decide_and]

theorem continues_toUInt8 (n : Nat) : continues (0x80 + n % 0x40).toUInt8 = true := by
  rw [continues, between_toUInt8 (by omega)]
  exact decide_eq_true (by omega)

theorem toUInt8_eq_iff {m n : Nat} (hm : m < 256) (hn : n < 256) :
    m.toUInt8 = n.toUInt8 ↔ m = n := by
  rw [← UInt8.toNat_inj, toNat_toUInt8 hm, toNat_toUInt8 hn]

theorem secondOfThree_toUInt8 {lead second : Nat} (hl : lead < 256) (hs : second < 256)
    (low : (if lead = 0xE0 then 0xA0 else 0x80) ≤ second)
    (high : second ≤ if lead = 0xED then 0x9F else 0xBF) :
    secondOfThree lead.toUInt8 second.toUInt8 = true := by
  have e0 : lead.toUInt8 = 0xE0 ↔ lead = 0xE0 := toUInt8_eq_iff hl (n := 0xE0) (by omega)
  have ed : lead.toUInt8 = 0xED ↔ lead = 0xED := toUInt8_eq_iff hl (n := 0xED) (by omega)
  simp only [secondOfThree, between_toUInt8 hs, e0, ed]
  exact decide_eq_true ⟨low, high⟩

theorem secondOfFour_toUInt8 {lead second : Nat} (hl : lead < 256) (hs : second < 256)
    (low : (if lead = 0xF0 then 0x90 else 0x80) ≤ second)
    (high : second ≤ if lead = 0xF4 then 0x8F else 0xBF) :
    secondOfFour lead.toUInt8 second.toUInt8 = true := by
  have f0 : lead.toUInt8 = 0xF0 ↔ lead = 0xF0 := toUInt8_eq_iff hl (n := 0xF0) (by omega)
  have f4 : lead.toUInt8 = 0xF4 ↔ lead = 0xF4 := toUInt8_eq_iff hl (n := 0xF4) (by omega)
  simp only [secondOfFour, between_toUInt8 hs, f0, f4]
  exact decide_eq_true ⟨low, high⟩

/-! One character of each length, by its bytes. -/

theorem decodeFrom_one {a : UInt8} (offset : Nat) (rest : List UInt8) (lead : a.toNat < 0x80) :
    decodeFrom offset (a :: rest) = (join a.toNat [] :: ·) <$> decodeFrom (offset + 1) rest := by
  rw [decodeFrom.eq_def]
  simp only [lead, if_true]
  rfl

theorem decodeFrom_two {a b : UInt8} (offset : Nat) (rest : List UInt8)
    (lead : between 0xC2 0xDF a = true) (second : continues b = true) :
    decodeFrom offset (a :: b :: rest) =
      (join (a.toNat % 0x20) [b] :: ·) <$> decodeFrom (offset + 2) rest := by
  have wide : ¬ a.toNat < 0x80 := by
    simp only [between, Bool.and_eq_true, decide_eq_true_eq] at lead
    omega
  rw [decodeFrom.eq_def]
  simp only [wide, lead, second, if_false, if_true, Bool.not_true, Bool.false_eq_true]
  rfl

theorem decodeFrom_three {a b c : UInt8} (offset : Nat) (rest : List UInt8)
    (lead : between 0xE0 0xEF a = true) (second : secondOfThree a b = true)
    (third : continues c = true) :
    decodeFrom offset (a :: b :: c :: rest) =
      (join (a.toNat % 0x10) [b, c] :: ·) <$> decodeFrom (offset + 3) rest := by
  have wide : ¬ a.toNat < 0x80 ∧ between 0xC2 0xDF a = false := by
    simp only [between, Bool.and_eq_true, decide_eq_true_eq, Bool.and_eq_false_iff,
      decide_eq_false_iff_not] at *
    omega
  rw [decodeFrom.eq_def]
  simp only [wide, lead, second, third, if_false, if_true, Bool.not_true, Bool.false_eq_true]
  rfl

theorem decodeFrom_four {a b c d : UInt8} (offset : Nat) (rest : List UInt8)
    (lead : between 0xF0 0xF4 a = true) (second : secondOfFour a b = true)
    (third : continues c = true) (fourth : continues d = true) :
    decodeFrom offset (a :: b :: c :: d :: rest) =
      (join (a.toNat % 0x8) [b, c, d] :: ·) <$> decodeFrom (offset + 4) rest := by
  have wide : ¬ a.toNat < 0x80 ∧ between 0xC2 0xDF a = false ∧ between 0xE0 0xEF a = false := by
    simp only [between, Bool.and_eq_true, decide_eq_true_eq, Bool.and_eq_false_iff,
      decide_eq_false_iff_not] at *
    omega
  rw [decodeFrom.eq_def]
  simp only [wide, lead, second, third, fourth, if_false, if_true, Bool.not_true,
    Bool.false_eq_true]
  rfl

theorem join_eq {c : Char} {lead : Nat} {more : List UInt8}
    (whole : more.foldl (fun n b => n * 0x40 + b.toNat % 0x40) lead = c.toNat) :
    join lead more = c := by
  rw [join, whole, Char.ofNat_toNat]

theorem toNat_continuing (n : Nat) : (0x80 + n % 0x40).toUInt8.toNat = 0x80 + n % 0x40 :=
  toNat_toUInt8 (by omega)

/-- The character is read from what is written of it, whatever follows. -/
theorem decodeFrom_encodeChar (offset : Nat) (c : Char) (rest : List UInt8) :
    decodeFrom offset (encodeChar c ++ rest) =
      (c :: ·) <$> decodeFrom (offset + (encodeChar c).length) rest := by
  have range := toNat_range c
  by_cases one : c.toNat < 0x80
  · have lead := toNat_toUInt8 (show c.toNat < 256 by omega)
    have joined : join c.toNat.toUInt8.toNat [] = c := join_eq lead
    simp only [encodeChar, one, if_true, List.singleton_append, List.length_singleton]
    rw [decodeFrom_one _ _ (by omega), joined]
  by_cases two : c.toNat < 0x800
  · have small : 0xC0 + c.toNat / 0x40 < 256 := by omega
    have joined : join ((0xC0 + c.toNat / 0x40).toUInt8.toNat % 0x20)
        [(0x80 + c.toNat % 0x40).toUInt8] = c := by
      apply join_eq
      simp only [List.foldl_cons, List.foldl_nil, toNat_toUInt8 small, toNat_continuing]
      omega
    simp only [encodeChar, one, two, if_true, if_false, List.cons_append, List.nil_append,
      List.length_cons, List.length_nil]
    rw [decodeFrom_two _ _ _ (continues_toUInt8 _), joined]
    rw [between_toUInt8 small]
    exact decide_eq_true (by omega)
  by_cases three : c.toNat < 0x10000
  · have small : 0xE0 + c.toNat / 0x1000 < 256 := by omega
    have joined : join ((0xE0 + c.toNat / 0x1000).toUInt8.toNat % 0x10)
        [(0x80 + c.toNat / 0x40 % 0x40).toUInt8, (0x80 + c.toNat % 0x40).toUInt8] = c := by
      apply join_eq
      simp only [List.foldl_cons, List.foldl_nil, toNat_toUInt8 small, toNat_continuing]
      omega
    simp only [encodeChar, one, two, three, if_true, if_false, List.cons_append, List.nil_append,
      List.length_cons, List.length_nil]
    rw [decodeFrom_three _ _ _ _ (continues_toUInt8 _), joined]
    · rw [between_toUInt8 small]
      exact decide_eq_true (by omega)
    · apply secondOfThree_toUInt8 small (by omega)
      · split <;> omega
      · split <;> omega
  · have small : 0xF0 + c.toNat / 0x40000 < 256 := by omega
    have joined : join ((0xF0 + c.toNat / 0x40000).toUInt8.toNat % 0x8)
        [(0x80 + c.toNat / 0x1000 % 0x40).toUInt8, (0x80 + c.toNat / 0x40 % 0x40).toUInt8,
          (0x80 + c.toNat % 0x40).toUInt8] = c := by
      apply join_eq
      simp only [List.foldl_cons, List.foldl_nil, toNat_toUInt8 small, toNat_continuing]
      omega
    simp only [encodeChar, one, two, three, if_false, List.cons_append, List.nil_append,
      List.length_cons, List.length_nil]
    rw [decodeFrom_four _ _ _ _ (continues_toUInt8 _) (continues_toUInt8 _), joined]
    · rw [between_toUInt8 small]
      exact decide_eq_true (by omega)
    · apply secondOfFour_toUInt8 small (by omega)
      · split <;> omega
      · split <;> omega

theorem decodeFrom_encode (text : List Char) (offset : Nat) :
    decodeFrom offset (encode text) = .ok text := by
  induction text generalizing offset with
  | nil => rfl
  | cons c rest ih =>
    rw [encode, List.flatMap_cons, decodeFrom_encodeChar]
    exact congrArg ((c :: ·) <$> ·) (ih _)

theorem decode_encode (text : List Char) : decode (encode text) = .ok text :=
  decodeFrom_encode text 0

end CounterArchive.Utf8
