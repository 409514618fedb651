import CounterArchive.Proofs.Json.RoundTrip
import CounterArchive.Proofs.Numeral.Limit

/-! Whole numbers in what is read. None has more digits than the limits allow, however deep in
arrays and objects it stands. -/
namespace CounterArchive

namespace Json

def Bounded (count : Nat) (value : Json) : Prop := ∀ n ∈ value.integers, n.natAbs < 10 ^ count

section Bounded

variable {count : Nat}

theorem bounded_of_nil {value : Json} (none : value.integers = []) : Bounded count value := by
  intro n listed
  rw [none] at listed
  cases listed

theorem bounded_int {n : Int} (small : n.natAbs < 10 ^ count) : Bounded count (.int n) := by
  intro m listed
  obtain rfl := List.mem_singleton.mp listed
  exact small

theorem bounded_array {items : List Json} :
    Bounded count (.array items) ↔ ∀ item ∈ items, Bounded count item := by
  simp only [Bounded, integers, integersOfItems_eq, List.mem_flatMap]
  constructor
  · exact fun all item listed n found => all n ⟨item, listed, found⟩
  · rintro each n ⟨item, listed, found⟩
    exact each item listed n found

theorem bounded_object {fields : List (String × Json)} :
    Bounded count (.object fields) ↔ ∀ field ∈ fields, Bounded count field.2 := by
  simp only [Bounded, integers, integersOfFields_eq, List.mem_flatMap]
  constructor
  · exact fun all field listed n found => all n ⟨field, listed, found⟩
  · rintro each n ⟨field, listed, found⟩
    exact each field listed n found

/-- Of values for one name the last is kept, which is one of them. -/
theorem bounded_objectOf {fields : List (List Letter × Json)}
    (each : ∀ field ∈ fields, Bounded count field.2) : Bounded count (objectOf fields) := by
  refine bounded_object.mpr fun field listed => ?_
  obtain ⟨read, kept, rfl⟩ := List.mem_map.mp listed
  exact each read (Table.mem_of_mem_ofList kept)

theorem bounded_stringOf (letters : List Letter) : Bounded count (stringOf letters) := by
  unfold stringOf
  split <;> exact bounded_of_nil rfl

theorem bounded_of_named? {text rest : List Char} {value : Json}
    (found : named? text = some (value, rest)) : Bounded count value := by
  simp only [named?, Option.map_eq_some_iff, Prod.mk.injEq] at found
  obtain ⟨⟨name, _⟩, listed, rfl, -⟩ := found
  have member := List.mem_of_find?_eq_some listed
  simp only [names, List.mem_cons, Prod.mk.injEq, List.not_mem_nil, or_false] at member
  apply bounded_of_nil
  rcases member with h | h | h | h | h | h <;> rw [h.2] <;> rfl

theorem bounded_number {limits : Limits} (limited : limits.digits = some count)
    {text rest : List Char} {value : Json} (read : number limits text = .ok (value, rest)) :
    Bounded count value := by
  unfold number at read
  dsimp only at read
  split at read
  · cases read
  · rename_i whole after found
    split at read
    · split at read
      · cases read
      · rename_i short
        cases read
        simp only [limited, Option.any_some, decide_eq_true_eq, Nat.not_lt] at short
        exact bounded_int (Numeral.natAbs_lt_of_digits found short _)
    · cases read
      exact bounded_of_nil rfl

end Bounded

/-! What holds of each thing that is read holds of all that stands in arrays and objects. -/

def Reader.Gives {α : Type} (reader : Reader α) (p : α → Prop) : Prop :=
  ∀ ⦃text value rest⦄, reader.run text = .ok (value, rest) → p value

section Gives

variable {α : Type} {item : Reader α} {p : α → Prop} {close : Char}

theorem separated_gives (gives : item.Gives p) {text rest : List Char} {values : List α}
    (read : separated item close text = .ok (values, rest)) : ∀ value ∈ values, p value := by
  fun_induction separated item close text generalizing values rest with
  | case1 | case2 | case4 | case6 => cases read
  | case3 text first afterItem run =>
    cases read
    simpa using gives run
  | case5 text first afterItem run after more last again blank other ih =>
    cases read
    simpa using ⟨gives run, ih again⟩

theorem enclosed_gives (gives : item.Gives p) {text rest : List Char} {values : List α}
    (read : enclosed item close text = .ok (values, rest)) : ∀ value ∈ values, p value := by
  unfold enclosed at read
  split at read
  · exact separated_gives gives read
  · split at read
    · cases read
      exact fun value listed => nomatch listed
    · exact separated_gives gives read

theorem readContainer_gives {inner : Option (Reader α)} (gives : ∀ item ∈ inner, item.Gives p)
    {container : Container} {make : List α → Json} {text rest : List Char} {value : Json}
    (read : readContainer container close make inner text = .ok (value, rest)) :
    ∃ values, value = make values ∧ ∀ value ∈ values, p value := by
  cases inner with
  | none => cases read
  | some item =>
    unfold readContainer at read
    dsimp only at read
    split at read
    · cases read
    · rename_i values after enclosed
      cases read
      exact ⟨values, rfl, enclosed_gives (gives item rfl) enclosed⟩

end Gives

theorem member_gives {value : Reader Json} {p : Json → Prop} (gives : value.Gives p) :
    (member value).Gives fun field => p field.2 := by
  intro text found rest read
  change readMember value text = _ at read
  unfold readMember at read
  repeat' split at read
  all_goals cases read
  rename_i run
  exact gives run

section Values

variable {limits : Limits} {count : Nat}

theorem readValue_bounded (limited : limits.digits = some count) {inner : Option (Reader Json)}
    (gives : ∀ reader ∈ inner, reader.Gives (Bounded count)) {text rest : List Char} {value : Json}
    (read : readValue limits inner text = .ok (value, rest)) : Bounded count value := by
  unfold readValue at read
  split at read
  · split at read
    · cases read
    · cases read
      exact bounded_stringOf _
  · obtain ⟨items, rfl, each⟩ := readContainer_gives gives read
    exact bounded_array.mpr each
  · have members : ∀ reader ∈ inner.map member,
        reader.Gives fun field => Bounded count field.2 := by
      intro reader listed
      obtain ⟨value, here, rfl⟩ := Option.mem_map.mp listed
      exact member_gives (gives value here)
    obtain ⟨fields, rfl, each⟩ := readContainer_gives members read
    exact bounded_objectOf each
  · split at read
    · rename_i found
      cases read
      exact bounded_of_named? found
    · exact bounded_number limited read

theorem valueReader_gives (limited : limits.digits = some count) (depth : Nat) :
    (valueReader limits depth).Gives (Bounded count) := by
  induction depth with
  | zero =>
    intro text value rest read
    exact readValue_bounded limited (by simp) read
  | succ depth ih =>
    intro text value rest read
    exact readValue_bounded limited (by simpa using ih) read

/-- A document that has been read has no number with more digits than are allowed. -/
theorem read_bounded (limited : limits.digits = some count) {text : List Char} {value : Json}
    (read : Json.read limits text = .ok value) : Bounded count value := by
  unfold Json.read at read
  split at read
  · cases read
  · cases run : (valueReader limits limits.depth).run (skipBlanks text) with
    | error failure =>
      rw [run] at read
      cases read
    | ok found =>
      obtain ⟨first, rest⟩ := found
      rw [run] at read
      change (if skipBlanks rest = [] then pure first else throw _ : Except Failure Json) = _ at read
      split at read
      · cases read
        exact valueReader_gives limited limits.depth run
      · cases read

end Values

end Json

end CounterArchive
