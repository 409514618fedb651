import CounterArchive.Clock
import CounterArchive.Proofs.Json.Integers
import CounterArchive.Proofs.Snapshot.Codec

/-! Counters that come from documents. However their whole numbers are spelled there, they have no more
digits than are read, and the offsets of their dates are whole minutes. -/
namespace CounterArchive

namespace Json

namespace Checked

variable {α β : Type}

@[simp] theorem map_eq_valid_iff {f : α → β} {checked : Checked α} {y : β} :
    f <$> checked = .valid y ↔ ∃ x, checked = .valid x ∧ f x = y := by
  cases checked with
  | valid x =>
    change Checked.valid (f x) = .valid y ↔ _
    simp
  | _ =>
    constructor
    · rintro ⟨⟩
    · rintro ⟨_, ⟨⟩, -⟩

@[simp] theorem seq_eq_valid_iff {f : Checked (α → β)} {checked : Checked α} {y : β} :
    f <*> checked = .valid y ↔ ∃ g x, f = .valid g ∧ checked = .valid x ∧ g x = y := by
  change f.apply checked = .valid y ↔ _
  cases f <;> cases checked <;> simp [apply]

@[simp] theorem within_eq_valid_iff {step : Step} {checked : Checked α} {x : α} :
    checked.within step = .valid x ↔ checked = .valid x := by
  cases checked <;> simp [within]

end Checked

variable {α : Type}

theorem checkAll_eq_valid_iff {checks : List (Checked α)} {xs : List α} :
    checkAll checks = .valid xs ↔ checks = xs.map .valid := by
  induction checks generalizing xs with
  | nil =>
    cases xs with
    | nil => simp [checkAll]
    | cons x xs => simp [checkAll]
  | cons first rest ih =>
    cases xs with
    | nil => simp [checkAll]
    | cons x xs => simp [checkAll, ih]

/-- The value of a field that may be left out is the one for that case, or a checked one. -/
theorem checkFieldOr_eq_valid {fields : List (String × Json)} {name : String} {absent x : α}
    {check : Json → Checked α} (valid : checkFieldOr fields name absent check = .valid x) :
    x = absent ∨ ∃ value, fields.lookup name = some value ∧ check value = .valid x := by
  unfold checkFieldOr at valid
  split at valid
  · cases valid
    exact .inl rfl
  · rename_i value found
    exact .inr ⟨value, found, Checked.within_eq_valid_iff.mp valid⟩

theorem checkField_eq_valid {fields : List (String × Json)} {name : String} {x : α}
    {check : Json → Checked α} (valid : checkField fields name check = .valid x) :
    ∃ value, fields.lookup name = some value ∧ check value = .valid x := by
  unfold checkField at valid
  split at valid
  · cases valid
  · rename_i value found
    exact ⟨value, found, Checked.within_eq_valid_iff.mp valid⟩

/-- What is in a checked list has been checked itself. -/
theorem checkList_eq_valid {check : Json → Checked α} {value : Json} {xs : List α}
    (valid : checkList check value = .valid xs) : ∀ x ∈ xs, ∃ item, check item = .valid x := by
  cases value with
  | array items =>
    intro x listed
    have member : Checked.valid x ∈ xs.map Checked.valid := List.mem_map_of_mem listed
    rw [← checkAll_eq_valid_iff.mp valid] at member
    obtain ⟨index, within, same⟩ := List.mem_mapIdx.mp member
    exact ⟨items[index], Checked.within_eq_valid_iff.mp same⟩
  | _ => cases valid

/-- What is in a checked mapping has been checked itself. -/
theorem checkMapping_eq_valid {check : Json → Checked α} {value : Json} {table : Table String α}
    (valid : checkMapping check value = .valid table) :
    ∃ fields, value = .object fields ∧
      ∀ entry ∈ table.entries, ∃ field ∈ fields, check field.2 = .valid entry.2 := by
  cases value with
  | object fields =>
    refine ⟨fields, rfl, ?_⟩
    obtain ⟨entries, all, rfl⟩ := Checked.map_eq_valid_iff.mp valid
    intro entry listed
    have member : Checked.valid entry ∈ entries.map Checked.valid :=
      List.mem_map_of_mem (Table.mem_of_mem_ofList listed)
    rw [← checkAll_eq_valid_iff.mp all] at member
    obtain ⟨field, here, same⟩ := List.mem_map.mp member
    rw [Checked.within_eq_valid_iff, Checked.map_eq_valid_iff] at same
    obtain ⟨x, checked, rfl⟩ := same
    exact ⟨field, here, checked⟩
  | _ => cases valid

theorem checkMade_eq_valid {check : List (String × Json) → Checked α} {value : Json} {x : α}
    (valid : checkMade check value = .valid x) :
    ∃ fields, value = .object fields ∧ check fields = .valid x := by
  cases value with
  | object fields =>
    refine ⟨fields, rfl, ?_⟩
    simp only [checkMade, checkObject] at valid
    split at valid
    · cases valid
    · exact valid
  | _ => cases valid

theorem Bounded.lookup {count : Nat} {fields : List (String × Json)} {name : String} {value : Json}
    (bounded : Bounded count (.object fields)) (found : fields.lookup name = some value) :
    Bounded count value := by
  obtain ⟨before, after, split, -⟩ := List.lookup_eq_some_iff.mp found
  have listed : (name, value) ∈ fields := by simp [split]
  exact bounded_object.mp bounded _ listed

open Numeral

theorem checkWholeFloat_fits {x : Binary64} {n : Int} (valid : checkWholeFloat x = .valid n) :
    FitsDigits n := by
  unfold checkWholeFloat at valid
  split at valid
  · split at valid
    · cases valid
    · split at valid
      · cases valid
      · rename_i small
        cases valid
        have word : Nat.pow 2 63 ≤ 10 ^ 19 := by decide
        have room : 10 ^ 19 ≤ 10 ^ digitLimit := Nat.pow_le_pow_right (by decide) (by decide)
        have below := Nat.lt_of_not_le small
        exact Nat.lt_of_lt_of_le (Nat.lt_of_lt_of_le below word) room
  · cases valid

/-- A whole number fits, whether it was one in the document or is another spelling of one. -/
theorem checkInteger_fits {value : Json} {n : Int} (bounded : Bounded digitLimit value)
    (valid : checkInteger value = .valid n) : FitsDigits n := by
  cases value with
  | int m =>
    cases valid
    exact bounded _ (List.mem_singleton_self _)
  | bool b =>
    cases valid
    exact fitsDigits_of_small (by cases b <;> decide)
  | float x => exact checkWholeFloat_fits valid
  | string text =>
    change checkIntegerText text.toList = .valid n at valid
    unfold checkIntegerText at valid
    split at valid
    · rename_i read
      cases valid
      exact readLoose_fits read
    · cases valid
    · cases valid
  | _ => cases valid

theorem checkFieldOr_fits {fields : List (String × Json)} {name : String} {n : Int}
    (bounded : Bounded digitLimit (.object fields))
    (valid : checkFieldOr fields name 0 checkInteger = .valid n) : FitsDigits n := by
  rcases checkFieldOr_eq_valid valid with rfl | ⟨value, found, checked⟩
  · exact fitsDigits_of_small (by decide)
  · exact checkInteger_fits (bounded.lookup found) checked

end Json

open Json

theorem Request.fits_of_check {value : Json} {r : Request}
    (bounded : Bounded Numeral.digitLimit value) (valid : Request.check value = .valid r) :
    FitsDigits r.hits ∧ FitsDigits r.durations ∧ FitsDigits r.systemErrors := by
  obtain ⟨fields, rfl, checked⟩ := checkMade_eq_valid valid
  simp only [Checked.seq_eq_valid_iff, Checked.map_eq_valid_iff] at checked
  obtain ⟨_, systemErrors, ⟨_, durations, ⟨_, hits, ⟨name, -, rfl⟩, first, rfl⟩, second, rfl⟩,
    third, rfl⟩ := checked
  exact ⟨checkFieldOr_fits bounded first, checkFieldOr_fits bounded second,
    checkFieldOr_fits bounded third⟩

/-- The parts of a counter come from the fields of its document. -/
theorem Counter.check_eq_valid {now : Option DateTime} {value : Json} {c : Counter}
    (valid : Counter.check now value = .valid c) :
    ∃ fields, value = .object fields ∧
      checkDateOr fields "start_date" now = .valid c.startDate ∧
      checkFieldOr fields "requests" .empty (checkMapping Request.check) = .valid c.requests ∧
      checkFieldOr fields "errors" [] (checkList (Incident.check now)) = .valid c.errors := by
  cases value with
  | object fields =>
    change Counter.checkFields now fields = .valid c at valid
    simp only [Counter.checkFields, Checked.seq_eq_valid_iff, Checked.map_eq_valid_iff] at valid
    obtain ⟨_, errors, ⟨_, requests, ⟨_, date, ⟨_, stored, ⟨_, application, ⟨name, -, rfl⟩, -, rfl⟩,
      -, rfl⟩, dated, rfl⟩, mapped, rfl⟩, listed, rfl⟩ := valid
    exact ⟨fields, rfl, dated, mapped, listed⟩
  | _ => cases valid

/-- All numbers of a counter that a document stands for can be read back. -/
theorem Counter.fitsDigits_of_check {now : Option DateTime} {value : Json} {c : Counter}
    (bounded : Bounded Numeral.digitLimit value) (valid : Counter.check now value = .valid c) :
    c.FitsDigits := by
  obtain ⟨fields, rfl, -, mapped, -⟩ := Counter.check_eq_valid valid
  intro n listed
  obtain ⟨r, held, here⟩ := List.mem_flatMap.mp listed
  obtain ⟨entry, member, rfl⟩ := List.mem_map.mp held
  rcases checkFieldOr_eq_valid mapped with nothing | ⟨inner, found, checked⟩
  · rw [nothing] at member
    cases member
  · obtain ⟨members, rfl, each⟩ := checkMapping_eq_valid checked
    obtain ⟨field, here', same⟩ := each entry member
    obtain ⟨hits, durations, systemErrors⟩ :=
      Request.fits_of_check (bounded_object.mp (bounded.lookup found) field here') same
    simp only [List.mem_cons, List.not_mem_nil, or_false] at here
    rcases here with rfl | rfl | rfl
    · exact hits
    · exact durations
    · exact systemErrors

/-! Dates -/

section Dates

variable {now : Option DateTime} {value : Json}

theorem Json.whole_of_checkDate {t : DateTime} (valid : checkDate value = .valid t) : t.Whole := by
  have ok {read : Except DateTime.Fault DateTime} (valid : checkedDate read = .valid t) :
      read = .ok t := by
    unfold checkedDate at valid
    split at valid <;> cases valid
    rfl
  cases value with
  | string text => exact DateTime.whole_ofText (ok valid)
  | int n => exact DateTime.whole_ofInt (ok valid)
  | float x => exact DateTime.whole_ofBinary64 (ok valid)
  | _ => cases valid

/-- A date that was left out is the present. -/
theorem Json.whole_of_checkDateOr {fields : List (String × Json)} {name : String} {t : DateTime}
    (present : ∀ date ∈ now, date.Whole) (valid : checkDateOr fields name now = .valid t) :
    t.Whole := by
  cases now with
  | some date =>
    rcases checkFieldOr_eq_valid valid with rfl | ⟨value, -, checked⟩
    · exact present t rfl
    · exact whole_of_checkDate checked
  | none =>
    unfold checkDateOr at valid
    dsimp only at valid
    split at valid
    · obtain ⟨value, -, checked⟩ := checkField_eq_valid valid
      exact whole_of_checkDate checked
    · cases valid

theorem Incident.whole_of_check {i : Incident} (present : ∀ date ∈ now, date.Whole)
    (valid : Incident.check now value = .valid i) : i.time.Whole := by
  obtain ⟨fields, rfl, checked⟩ := checkMade_eq_valid valid
  simp only [Checked.seq_eq_valid_iff, Checked.map_eq_valid_iff] at checked
  obtain ⟨_, user, ⟨_, request, ⟨_, message, ⟨time, dated, rfl⟩, -, rfl⟩, -, rfl⟩, -, rfl⟩ := checked
  exact whole_of_checkDateOr present dated

/-- The dates of a counter that a document stands for can be written as they are. -/
theorem Counter.whole_of_check {c : Counter} (present : ∀ date ∈ now, date.Whole)
    (valid : Counter.check now value = .valid c) : c.Whole := by
  obtain ⟨fields, rfl, dated, -, listed⟩ := Counter.check_eq_valid valid
  refine ⟨whole_of_checkDateOr present dated, fun i member => ?_⟩
  rcases checkFieldOr_eq_valid listed with nothing | ⟨value, -, checked⟩
  · rw [nothing] at member
    cases member
  · obtain ⟨item, made⟩ := checkList_eq_valid checked i member
    exact Incident.whole_of_check present made

/-- The present is in universal time. -/
theorem Clock.whole_now? (clock : Clock) : ∀ date ∈ clock.now?, date.Whole :=
  fun _ => DateTime.whole_ofEpochMicros?

end Dates

/-- A counter that is decoded is what the document stands for. -/
theorem Snapshot.check_of_decodeText {nesting : Nat} {now : Option DateTime} {text : List Char}
    {c : Counter} (read : decodeText nesting now text = .ok c) :
    ∃ value, Json.read (limits nesting) text = .ok value ∧ Counter.check now value = .valid c := by
  unfold decodeText at read
  split at read
  · cases read
  · rename_i value document
    refine ⟨value, document, ?_⟩
    change (Counter.check now value).toExcept.mapError ofRefusal = .ok c at read
    cases checked : Counter.check now value with
    | valid counter =>
      rw [checked] at read
      cases read
      rfl
    | _ =>
      rw [checked] at read
      cases read

/-- The counter in any snapshot comes back from its own snapshot. -/
theorem Snapshot.fitsDigits_of_decodeText {nesting : Nat} {now : Option DateTime} {text : List Char}
    {c : Counter} (read : decodeText nesting now text = .ok c) : c.FitsDigits := by
  obtain ⟨value, document, checked⟩ := check_of_decodeText read
  exact Counter.fitsDigits_of_check (Json.read_bounded rfl document) checked

theorem Snapshot.whole_of_decodeText {nesting : Nat} {clock : Clock} {text : List Char} {c : Counter}
    (read : decodeText nesting clock.now? text = .ok c) : c.Whole := by
  obtain ⟨value, -, checked⟩ := check_of_decodeText read
  exact Counter.whole_of_check clock.whole_now? checked

end CounterArchive
