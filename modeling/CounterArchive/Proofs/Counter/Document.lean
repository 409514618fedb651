import CounterArchive.Counter.Document
import CounterArchive.Proofs.Calendar.Stored
import CounterArchive.Proofs.Json.RoundTrip

/-! The document of a counter has the form of that counter, at any time, and it can be read. -/
namespace CounterArchive

namespace Json

variable {α β : Type}

theorem checkAll_valid (xs : List α) : checkAll (xs.map .valid) = .valid xs := by
  induction xs with
  | nil => rfl
  | cons x xs ih =>
    rw [List.map_cons, checkAll, ih]
    rfl

theorem checkList_written {check : Json → Checked α} {written : α → Json} {xs : List α}
    (read : ∀ x ∈ xs, check (written x) = .valid x) :
    checkList check (.array (xs.map written)) = .valid xs := by
  have items : (xs.map written).mapIdx
      (fun index item => (check item).within (.item index)) = xs.map .valid := by
    apply List.ext_getElem
    · simp
    · intro index _ _
      simp [read, Checked.within]
  rw [checkList, items, checkAll_valid]

theorem checkMapping_written {check : Json → Checked α} {written : α → Json}
    (table : Table String α) (read : ∀ x, check (written x) = .valid x) :
    checkMapping check (.object (table.entries.map fun (name, x) => (name, written x))) =
      .valid table := by
  have fields : (table.entries.map fun entry => (entry.1, written entry.2)).map
      (fun field => ((field.1, ·) <$> check field.2).within (.field field.1)) =
        table.entries.map .valid := by
    rw [List.map_map]
    apply List.map_congr_left
    intro entry _
    simp only [Function.comp_apply, read]
    rfl
  refine (congrArg (Table.ofList <$> checkAll ·) fields).trans ?_
  rw [checkAll_valid]
  exact congrArg Checked.valid table.ofList_entries

theorem checkDate_toJson {t : DateTime} (whole : t.Whole) : checkDate t.toJson = .valid t := by
  rw [DateTime.toJson, checkDate, String.toList_ofList, (DateTime.ofText_stored_iff t).mpr whole]
  rfl

section Fields

variable {fields : List (String × Json)} {name : String} {value : Json} {x : α}

theorem checkField_valid {check : Json → Checked α} (found : fields.lookup name = some value)
    (read : check value = .valid x) : checkField fields name check = .valid x := by
  rw [checkField, found]
  simp only [read]
  rfl

theorem checkFieldOr_valid {check : Json → Checked α} (absent : α)
    (found : fields.lookup name = some value) (read : check value = .valid x) :
    checkFieldOr fields name absent check = .valid x := by
  rw [checkFieldOr, found]
  simp only [read]
  rfl

/-- A date that is there does not depend on the present. -/
theorem checkDateOr_valid (now : Option DateTime) {t : DateTime} (whole : t.Whole)
    (found : fields.lookup name = some t.toJson) : checkDateOr fields name now = .valid t := by
  cases now with
  | none =>
    rw [checkDateOr, found]
    exact checkField_valid found (checkDate_toJson whole)
  | some now => exact checkFieldOr_valid now found (checkDate_toJson whole)

end Fields

theorem checkNullable_textOrNull (text : Option String) :
    checkNullable checkString (textOrNull text) = .valid text := by
  cases text <;> rfl

end Json

open Json

theorem Request.check_toJson (r : Request) : Request.check r.toJson = .valid r := rfl

theorem Incident.check_toJson (now : Option DateTime) {i : Incident} (whole : i.time.Whole) :
    Incident.check now i.toJson = .valid i := by
  change Incident.mk <$> checkDateOr _ "time" now <*> checkField _ "message" checkString
    <*> checkFieldOr _ "request_name" none (checkNullable checkString)
    <*> checkFieldOr _ "remote_user" none (checkNullable checkString) = _
  rw [checkDateOr_valid now whole, checkField_valid (x := i.message),
    checkFieldOr_valid none _ (checkNullable_textOrNull i.requestName),
    checkFieldOr_valid none _ (checkNullable_textOrNull i.remoteUser)]
  all_goals rfl

namespace Counter

/-- There are no seconds in the offset of any date in a counter. -/
structure Whole (c : Counter) : Prop where
  startDate : c.startDate.Whole
  errors : ∀ i ∈ c.errors, i.time.Whole

instance (c : Counter) : Decidable c.Whole :=
  decidable_of_iff (c.startDate.Whole ∧ ∀ i ∈ c.errors, i.time.Whole)
    ⟨fun ⟨startDate, errors⟩ => ⟨startDate, errors⟩, fun ⟨startDate, errors⟩ => ⟨startDate, errors⟩⟩

theorem Whole.addError {c : Counter} (whole : c.Whole) {i : Incident} (added : i.time.Whole) :
    (c.addError i).Whole := by
  refine ⟨whole.startDate, fun j listed => ?_⟩
  rcases List.mem_append.mp (List.mem_of_mem_drop listed) with old | new
  · exact whole.errors j old
  · rw [List.mem_singleton.mp new]
    exact added

/-- The document of a counter is read as that counter, whatever the time. -/
theorem check_toJson (now : Option DateTime) {c : Counter} (whole : c.Whole) :
    Counter.check now c.toJson = .valid c := by
  have errors := checkList_written fun i listed => Incident.check_toJson now (whole.errors i listed)
  have requests := checkMapping_written c.requests Request.check_toJson
  change Counter.mk <$> checkField _ "name" checkString <*> checkField _ "application" checkString
    <*> checkFieldOr _ "storage_name" none (checkNullable checkString)
    <*> checkDateOr _ "start_date" now
    <*> checkFieldOr _ "requests" .empty (checkMapping Request.check)
    <*> checkFieldOr _ "errors" [] (checkList (Incident.check now)) = _
  rw [checkField_valid (x := c.name), checkField_valid (x := c.application),
    checkFieldOr_valid none _ (checkNullable_textOrNull c.storageName),
    checkDateOr_valid now whole.startDate, checkFieldOr_valid .empty _ requests,
    checkFieldOr_valid [] _ errors]
  all_goals rfl

def integers (c : Counter) : List Int :=
  c.requests.values.flatMap fun r => [r.hits, r.durations, r.systemErrors]

theorem integers_textOrNull (text : Option String) : (textOrNull text).integers = [] := by
  cases text <;> rfl

theorem integers_toJson (c : Counter) : c.toJson.integers = c.integers := by
  have requests : integersOfFields
      (c.requests.entries.map fun entry => (entry.1, entry.2.toJson)) = c.integers := by
    rw [integersOfFields_eq, integers, Table.values, List.flatMap_map, List.flatMap_map]
    rfl
  have errors : integersOfItems (c.errors.map Incident.toJson) = [] := by
    rw [integersOfItems_eq, List.flatMap_map, List.flatMap_eq_nil_iff]
    intro i _
    change (textOrNull i.requestName).integers ++ ((textOrNull i.remoteUser).integers ++ []) = []
    rw [integers_textOrNull, integers_textOrNull]
    rfl
  change (textOrNull c.storageName).integers ++
    (integersOfFields (c.requests.entries.map fun entry => (entry.1, entry.2.toJson)) ++
      (integersOfItems (c.errors.map Incident.toJson) ++ [])) = c.integers
  rw [integers_textOrNull, requests, errors, List.nil_append, List.append_nil, List.append_nil]

theorem legible_textOrNull {depth : Nat} (text : Option String) :
    Legible depth (textOrNull text) := by
  cases text with
  | none => exact .null
  | some text => exact .string text

theorem legible_request {depth : Nat} (r : Request) : Legible (depth + 1) r.toJson := by
  have distinct : ["name", "hits", "durations_sum", "system_errors"].Nodup := by decide
  refine .object distinct ?_
  intro field listed
  simp only [List.mem_cons, List.not_mem_nil, or_false] at listed
  rcases listed with rfl | rfl | rfl | rfl
  · exact .string r.name
  · exact .int r.hits
  · exact .int r.durations
  · exact .int r.systemErrors

theorem legible_incident {depth : Nat} (i : Incident) : Legible (depth + 1) i.toJson := by
  have distinct : ["time", "message", "request_name", "remote_user"].Nodup := by decide
  refine .object distinct ?_
  intro field listed
  simp only [List.mem_cons, List.not_mem_nil, or_false] at listed
  rcases listed with rfl | rfl | rfl | rfl
  · exact .string _
  · exact .string i.message
  · exact legible_textOrNull i.requestName
  · exact legible_textOrNull i.remoteUser

/-- A document has requests and errors in it, which have fields. -/
theorem legible_toJson {depth : Nat} (c : Counter) : Legible (depth + 3) c.toJson := by
  have distinct : ["name", "application", "storage_name", "start_date", "requests",
      "errors"].Nodup := by decide
  refine .object distinct ?_
  intro field listed
  simp only [List.mem_cons, List.not_mem_nil, or_false] at listed
  rcases listed with rfl | rfl | rfl | rfl | rfl | rfl
  · exact .string c.name
  · exact .string c.application
  · exact legible_textOrNull c.storageName
  · exact .string _
  · refine .object ?_ ?_
    · rw [List.map_map]
      exact c.requests.distinct
    · intro field listed
      obtain ⟨⟨name, r⟩, -, rfl⟩ := List.mem_map.mp listed
      exact legible_request r
  · refine .array ?_
    intro item listed
    obtain ⟨i, -, rfl⟩ := List.mem_map.mp listed
    exact legible_incident i

end Counter

end CounterArchive
