import CounterArchive.Counter.Document
import CounterArchive.Proofs.Table

/-! What ends the check of a document before its end: a name in a request or in an error that is
reserved. A date that is left out does not, as long as there is a present to stand for it. -/
namespace CounterArchive

open Json

namespace Json.Checked

variable {α β : Type}

def halt? : Checked α → Option Halt
  | .halted cause => some cause
  | _ => none

@[simp] theorem halt?_map (f : α → β) (checked : Checked α) :
    (f <$> checked).halt? = checked.halt? := by
  cases checked <;> rfl

/-- The first part that halts is the one that counts. -/
@[simp] theorem halt?_seq (f : Checked (α → β)) (checked : Checked α) :
    (f <*> checked).halt? = f.halt?.or checked.halt? := by
  cases f <;> cases checked <;> rfl

@[simp] theorem halt?_within (step : Step) (checked : Checked α) :
    (checked.within step).halt? = checked.halt? := by
  cases checked <;> rfl

@[simp] theorem halt?_issue (kind : IssueKind) : (issue kind : Checked α).halt? = none := rfl

end Json.Checked

namespace Json

variable {α : Type}

theorem halt?_checkAll (checks : List (Checked α)) :
    (checkAll checks).halt? = checks.findSome? Checked.halt? := by
  induction checks with
  | nil => rfl
  | cons first rest ih =>
    rw [checkAll, List.findSome?_cons, Checked.halt?_seq, Checked.halt?_map, ih]
    cases first.halt? <;> rfl

@[simp] theorem halt?_checkString (value : Json) : (checkString value).halt? = none := by
  unfold checkString
  split <;> rfl

@[simp] theorem halt?_checkInteger (value : Json) : (checkInteger value).halt? = none := by
  unfold checkInteger checkWholeFloat checkIntegerText
  repeat' split
  all_goals rfl

@[simp] theorem halt?_checkDate (value : Json) : (checkDate value).halt? = none := by
  unfold checkDate checkedDate
  repeat' split
  all_goals rfl

@[simp] theorem halt?_checkNullable {check : Json → Checked α}
    (calm : ∀ value, (check value).halt? = none) (value : Json) :
    (checkNullable check value).halt? = none := by
  unfold checkNullable
  split
  · rfl
  · rw [Checked.halt?_map, calm]

theorem halt?_checkField (fields : List (String × Json)) (name : String)
    (check : Json → Checked α) :
    (checkField fields name check).halt? =
      (fields.lookup name).bind fun value => (check value).halt? := by
  unfold checkField
  cases fields.lookup name <;> simp

theorem halt?_checkFieldOr (fields : List (String × Json)) (name : String) (absent : α)
    (check : Json → Checked α) :
    (checkFieldOr fields name absent check).halt? =
      (fields.lookup name).bind fun value => (check value).halt? := by
  unfold checkFieldOr
  cases fields.lookup name with
  | none => rfl
  | some value => simp

def items : Json → List Json
  | .array items => items
  | _ => []

def members : Json → List Json
  | .object fields => fields.map Prod.snd
  | _ => []

theorem findSome?_mapIdx {β γ : Type} {f : Nat → α → β} {g : β → Option γ} {h : α → Option γ}
    (l : List α) (same : ∀ index x, g (f index x) = h x) :
    (l.mapIdx f).findSome? g = l.findSome? h := by
  induction l generalizing f with
  | nil => rfl
  | cons first rest ih =>
    rw [List.mapIdx_cons, List.findSome?_cons, List.findSome?_cons, same,
      ih fun index => same (index + 1)]

theorem halt?_checkList (check : Json → Checked α) (value : Json) :
    (checkList check value).halt? = value.items.findSome? fun item => (check item).halt? := by
  cases value with
  | array items =>
    change (checkAll _).halt? = items.findSome? _
    rw [halt?_checkAll]
    exact findSome?_mapIdx items fun index item => Checked.halt?_within _ _
  | _ => rfl

theorem halt?_checkMapping (check : Json → Checked α) (value : Json) :
    (checkMapping check value).halt? = value.members.findSome? fun item => (check item).halt? := by
  cases value with
  | object fields =>
    change (Table.ofList <$> checkAll _).halt? = (fields.map Prod.snd).findSome? _
    rw [Checked.halt?_map, halt?_checkAll, List.findSome?_map, List.findSome?_map]
    congr 1
    funext field
    simp
  | _ => rfl

/-- The present stands for a date that is left out. -/
@[simp] theorem halt?_checkDateOr (fields : List (String × Json)) (name : String)
    (now : DateTime) : (checkDateOr fields name (some now)).halt? = none := by
  rw [checkDateOr, halt?_checkFieldOr]
  cases fields.lookup name <;> simp

def reserved? : Json → Option ReservedName
  | .object fields => ReservedName.among? fields
  | _ => none

theorem halt?_checkMade {check : List (String × Json) → Checked α}
    (calm : ∀ fields, (check fields).halt? = none) (value : Json) :
    (checkMade check value).halt? = value.reserved?.map .reserved := by
  cases value with
  | object fields =>
    simp only [checkMade, checkObject, reserved?]
    cases ReservedName.among? fields with
    | none => exact calm fields
    | some name => rfl
  | _ => rfl

end Json

/-- The first reserved name in the document of a counter: that of a field of a request, or of an
error. -/
def Counter.reserved? : Json → Option ReservedName
  | .object fields =>
    ((fields.lookup "requests").bind fun requests => requests.members.findSome? Json.reserved?).or
      ((fields.lookup "errors").bind fun errors => errors.items.findSome? Json.reserved?)
  | _ => none

theorem Request.halt?_check (value : Json) :
    (Request.check value).halt? = value.reserved?.map .reserved := by
  apply halt?_checkMade
  intro fields
  simp [halt?_checkField, halt?_checkFieldOr]

theorem Incident.halt?_check (now : DateTime) (value : Json) :
    (Incident.check (some now) value).halt? = value.reserved?.map .reserved := by
  apply halt?_checkMade
  intro fields
  simp [halt?_checkField, halt?_checkFieldOr]

/-- A check with a present is halted by reserved names only. -/
theorem Counter.halt?_check (now : DateTime) (value : Json) :
    (Counter.check (some now) value).halt? = (Counter.reserved? value).map .reserved := by
  cases value with
  | object fields =>
    change (Counter.checkFields (some now) fields).halt? = _
    simp [Counter.checkFields, Counter.reserved?, halt?_checkField, halt?_checkFieldOr,
      halt?_checkMapping, halt?_checkList, Request.halt?_check, Incident.halt?_check,
      Option.map_or, Option.map_bind, List.map_findSome?, Function.comp_def]
  | _ => rfl

end CounterArchive
