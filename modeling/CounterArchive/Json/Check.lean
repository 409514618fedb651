import CounterArchive.Calendar.Reading
import CounterArchive.Json.Basic
import CounterArchive.Numeral.Plain

/-! Checking that a JSON value has the form of something else. All that is wrong with a value is
reported, in the order of the parts, and not the first issue alone. Numbers and dates are taken
from other spellings too, as long as nothing is lost. -/
namespace CounterArchive.Json

inductive IssueKind where
  | missing
  | noObject
  | noMapping
  | noList
  | noString
  | noUnicode
  | noInteger
  | integerText
  | integerSize
  | fractional
  | notFinite
  | noDate
  | dateText
  | dateRange
deriving DecidableEq

def IssueKind.code : IssueKind → String
  | .missing => "missing"
  | .noObject => "model_attributes_type"
  | .noMapping => "dict_type"
  | .noList => "list_type"
  | .noString => "string_type"
  | .noUnicode => "string_unicode"
  | .noInteger => "int_type"
  | .integerText => "int_parsing"
  | .integerSize => "int_parsing_size"
  | .fractional => "int_from_float"
  | .notFinite => "finite_number"
  | .noDate => "datetime_type"
  | .dateText => "datetime_from_date_parsing"
  | .dateRange => "datetime_parsing"

inductive Step where
  | field (name : String)
  | item (index : Nat)
deriving DecidableEq

structure Issue where
  kind : IssueKind
  location : List Step
deriving DecidableEq

/-- Names that stand for something else while an object is made of its fields, so that no field can
have them. -/
inductive ReservedName where
  | kind
  | itself
deriving DecidableEq

namespace ReservedName

def all : List ReservedName := [.kind, .itself]

def text : ReservedName → String
  | .kind => "cls"
  | .itself => "__pydantic_self__"

/-- The step in the making of an object that takes the name for itself. -/
def step : ReservedName → String
  | .kind => "SQLModel.__new__()"
  | .itself => "SQLModel.__init__()"

def message (name : ReservedName) : String :=
  name.step ++ " got multiple values for argument '" ++ name.text ++ "'"

def among? (fields : List (String × Json)) : Option ReservedName :=
  all.find? fun name => (fields.lookup name.text).isSome

end ReservedName

/-- What ends a check before its end. -/
inductive Halt where
  /-- A date was left out, and there is no present to stand for it. -/
  | undated
  | reserved (name : ReservedName)
deriving DecidableEq

inductive Checked (α : Type) where
  | valid (value : α)
  | invalid (issues : List Issue)
  | halted (cause : Halt)

inductive Refusal where
  | issues (all : List Issue)
  | halted (cause : Halt)
deriving DecidableEq

namespace Checked

variable {α β : Type}

/-- Issues of the first part come before those of the second. Of a check that is halted no issues
are reported. -/
def apply : Checked (α → β) → Checked α → Checked β
  | .halted cause, _ => .halted cause
  | _, .halted cause => .halted cause
  | .valid f, .valid value => .valid (f value)
  | .valid _, .invalid issues => .invalid issues
  | .invalid issues, .valid _ => .invalid issues
  | .invalid first, .invalid second => .invalid (first ++ second)

instance : Applicative Checked where
  pure := .valid
  seq f value := apply f (value ())

def issue (kind : IssueKind) : Checked α := .invalid [⟨kind, []⟩]

def within (step : Step) : Checked α → Checked α
  | .valid value => .valid value
  | .invalid issues => .invalid (issues.map fun i => { i with location := step :: i.location })
  | .halted cause => .halted cause

def toExcept : Checked α → Except Refusal α
  | .valid value => .ok value
  | .invalid issues => .error (.issues issues)
  | .halted cause => .error (.halted cause)

end Checked

variable {α : Type}

def checkAll : List (Checked α) → Checked (List α)
  | [] => .valid []
  | first :: rest => List.cons <$> first <*> checkAll rest

def checkString : Json → Checked String
  | .string value | .halved value => .valid value
  | _ => .issue .noString

def checkNullable (check : Json → Checked α) : Json → Checked (Option α)
  | .null => .valid none
  | value => some <$> check value

def checkIntegerText (text : List Char) : Checked Int :=
  match Numeral.readLoose text with
  | .ok n => .valid n
  | .error .malformed => .issue .integerText
  | .error (.tooLong _) => .issue .integerSize

/-- A float is taken for the whole number that it is, below the range of 64-bit numbers. -/
def checkWholeFloat : Binary64 → Checked Int
  | .finite value =>
    if value.den ≠ 1 then .issue .fractional
    else if Nat.pow 2 63 ≤ value.num.natAbs then .issue .integerSize
    else .valid value.num
  | _ => .issue .notFinite

def checkInteger : Json → Checked Int
  | .int value => .valid value
  | .bool value => .valid value.toNat
  | .float value => checkWholeFloat value
  | .string value => checkIntegerText value.toList
  | .halved _ => .issue .noUnicode
  | _ => .issue .noInteger

def checkedDate : Except DateTime.Fault DateTime → Checked DateTime
  | .ok date => .valid date
  | .error .unreadable => .issue .dateText
  | .error .beyondRange => .issue .noDate
  | .error .noInstant => .issue .dateRange

def checkDate : Json → Checked DateTime
  | .string value => checkedDate (DateTime.ofText value.toList)
  | .halved _ => .issue .noUnicode
  | .int value => checkedDate (DateTime.ofInt value)
  | .float value => checkedDate (DateTime.ofBinary64 value)
  | _ => .issue .noDate

def checkList (check : Json → Checked α) : Json → Checked (List α)
  | .array items => checkAll (items.mapIdx fun index item => (check item).within (.item index))
  | _ => .issue .noList

def checkMapping (check : Json → Checked α) : Json → Checked (Table String α)
  | .object fields =>
    Table.ofList <$> checkAll (fields.map fun (name, value) =>
      ((name, ·) <$> check value).within (.field name))
  | _ => .issue .noMapping

def checkField (fields : List (String × Json)) (name : String) (check : Json → Checked α) :
    Checked α :=
  match fields.lookup name with
  | none => (Checked.issue .missing).within (.field name)
  | some value => (check value).within (.field name)

def checkFieldOr (fields : List (String × Json)) (name : String) (absent : α)
    (check : Json → Checked α) : Checked α :=
  match fields.lookup name with
  | none => .valid absent
  | some value => (check value).within (.field name)

/-- A date that stands for the present when it is left out. -/
def checkDateOr (fields : List (String × Json)) (name : String) :
    Option DateTime → Checked DateTime
  | some now => checkFieldOr fields name now checkDate
  | none =>
    if (fields.lookup name).isSome then checkField fields name checkDate else .halted .undated

def checkObject (check : List (String × Json) → Checked α) : Json → Checked α
  | .object fields => check fields
  | _ => .issue .noObject

/-- An object that is made of its fields, so that a reserved name among them halts the check. -/
def checkMade (check : List (String × Json) → Checked α) : Json → Checked α :=
  checkObject fun fields =>
    match ReservedName.among? fields with
    | some name => .halted (.reserved name)
    | none => check fields

end CounterArchive.Json
