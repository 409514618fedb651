import CounterArchive.Counter.Basic
import CounterArchive.Json.Check
import CounterArchive.Json.Printer

/-! The JSON document of a counter. All fields are written, in a fixed order. Fields may be left
out in what is read, apart from names; a date that is left out is the present. Requests and errors
in a document are made of their fields, and so is a new counter. The counter that a document stands
for is not made anew, so that its fields may have any names. -/
namespace CounterArchive

open Json

def DateTime.toJson (t : DateTime) : Json := .string (String.ofList (t.text DateTime.stored))

def textOrNull : Option String → Json
  | none => .null
  | some text => .string text

namespace Request

def toJson (r : Request) : Json :=
  .object [("name", .string r.name), ("hits", .int r.hits), ("durations_sum", .int r.durations),
    ("system_errors", .int r.systemErrors)]

def check : Json → Checked Request :=
  checkMade fun fields =>
    Request.mk <$> checkField fields "name" checkString
      <*> checkFieldOr fields "hits" 0 checkInteger
      <*> checkFieldOr fields "durations_sum" 0 checkInteger
      <*> checkFieldOr fields "system_errors" 0 checkInteger

end Request

namespace Incident

def toJson (i : Incident) : Json :=
  .object [("time", i.time.toJson), ("message", .string i.message),
    ("request_name", textOrNull i.requestName), ("remote_user", textOrNull i.remoteUser)]

def check (now : Option DateTime) : Json → Checked Incident :=
  checkMade fun fields =>
    Incident.mk <$> checkDateOr fields "time" now
      <*> checkField fields "message" checkString
      <*> checkFieldOr fields "request_name" none (checkNullable checkString)
      <*> checkFieldOr fields "remote_user" none (checkNullable checkString)

end Incident

namespace Counter

def toJson (c : Counter) : Json :=
  .object [("name", .string c.name), ("application", .string c.application),
    ("storage_name", textOrNull c.storageName), ("start_date", c.startDate.toJson),
    ("requests", .object (c.requests.entries.map fun (name, r) => (name, r.toJson))),
    ("errors", .array (c.errors.map Incident.toJson))]

def text (c : Counter) : List Char := c.toJson.text

def checkFields (now : Option DateTime) (fields : List (String × Json)) : Checked Counter :=
  Counter.mk <$> checkField fields "name" checkString
    <*> checkField fields "application" checkString
    <*> checkFieldOr fields "storage_name" none (checkNullable checkString)
    <*> checkDateOr fields "start_date" now
    <*> checkFieldOr fields "requests" .empty (checkMapping Request.check)
    <*> checkFieldOr fields "errors" [] (checkList (Incident.check now))

def check (now : Option DateTime) : Json → Checked Counter := checkObject (checkFields now)

/-- A counter is what has the form of one; otherwise all that is wrong is reported. -/
def ofJson (now : Option DateTime) (value : Json) : Except Refusal Counter :=
  (check now value).toExcept

def make (now : Option DateTime) (value : Json) : Except Refusal Counter :=
  (checkMade (checkFields now) value).toExcept

end Counter

end CounterArchive
