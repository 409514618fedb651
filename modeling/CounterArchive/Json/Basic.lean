import CounterArchive.Binary64
import CounterArchive.Table

/-! JSON values. Whole numbers are kept apart from decimals, and the fields of an object keep the
order in which they came. -/
namespace CounterArchive

inductive Json where
  | null
  | bool (value : Bool)
  | int (value : Int)
  | float (value : Binary64)
  | string (value : String)
  /-- A string with half a character in it that stands alone. It is shown with another character
  instead. -/
  | halved (shown : String)
  | array (items : List Json)
  | object (fields : List (String × Json))

namespace Json

instance : Inhabited Json := ⟨.null⟩

def field? (name : String) : Json → Option Json
  | .object fields => fields.lookup name
  | _ => none

end Json

end CounterArchive
