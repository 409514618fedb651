/-! Values in use by several holders at once. A holder keeps the number under which its value
was registered; a change made through one number is seen by all who hold it, and by nobody
else. Numbers are given out in order and are never given out again. -/
namespace CounterArchive

structure Registry (α : Type) where
  values : Array α := #[]

namespace Registry

variable {α : Type}

/-- The number of a registered value of kind `α`. -/
structure Id (α : Type) where
  index : Nat
deriving DecidableEq

instance : EmptyCollection (Registry α) := ⟨{}⟩

instance : Inhabited (Registry α) := ⟨∅⟩

def get? (r : Registry α) (id : Id α) : Option α := r.values[id.index]?

def register (r : Registry α) (value : α) : Registry α × Id α :=
  (⟨r.values.push value⟩, ⟨r.values.size⟩)

def registerAll (r : Registry α) : List α → Registry α × List (Id α)
  | [] => (r, [])
  | value :: rest =>
    let (r, id) := r.register value
    let (r, ids) := r.registerAll rest
    (r, id :: ids)

def update (r : Registry α) (id : Id α) (change : α → α) : Registry α :=
  ⟨r.values.modify id.index change⟩

theorem get?_register_self (r : Registry α) (value : α) :
    (r.register value).1.get? (r.register value).2 = some value := by
  simp [get?, register]

/-- Registering leaves every value that is already known as it was. -/
theorem get?_register_of_some {r : Registry α} {id : Id α} {old : α} (value : α)
    (known : r.get? id = some old) : (r.register value).1.get? id = some old := by
  obtain ⟨bound, same⟩ := Array.getElem?_eq_some_iff.mp known
  simp [get?, register, Array.getElem?_push, Nat.ne_of_lt bound, same, bound]

theorem get?_update_self (r : Registry α) (id : Id α) (change : α → α) :
    (r.update id change).get? id = (r.get? id).map change := by
  simp [get?, update, Array.getElem?_modify]

theorem get?_update_of_ne {id other : Id α} (r : Registry α) (change : α → α)
    (different : id ≠ other) : (r.update id change).get? other = r.get? other := by
  have : id.index ≠ other.index := fun h => different (by cases id; cases other; simp_all)
  simp [get?, update, Array.getElem?_modify, this]

end Registry

end CounterArchive
