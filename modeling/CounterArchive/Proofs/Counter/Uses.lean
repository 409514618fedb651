import CounterArchive.Counter.Basic
import CounterArchive.Proofs.Table
import Mathlib.Algebra.Ring.Int.Defs

/-! What becomes of a counter that is used: each request has grown by the hits on it, and the errors
are the latest ones of all that there were and that were added. -/
namespace CounterArchive

inductive Use where
  | hit (request : String) (duration : Int) (systemError : Bool)
  | error (incident : Incident)
deriving DecidableEq

namespace Use

/-- The hits on a request: how long each took, and whether it was a system error. -/
def hitsOn (name : String) (uses : List Use) : List (Int × Bool) :=
  uses.filterMap fun
    | .hit request duration systemError =>
      if request = name then some (duration, systemError) else none
    | .error _ => none

def incidents (uses : List Use) : List Incident :=
  uses.filterMap fun
    | .hit .. => none
    | .error incident => some incident

end Use

def Request.grown (r : Request) (hits : List (Int × Bool)) : Request :=
  { r with
    hits := r.hits + hits.length
    durations := r.durations + (hits.map Prod.fst).sum
    systemErrors := r.systemErrors + hits.countP Prod.snd }

theorem Request.grown_nil (r : Request) : r.grown [] = r := by
  simp [grown]

theorem Request.grown_cons (r : Request) (hit : Int × Bool) (hits : List (Int × Bool)) :
    r.grown (hit :: hits) = (r.addHit hit.1 hit.2).grown hits := by
  obtain ⟨duration, systemError⟩ := hit
  cases systemError <;>
    simp [grown, addHit, Int.add_assoc, Int.add_comm, Int.add_left_comm]

namespace Counter

variable {c before after : Counter} {name : String} {uses : List Use}

def use (c : Counter) : Use → Counter
  | .hit request duration systemError => c.addHits request duration systemError
  | .error incident => c.addError incident

def useAll (c : Counter) (uses : List Use) : Counter := uses.foldl use c

def request (c : Counter) (name : String) : Request := (c.requests.get? name).getD { name }

/-- Uses leave a counter in its place. -/
theorem place_useAll (c : Counter) (uses : List Use) :
    (c.useAll uses).application = c.application ∧ (c.useAll uses).storedAs = c.storedAs := by
  induction uses generalizing c with
  | nil => exact ⟨rfl, rfl⟩
  | cons first rest ih =>
    obtain ⟨application, storedAs⟩ := ih (c.use first)
    cases first <;> exact ⟨application, storedAs⟩

/-! Requests -/

theorem request_addHits (c : Counter) (request : String) (duration : Int) (systemError : Bool)
    (name : String) : (c.addHits request duration systemError).request name =
      if request = name then (c.request name).addHit duration systemError else c.request name := by
  rw [Counter.request, addHits, Table.get?_insert]
  by_cases same : name = request
  · subst same
    simp [Counter.request]
  · have other : request ≠ name := fun equal => same equal.symm
    simp [Counter.request, same, other]

theorem request_useAll (c : Counter) (uses : List Use) (name : String) :
    (c.useAll uses).request name = (c.request name).grown (Use.hitsOn name uses) := by
  induction uses generalizing c with
  | nil => exact (Request.grown_nil _).symm
  | cons first rest ih =>
    rw [useAll, List.foldl_cons, ← useAll, ih]
    cases first with
    | error incident => rfl
    | hit request duration systemError =>
      rw [use, request_addHits]
      by_cases same : request = name
      · have hits : Use.hitsOn name (.hit request duration systemError :: rest) =
            (duration, systemError) :: Use.hitsOn name rest := by simp [Use.hitsOn, same]
        rw [if_pos same, hits, Request.grown_cons]
      · have hits : Use.hitsOn name (.hit request duration systemError :: rest) =
            Use.hitsOn name rest := by simp [Use.hitsOn, same]
        rw [if_neg same, hits]

/-! Errors -/

/-- Nothing that is left out at first would have been among the last. -/
theorem lastOf_lastOf_append {α : Type} (count : Nat) (first second : List α) :
    lastOf count (lastOf count first ++ second) = lastOf count (first ++ second) := by
  have long : (lastOf count first ++ second).length - count =
      (first ++ second).length - count - (first.length - count) := by
    simp only [lastOf, List.length_append, List.length_drop]
    omega
  have cut : lastOf count first ++ second = (first ++ second).drop (first.length - count) := by
    rw [List.drop_append_of_le_length (Nat.sub_le _ _)]
    rfl
  have reaches : first.length - count + ((first ++ second).length - count - (first.length - count)) =
      (first ++ second).length - count := by
    rw [List.length_append]
    omega
  rw [lastOf, long, cut, List.drop_drop, reaches]
  rfl

def errorsAfter (c : Counter) (incidents : List Incident) : List Incident :=
  if incidents = [] then c.errors else lastOf errorWindow (c.errors ++ incidents)

/-- Errors that are added later come after those that were added before. -/
theorem errorsAfter_append {d : Counter} {first : List Incident}
    (step : d.errors = c.errorsAfter first) (rest : List Incident) :
    d.errorsAfter rest = c.errorsAfter (first ++ rest) := by
  rw [errorsAfter, step]
  by_cases noMore : rest = []
  · rw [if_pos noMore, noMore, List.append_nil]
  · have some : first ++ rest ≠ [] := List.append_ne_nil_of_right_ne_nil _ noMore
    rw [if_neg noMore, errorsAfter, errorsAfter, if_neg some]
    split
    · rename_i none
      rw [none, List.nil_append]
    · rw [lastOf_lastOf_append, List.append_assoc]

theorem errors_useAll (c : Counter) (uses : List Use) :
    (c.useAll uses).errors = c.errorsAfter (Use.incidents uses) := by
  induction uses generalizing c with
  | nil => rfl
  | cons first rest ih =>
    rw [useAll, List.foldl_cons, ← useAll, ih]
    cases first with
    | hit request duration systemError => rfl
    | error incident =>
      have step : (c.addError incident).errors = c.errorsAfter [incident] := rfl
      exact errorsAfter_append step (Use.incidents rest)

/-- A counter has grown by some uses: each request by the hits on it, and the errors by those that were
added, up to the latest ones. -/
structure GrownBy (before after : Counter) (uses : List Use) : Prop where
  requests : ∀ name, after.request name = (before.request name).grown (Use.hitsOn name uses)
  errors : after.errors = before.errorsAfter (Use.incidents uses)

theorem grownBy_useAll (c : Counter) (uses : List Use) : c.GrownBy (c.useAll uses) uses :=
  ⟨c.request_useAll uses, c.errors_useAll uses⟩

/-- An unused counter is all empty. -/
theorem isUnused_iff (c : Counter) :
    c.isUnused = true ↔ c.requests = .empty ∧ c.errors = [] := by
  rw [isUnused, Bool.and_eq_true, List.isEmpty_iff, List.isEmpty_iff]
  constructor
  · rintro ⟨requests, errors⟩
    exact ⟨Table.ext requests, errors⟩
  · rintro ⟨requests, errors⟩
    rw [requests, errors]
    exact ⟨rfl, rfl⟩

theorem isUnused_use (c : Counter) (one : Use) : (c.use one).isUnused = false := by
  rw [isUnused, Bool.and_eq_false_iff]
  cases one with
  | hit request duration systemError =>
    left
    rw [List.isEmpty_eq_false_iff]
    intro empty
    have known := (Table.get?_ne_none_iff (c.addHits request duration systemError).requests request).mp
      (by simp [addHits])
    change request ∈ (c.addHits request duration systemError).requests.entries.map Prod.fst at known
    change (c.addHits request duration systemError).requests.entries = [] at empty
    rw [empty] at known
    cases known
  | error incident =>
    right
    rw [List.isEmpty_eq_false_iff]
    change lastOf errorWindow (c.errors ++ [incident]) ≠ []
    rw [lastOf, ne_eq, List.drop_eq_nil_iff, List.length_append, errorWindow]
    simp only [List.length_singleton]
    omega

/-- A counter is unused just as long as it has not been used. -/
theorem isUnused_useAll (c : Counter) (uses : List Use) :
    (c.useAll uses).isUnused = (c.isUnused && uses.isEmpty) := by
  cases uses with
  | nil => simp [useAll]
  | cons first rest =>
    have later : ∀ (rest : List Use) (c : Counter), c.isUnused = false →
        (c.useAll rest).isUnused = false := by
      intro rest
      induction rest with
      | nil => exact fun _ used => used
      | cons next rest ih => exact fun c _ => ih (c.use next) (c.isUnused_use next)
    have used := later rest (c.use first) (c.isUnused_use first)
    rw [useAll, List.foldl_cons, ← useAll, used]
    simp

end Counter

end CounterArchive
