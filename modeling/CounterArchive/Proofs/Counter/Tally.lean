import CounterArchive.Proofs.Archive.Bare
import CounterArchive.Proofs.Counter.Uses
import Mathlib.Algebra.Order.BigOperators.Group.List
import Mathlib.Algebra.Order.Ring.Int

/-! What all hits on a counter amount to. Each request has grown by the hits on it, whatever their order;
requests are listed in the order in which they were first hit; and a mean duration lies between the
durations that it is the mean of. -/
namespace CounterArchive

namespace Use

def requests (uses : List Use) : List String :=
  uses.filterMap fun
    | .hit request .. => some request
    | .error _ => none

theorem hitsOn_eq_nil_iff (name : String) (uses : List Use) :
    hitsOn name uses = [] ↔ name ∉ requests uses := by
  rw [hitsOn, List.filterMap_eq_nil_iff, requests, List.mem_filterMap, not_exists]
  refine forall_congr' fun one => ?_
  rw [not_and]
  refine imp_congr_right fun _ => ?_
  cases one with
  | error incident => simp
  | hit request duration systemError => simp

theorem hitsOn_perm {uses other : List Use} (same : uses.Perm other) (name : String) :
    (hitsOn name uses).Perm (hitsOn name other) := same.filterMap _

end Use

namespace Request

variable {r : Request} {hits other : List (Int × Bool)}

theorem grown_perm (same : hits.Perm other) (r : Request) : r.grown hits = r.grown other := by
  simp only [grown, same.length_eq, (same.map Prod.fst).sum_eq, same.countP_eq]

/-- The figures of a request that was hit, and never but by these hits. -/
structure Sums (r : Request) (hits : List (Int × Bool)) : Prop where
  errors_nonneg : 0 ≤ r.systemErrors
  errors_le : r.systemErrors ≤ r.hits
  hit : 1 ≤ r.hits
  mean_le : r.hits * r.mean ≤ r.durations
  lt_mean : r.durations < r.hits * (r.mean + 1)
  between : ∃ least greatest, (hits.map Prod.fst).min? = some least ∧
    (hits.map Prod.fst).max? = some greatest ∧ least ≤ r.mean ∧ r.mean ≤ greatest

/-- A mean is what a division by the number of hits gives. -/
theorem mean_eq (hit : 1 ≤ r.hits) : r.mean = r.durations / r.hits := by
  rw [mean, if_neg (by omega), Int.fdiv_eq_ediv_of_nonneg _ (by omega)]

theorem sums_grown (name : String) (some : hits ≠ []) : Sums (grown { name } hits) hits := by
  have count : (grown { name } hits).hits = hits.length := Int.zero_add _
  have total : (grown { name } hits).durations = (hits.map Prod.fst).sum := Int.zero_add _
  have flagged : (grown { name } hits).systemErrors = hits.countP Prod.snd := Int.zero_add _
  have positive : 1 ≤ (grown { name } hits).hits := by
    have := List.length_pos_iff.mpr some
    omega
  have mean := mean_eq positive
  have present : hits.map Prod.fst ≠ [] := mt List.map_eq_nil_iff.mp some
  obtain ⟨least, smallest⟩ := Option.ne_none_iff_exists'.mp (mt List.min?_eq_none_iff.mp present)
  obtain ⟨greatest, largest⟩ := Option.ne_none_iff_exists'.mp (mt List.max?_eq_none_iff.mp present)
  have above := List.card_nsmul_le_sum _ _ (List.min?_eq_some_iff.mp smallest).2
  have below := List.sum_le_card_nsmul _ _ (List.max?_eq_some_iff.mp largest).2
  rw [List.length_map, nsmul_eq_mul, ← total, ← count] at above below
  generalize grown { name } hits = r at *
  have upper := Int.lt_mul_ediv_self_add (x := r.durations) (k := r.hits) (by omega)
  constructor
  case errors_nonneg => omega
  case errors_le =>
    have := List.countP_le_length (p := Prod.snd) (l := hits)
    omega
  case hit => exact positive
  case mean_le =>
    rw [mean]
    exact Int.mul_ediv_self_le (by omega)
  case lt_mean =>
    rw [mean, Int.mul_add, Int.mul_one]
    exact upper
  case between =>
    refine ⟨least, greatest, smallest, largest, ?_, ?_⟩
    · rw [mean]
      exact Int.le_ediv_of_mul_le (by omega) (by rwa [Int.mul_comm])
    · rw [mean]
      apply Int.le_of_lt_add_one
      apply Int.ediv_lt_of_lt_mul (by omega)
      rw [Int.mul_comm, Int.mul_add]
      omega

end Request

namespace Counter

variable {c : Counter} {uses : List Use}

theorem keys_addHits (c : Counter) (request : String) (duration : Int) (systemError : Bool) :
    (c.addHits request duration systemError).requests.keys =
      if request ∈ c.requests.keys then c.requests.keys else c.requests.keys ++ [request] :=
  keys_putEntry request _ c.requests.entries

/-- Requests that were known keep their order, and after them come the others, as they are hit. -/
theorem keys_useAll (c : Counter) (uses : List Use) :
    ∃ fresh, (c.useAll uses).requests.keys = c.requests.keys ++ fresh ∧
      FirstOf c.requests.keys (Use.requests uses) fresh := by
  induction uses generalizing c with
  | nil => exact ⟨[], (List.append_nil _).symm, .nil _⟩
  | cons first rest ih =>
    obtain ⟨fresh, keys, firstOf⟩ := ih (c.use first)
    cases first with
    | error incident => exact ⟨fresh, keys, firstOf⟩
    | hit request duration systemError =>
      rw [use, keys_addHits] at keys firstOf
      split at keys
      · rename_i old
        rw [if_pos old] at firstOf
        exact ⟨fresh, keys, firstOf.cons_known old⟩
      · rename_i new
        rw [if_neg new] at firstOf
        exact ⟨request :: fresh, keys.trans (List.append_assoc ..), firstOf.cons_new new⟩

/-- A request is known if it was, or if it has been hit. -/
theorem mem_keys_useAll {name : String} : name ∈ (c.useAll uses).requests.keys ↔
    name ∈ c.requests.keys ∨ name ∈ Use.requests uses := by
  obtain ⟨fresh, keys, firstOf⟩ := c.keys_useAll uses
  rw [keys, List.mem_append, firstOf.mem_iff]
  by_cases old : name ∈ c.requests.keys <;> simp [old]

/-- What a counter knows of a request, if anything. -/
theorem get?_requests (c : Counter) (name : String) :
    c.requests.get? name = if name ∈ c.requests.keys then some (c.request name) else none := by
  have known := c.requests.get?_ne_none_iff name
  rw [request]
  split
  · rename_i listed
    obtain ⟨r, found⟩ := Option.ne_none_iff_exists'.mp (known.mpr listed)
    rw [found, Option.getD_some]
  · rename_i absent
    exact Decidable.of_not_not (mt known.mp absent)

/-- All that hits make of the requests of a counter, with errors added in between. -/
theorem requests_useAll (c : Counter) (uses : List Use) :
    (∀ name old, c.requests.get? name = some old →
      (c.useAll uses).requests.get? name = some (old.grown (Use.hitsOn name uses))) ∧
    (∀ name ∈ Use.requests uses, c.requests.get? name = none →
      (c.useAll uses).requests.get? name =
        some (Request.grown { name } (Use.hitsOn name uses))) ∧
    (∀ name, name ∉ Use.requests uses →
      (c.useAll uses).requests.get? name = c.requests.get? name) ∧
    (∃ fresh, (c.useAll uses).requests.keys = c.requests.keys ++ fresh ∧
      FirstOf c.requests.keys (Use.requests uses) fresh) ∧
    (∀ other, uses.Perm other → ∀ name,
      (c.useAll other).requests.get? name = (c.useAll uses).requests.get? name) ∧
    (c.requests = .empty → ∀ name r, (c.useAll uses).requests.get? name = some r →
      r.Sums (Use.hitsOn name uses)) := by
  have entry (name : String) := (c.useAll uses).get?_requests name
  simp only [mem_keys_useAll, request_useAll] at entry
  refine ⟨?_, ?_, ?_, c.keys_useAll uses, ?_, ?_⟩
  · intro name old known
    have listed := (c.requests.get?_ne_none_iff name).mp (by simp [known])
    rw [entry, if_pos (.inl listed), request, known, Option.getD_some]
  · intro name hit unknown
    rw [entry, if_pos (.inr hit), request, unknown, Option.getD_none]
  · intro name unhit
    have nothing := (Use.hitsOn_eq_nil_iff name uses).mpr unhit
    rw [entry, nothing, Request.grown_nil, get?_requests]
    simp [unhit]
  · intro other same name
    have hit : name ∈ Use.requests other ↔ name ∈ Use.requests uses :=
      (same.filterMap _).mem_iff.symm
    rw [entry, get?_requests, request_useAll]
    simp only [mem_keys_useAll, hit, Request.grown_perm (Use.hitsOn_perm same name)]
  · intro empty name r known
    have unknown : c.requests.get? name = none := by rw [empty]; rfl
    rw [entry] at known
    split at known
    · rename_i listed
      have hit := listed.resolve_left fun old => (c.requests.get?_ne_none_iff name).mpr old unknown
      cases known
      rw [request, unknown, Option.getD_none]
      exact Request.sums_grown name fun none => (Use.hitsOn_eq_nil_iff name uses).mp none hit
    · cases known

/-- A counter that was just cleared is hit twice on one request; the other order makes no difference. -/
theorem requests_useAll_cleared :
    let c := Counter.visited.clear ⟨⟨2024, 2, 29, by decide⟩, .midnight, some .utc⟩
    let uses : List Use := [.hit "GET /pay" 5 true, .hit "GET /cart" 7 false, .hit "GET /pay" (-8) false]
    ∃ r, (c.useAll uses).requests.get? "GET /pay" = some r ∧
      (c.useAll uses.reverse).requests.get? "GET /pay" = some r ∧
      r.Sums [(5, true), (-8, false)] ∧ r.mean = -2 := by
  intro c uses
  obtain ⟨-, -, -, -, reordered, sums⟩ := requests_useAll c uses
  refine ⟨{ name := "GET /pay", hits := 2, durations := -3, systemErrors := 1 }, by decide, ?_, ?_,
    by decide⟩
  · exact (reordered _ uses.reverse_perm.symm _).trans (by decide)
  · exact sums rfl "GET /pay" _ (by decide)

end Counter

end CounterArchive
