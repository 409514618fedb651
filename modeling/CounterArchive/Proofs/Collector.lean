import CounterArchive.Collector.Basic
import CounterArchive.Proofs.Table

/-! Values that are changed where they are registered, and which counters a new collector holds: each
of those it was given, or a later one that is stored under the same name. -/
namespace CounterArchive

namespace Registry

theorem registerAll_spec {α : Type} (r : Registry α) (values : List α) :
    (∀ id ∈ (r.registerAll values).2, ∃ v ∈ values,
      (r.registerAll values).1.get? id = some v) ∧
    (∀ v ∈ values, ∃ id ∈ (r.registerAll values).2,
      (r.registerAll values).1.get? id = some v) ∧
    ∀ id old, r.get? id = some old → (r.registerAll values).1.get? id = some old := by
  induction values generalizing r with
  | nil => simp [registerAll]
  | cons value rest ih =>
    obtain ⟨all, each, kept⟩ := ih (r.register value).1
    have first := kept _ _ (get?_register_self r value)
    rw [registerAll]
    refine ⟨?_, ?_, ?_⟩
    · intro id listed
      rcases List.mem_cons.mp listed with rfl | listed
      · exact ⟨value, List.mem_cons_self .., first⟩
      · obtain ⟨v, member, found⟩ := all id listed
        exact ⟨v, List.mem_cons_of_mem _ member, found⟩
    · intro v member
      rcases List.mem_cons.mp member with rfl | member
      · exact ⟨_, List.mem_cons_self .., first⟩
      · obtain ⟨id, listed, found⟩ := each v member
        exact ⟨id, List.mem_cons_of_mem _ listed, found⟩
    · intro id old known
      exact kept id old (get?_register_of_some value known)

/-- After a registration there is nothing but what was known, and the new value. -/
theorem eq_of_get?_register {α : Type} {r : Registry α} {id : Id α} {value found : α}
    (known : (r.register value).1.get? id = some found) : r.get? id = some found ∨ found = value := by
  simp only [get?, register, Array.getElem?_push] at known ⊢
  split at known
  · cases known
    exact .inr rfl
  · exact .inl known

section Update

variable {α : Type} (r : Registry α) (id : Id α)

/-- All values of a registry but one stay, and that one is changed. -/
theorem get?_update [DecidableEq α] (other : Id α) (change : α → α) :
    (r.update id change).get? other = if id = other then (r.get? other).map change
      else r.get? other := by
  by_cases same : id = other
  · rw [if_pos same, ← same, get?_update_self]
  · rw [if_neg same, get?_update_of_ne r change same]

/-- A change that makes no difference to the value leaves all as it was. -/
theorem update_of_fixed {change : α → α}
    (fixed : ∀ value, r.get? id = some value → change value = value) : r.update id change = r := by
  obtain ⟨values⟩ := r
  apply congrArg Registry.mk
  apply Array.ext_getElem?
  intro i
  rw [Array.getElem?_modify]
  split
  · rename_i here
    subst here
    cases found : values[id.index]? with
    | none => rfl
    | some value => exact congrArg some (fixed value found)
  · rfl

theorem update_update (first second : α → α) :
    (r.update id first).update id second = r.update id fun value => second (first value) := by
  apply congrArg Registry.mk
  apply Array.ext_getElem?
  intro i
  simp only [Registry.update, Array.getElem?_modify]
  split <;> simp [Function.comp_def]

end Update

end Registry

/-- A collector holds counters of its application, each under the name it is stored as. -/
def Collector.Holds (c : Collector) (registry : Registry Counter) : Prop :=
  ∀ stored id, c.get? stored = some id →
    ∃ counter, registry.get? id = some counter ∧ counter.application = c.application ∧
      counter.storedAs = stored

namespace Collector

variable {registry : Registry Counter} {c held : Collector} {ids : List (Registry.Id Counter)}

theorem holds_empty (application : String) (metrics : Option (Registry.Id Metrics)) :
    Holds ⟨application, metrics, .empty⟩ registry := by
  intro stored id found
  cases found

theorem addAll_holds (holds : c.Holds registry) (added : c.addAll registry ids = .ok held) :
    held.Holds registry ∧ held.application = c.application := by
  induction ids generalizing c with
  | nil =>
    cases added
    exact ⟨holds, rfl⟩
  | cons id rest ih =>
    rw [addAll] at added
    cases known : registry.get? id with
    | none =>
      rw [known] at added
      cases added
    | some counter =>
      rw [known] at added
      simp only at added
      split at added
      · cases added
      · rename_i own
        refine ih (c := { c with entries := c.entries.insert counter.storedAs id }) ?_ added
        intro stored other found
        change (c.entries.insert counter.storedAs id).get? stored = some other at found
        rw [Table.get?_insert] at found
        split at found
        · rename_i same
          cases found
          exact ⟨counter, known, Decidable.of_not_not own, same.symm⟩
        · exact holds stored other found

def Registered (c : Collector) (registry : Registry Counter) : Prop :=
  ∀ id ∈ c.counters, ∃ counter, registry.get? id = some counter

theorem Holds.registered (holds : c.Holds registry) : c.Registered registry := by
  intro id listed
  obtain ⟨⟨stored, other⟩, member, rfl⟩ := List.mem_map.mp listed
  obtain ⟨counter, known, -⟩ := holds stored other (Table.mem_entries.mp member)
  exact ⟨counter, known⟩

theorem registered_of {application : String} {metrics : Option (Registry.Id Metrics)}
    (made : of registry application ids metrics = .ok c) : c.Registered registry :=
  (addAll_holds (holds_empty application metrics) made).1.registered

/-- Counters of one application are all taken, and nothing else is. -/
theorem addAll_ok (own : ∀ id ∈ ids, ∃ counter, registry.get? id = some counter ∧
      counter.application = c.application) :
    ∃ held, c.addAll registry ids = .ok held ∧
      (∀ stored id, held.get? stored = some id → c.get? stored = some id ∨ id ∈ ids) ∧
      ∀ stored, held.get? stored = none ↔ c.get? stored = none ∧
        ∀ id ∈ ids, ∀ counter, registry.get? id = some counter → counter.storedAs ≠ stored := by
  induction ids generalizing c with
  | nil => exact ⟨c, rfl, fun stored id found => .inl found, fun stored => by simp⟩
  | cons id rest ih =>
    obtain ⟨counter, known, same⟩ := own id (List.mem_cons_self ..)
    obtain ⟨held, added, source, missing⟩ :=
      ih (c := { c with entries := c.entries.insert counter.storedAs id })
        fun other listed => own other (List.mem_cons_of_mem _ listed)
    refine ⟨held, ?_, ?_, ?_⟩
    · rw [addAll, known]
      simp only [same, ne_eq, not_true_eq_false, if_false]
      exact added
    · intro stored other found
      rcases source stored other found with before | listed
      · change (c.entries.insert counter.storedAs id).get? stored = some other at before
        rw [Table.get?_insert] at before
        split at before
        · cases before
          exact .inr (List.mem_cons_self ..)
        · exact .inl before
      · exact .inr (List.mem_cons_of_mem _ listed)
    · intro stored
      rw [missing stored]
      change (c.entries.insert counter.storedAs id).get? stored = none ∧ _ ↔ _
      rw [Table.get?_insert]
      constructor
      · rintro ⟨absent, others⟩
        split at absent
        · cases absent
        · rename_i different
          refine ⟨absent, ?_⟩
          intro other listed there found
          rcases List.mem_cons.mp listed with rfl | listed
          · rw [known] at found
            cases found
            exact fun same => different same.symm
          · exact others other listed there found
      · rintro ⟨absent, others⟩
        have different : stored ≠ counter.storedAs :=
          (others id (List.mem_cons_self ..) counter known).symm
        rw [if_neg different]
        exact ⟨absent, fun other listed => others other (List.mem_cons_of_mem _ listed)⟩

end Collector

end CounterArchive
