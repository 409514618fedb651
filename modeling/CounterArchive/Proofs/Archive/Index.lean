import CounterArchive.Proofs.Archive.Ownership
import CounterArchive.Proofs.Archive.Start

/-! The index of a collector. It has one entry for each name under which some of its counters are stored,
and keeps these names, in their order, whatever becomes of the counters. -/
namespace CounterArchive

namespace Collector

variable {registry : Registry Counter} {ids : List (Registry.Id Counter)} {application stored : String}
  {id : Registry.Id Counter} {failure : Failure}

def storedNames (registry : Registry Counter) (ids : List (Registry.Id Counter)) : List String :=
  (named registry ids).map Prod.fst

def IsLast (registry : Registry Counter) (ids : List (Registry.Id Counter)) (stored : String)
    (id : Registry.Id Counter) : Prop :=
  ∃ before after counter, ids = before ++ id :: after ∧ registry.get? id = some counter ∧
    counter.storedAs = stored ∧ stored ∉ storedNames registry after

/-- A failure is for the first of some counters that is one of another application. -/
def IsForeign (registry : Registry Counter) (application : String)
    (ids : List (Registry.Id Counter)) (failure : Failure) : Prop :=
  ∃ before id after counter, ids = before ++ id :: after ∧ Own registry application before ∧
    registry.get? id = some counter ∧ counter.application ≠ application ∧
    failure = .foreignCounter counter.name counter.application application

/-- A collector has one entry for each of some names, in this order. -/
structure Indexes (c : Collector) (names : List String) : Prop where
  keys : c.entries.keys = names
  found_iff : ∀ stored, c.get? stored ≠ none ↔ stored ∈ names
  found : ∀ (i : Nat) stored, names[i]? = some stored → c.get? stored = c.counters[i]?

theorem indexes_keys (c : Collector) : c.Indexes c.entries.keys :=
  ⟨rfl, c.entries.get?_ne_none_iff, fun _ _ => c.entries.get?_of_getElem?_keys⟩

theorem isLast_of_get?_ofList (found : (Table.ofList (named registry ids)).get? stored = some id) :
    IsLast registry ids stored id := by
  obtain ⟨before, after, split, absent⟩ := Table.exists_last_of_get?_ofList found
  obtain ⟨first, rest, rfl, -, more⟩ := List.filterMap_eq_append_iff.mp split
  obtain ⟨nameless, here, later, rfl, -, entry, same⟩ := List.filterMap_eq_cons_iff.mp more
  obtain ⟨counter, known, pair⟩ := Option.map_eq_some_iff.mp entry
  cases pair
  refine ⟨first ++ nameless, later, counter, by simp, known, rfl, ?_⟩
  rw [storedNames, named, same]
  exact absent

/-- Own counters are gathered: there is an entry for each of their names, in the order in which these
first occur, and it is the last counter of its name. -/
theorem exists_of_own (metrics : Option (Registry.Id Metrics)) (own : Own registry application ids) :
    ∃ c, of registry application ids metrics = .ok c ∧
      FirstOf [] (storedNames registry ids) c.entries.keys ∧
      ∀ stored id, c.get? stored = some id → IsLast registry ids stored id :=
  ⟨_, of_own metrics own, Table.firstOf_keys_ofList _, fun _ _ => isLast_of_get?_ofList⟩

/-- A counter of another application is refused. -/
theorem of_of_isForeign (metrics : Option (Registry.Id Metrics))
    (foreign : IsForeign registry application ids failure) :
    of registry application ids metrics = .error failure := by
  obtain ⟨before, id, after, counter, rfl, own, known, other, rfl⟩ := foreign
  exact of_foreign metrics own known other

theorem not_isForeign_of_own (own : Own registry application ids) :
    ¬ IsForeign registry application ids failure := by
  intro foreign
  have refused := of_of_isForeign none foreign
  rw [of_own none own] at refused
  cases refused

theorem own_or_isForeign (application : String)
    (known : ∀ id ∈ ids, ∃ counter, registry.get? id = some counter) :
    Own registry application ids ∨ ∃ failure, IsForeign registry application ids failure := by
  rcases all_or_first (fun id => ∃ counter, registry.get? id = some counter ∧
    counter.application = application) ids with own | ⟨before, id, after, rfl, own, other⟩
  · exact .inl own
  · obtain ⟨counter, found⟩ := known id (by simp)
    have foreign : counter.application ≠ application := fun same => other ⟨counter, found, same⟩
    exact .inr ⟨_, before, id, after, counter, rfl, own, found, foreign, rfl⟩

end Collector

namespace World

variable {w v : World} {c : Collector} {k : Registry.Id Collector}

/-- What a world may become by activities, while others change files and settings are loaded again. -/
inductive Reaches (w : World) : World → Prop where
  | here : Reaches w w
  | carryOut {v : World} (reached : Reaches w v) (a : Activity) : Reaches w (v.carryOut a).1
  | changeFiles {v : World} (reached : Reaches w v) (files : FileTree) : Reaches w { v with files }
  | reload {v : World} (reached : Reaches w v) (env : Environment) : Reaches w (v.reload env).1

theorem collectors_reload (w : World) (env : Environment) :
    (w.reload env).1.collectors = w.collectors := by
  unfold reload
  split <;> rfl

/-- A collector is there from then on, with the same names. -/
theorem Reaches.collector (known : w.collectors.get? k = some c) (reached : w.Reaches v) :
    ∃ held, v.collectors.get? k = some held ∧ held.entries.keys = c.entries.keys := by
  induction reached with
  | here => exact ⟨c, known, rfl⟩
  | carryOut _ a ih =>
    obtain ⟨held, found, keys⟩ := ih
    obtain ⟨next, there, -, same⟩ := collector_carryOut found a
    exact ⟨next, there, same.trans keys⟩
  | changeFiles _ files ih => exact ih
  | reload _ env ih =>
    rw [collectors_reload]
    exact ih

/-- A collector is made of known counters unless one of them belongs to another application. It has one
entry for each name that they are stored as, in the order in which the names first occur: the last
counter of the name. Whatever happens then, it has an entry for just these names, in this order. -/
theorem gather_indexes (w : World) (application : String) (ids : List (Registry.Id Counter))
    (metrics : Option (Registry.Id Metrics))
    (known : ∀ id ∈ ids, ∃ counter, w.counters.get? id = some counter) :
    (∀ failure, (w.operate (.gather application ids metrics)).2 = .failed failure ↔
      Collector.IsForeign w.counters application ids failure) ∧
    ((∀ failure, ¬ Collector.IsForeign w.counters application ids failure) →
      ∃ v k c names, w.operate (.gather application ids metrics) = (v, .gathered k) ∧
        v.collectors.get? k = some c ∧
        FirstOf [] (Collector.storedNames w.counters ids) names ∧ c.Indexes names ∧
        (∀ stored id, c.get? stored = some id → Collector.IsLast w.counters ids stored id) ∧
        ∀ u, v.Reaches u → ∃ held, u.collectors.get? k = some held ∧ held.Indexes names) := by
  have refused {failure} (foreign : Collector.IsForeign w.counters application ids failure) :
      w.operate (.gather application ids metrics) = (w, .failed failure) := by
    rw [operate, Collector.of_of_isForeign metrics foreign]
  rcases Collector.own_or_isForeign application known with own | ⟨failure, foreign⟩
  · obtain ⟨c, made, names, last⟩ := Collector.exists_of_own metrics own
    have gathered : w.operate (.gather application ids metrics) =
        ({ w with collectors := (w.collectors.register c).1 },
          .gathered (w.collectors.register c).2) := by
      rw [operate, made]
    rw [gathered]
    have found := Registry.get?_register_self w.collectors c
    refine ⟨fun failure => iff_of_false ?_ (Collector.not_isForeign_of_own own), fun _ => ?_⟩
    · rintro ⟨⟩
    refine ⟨_, _, c, _, rfl, found, names, c.indexes_keys, last, fun u reached => ?_⟩
    obtain ⟨held, there, keys⟩ := reached.collector found
    exact ⟨held, there, keys ▸ held.indexes_keys⟩
  · refine ⟨fun other => ⟨?_, fun also => by rw [refused also]⟩, fun none => absurd foreign (none failure)⟩
    rw [refused foreign]
    rintro ⟨⟩
    exact foreign

/-- A world with three counters of an application, the first and the last of which are stored under one
name. -/
def renamed : World :=
  { World.initial with
    counters := (World.initial.counters.registerAll
      [.visited, { Counter.idle with name := "sql" },
        { Counter.idle with name := "x", storageName := some "http" }]).1 }

/-- A collector of these counters has two entries, whatever happens. -/
theorem gather_indexes_renamed :
    ∃ v k c, renamed.operate (.gather "shop" [⟨0⟩, ⟨1⟩, ⟨2⟩] none) = (v, .gathered k) ∧
      v.collectors.get? k = some c ∧ c.counters = [⟨2⟩, ⟨1⟩] ∧
      ∀ u, v.Reaches u → ∃ held, u.collectors.get? k = some held ∧ held.Indexes ["http", "sql"] := by
  have own : Collector.Own renamed.counters "shop" [⟨0⟩, ⟨1⟩, ⟨2⟩] := by
    simp only [Collector.Own, List.forall_mem_cons, List.not_mem_nil, false_imp_iff, implies_true,
      and_true]
    exact ⟨⟨_, rfl, rfl⟩, ⟨_, rfl, rfl⟩, ⟨_, rfl, rfl⟩⟩
  have known : ∀ id ∈ ([⟨0⟩, ⟨1⟩, ⟨2⟩] : List (Registry.Id Counter)),
      ∃ counter, renamed.counters.get? id = some counter := fun id listed =>
    (own id listed).imp fun _ found => found.1
  obtain ⟨v, k, c, names, gathered, found, -, indexes, -, always⟩ :=
    (gather_indexes renamed "shop" [⟨0⟩, ⟨1⟩, ⟨2⟩] none known).2
      fun _ => Collector.not_isForeign_of_own own
  refine ⟨v, k, c, gathered, found, ?_⟩
  cases gathered
  cases found
  have keys : names = ["http", "sql"] := indexes.keys.symm
  exact ⟨rfl, keys ▸ always⟩

end World

end CounterArchive
