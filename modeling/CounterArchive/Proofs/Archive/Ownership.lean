import CounterArchive.Proofs.Archive.Effects
import CounterArchive.Proofs.Archive.NormalForm
import CounterArchive.Proofs.Archive.Accounts

/-! Whose counters a collector holds. It begins with counters of its own application, each under the
name it is stored as, and uses of counters keep them so. A restore takes over what it reads, without
a look at the names in it: so the collector keeps to its own counters just as long as each snapshot
that is restored is that of an own counter. -/
namespace CounterArchive

def Counter.SameNames (old new : Counter) : Prop :=
  new.application = old.application ∧ new.storedAs = old.storedAs

theorem uses_sameNames : World.Uses Counter.SameNames :=
  ⟨fun _ => ⟨rfl, rfl⟩, fun _ _ _ _ => ⟨rfl, rfl⟩, fun _ _ => ⟨rfl, rfl⟩, fun _ => ⟨rfl, rfl⟩,
    fun _ _ => ⟨rfl, rfl⟩⟩

theorem Collector.Holds.becomes {c : Collector} {r s : Registry Counter} (holds : c.Holds r)
    (grown : r.Becomes Counter.SameNames s) : c.Holds s := by
  intro stored id found
  obtain ⟨old, known, own, named⟩ := holds stored id found
  obtain ⟨new, kept, sameApplication, sameName⟩ := grown id old known
  exact ⟨new, kept, sameApplication.trans own, sameName.trans named⟩

namespace World

/-! Restoring -/

/-- What a restore takes over for some entries: all that is read for them, up to the first that
cannot be read. -/
def taken (w : World) : List (String × Registry.Id Counter) → List (String × Counter)
  | [] => []
  | (name, id) :: rest =>
    match (w.counters.get? id).map w.readCounter with
    | some (.ok (some stored)) => (name, stored) :: w.taken rest
    | some (.ok none) => w.taken rest
    | _ => []

variable {w : World} {c : Collector} {k : Registry.Id Collector}

theorem names_taken (entries : List (String × Registry.Id Counter)) :
    ∀ entry ∈ w.taken entries, entry.1 ∈ entries.map Prod.fst := by
  induction entries with
  | nil => exact fun _ listed => nomatch listed
  | cons first rest ih =>
    obtain ⟨name, id⟩ := first
    intro entry listed
    rw [taken] at listed
    rw [List.map_cons, List.mem_cons]
    split at listed
    · rcases List.mem_cons.mp listed with rfl | later
      · exact .inl rfl
      · exact .inr (ih entry later)
    · exact .inr (ih entry listed)
    · cases listed

/-- Nothing is taken over under other names. -/
theorem notMem_names_taken {name : String} {entries : List (String × Registry.Id Counter)}
    (other : name ∉ entries.map Prod.fst) : name ∉ (w.taken entries).map Prod.fst := by
  intro inside
  obtain ⟨entry, listed, rfl⟩ := List.mem_map.mp inside
  exact other (names_taken entries entry listed)

theorem taken_single {name : String} {id : Registry.Id Counter} {counter stored : Counter}
    (known : w.counters.get? id = some counter)
    (read : w.readCounter counter = .ok (some stored)) :
    w.taken [(name, id)] = [(name, stored)] := by
  simp [taken, known, read]

/-- What is read depends on the host, the clock, the settings, the switch and the files alone. -/
theorem readCounter_congr {v : World} {counter : Counter} (host : v.host = w.host)
    (clock : v.clock = w.clock) (settings : v.settings = w.settings)
    (disabled : v.disabled = w.disabled) (files : v.files = w.files) :
    v.readCounter counter = w.readCounter counter := by
  simp only [readCounter, read, readSnapshot, host, clock, settings, disabled, files]

theorem known_register {entries : List (String × Registry.Id Counter)}
    (known : ∀ entry ∈ entries, ∃ value, w.counters.get? entry.2 = some value)
    (counter : Counter) : ∀ entry ∈ entries, ∃ value,
      (w.counters.register counter).1.get? entry.2 = some value := by
  intro entry listed
  obtain ⟨value, before⟩ := known entry listed
  exact ⟨value, Registry.get?_register_of_some counter before⟩

/-- New counters make no difference to what is taken over for known ones. -/
theorem taken_register (counter : Counter) {entries : List (String × Registry.Id Counter)}
    (known : ∀ entry ∈ entries, ∃ value, w.counters.get? entry.2 = some value) :
    ({ w with counters := (w.counters.register counter).1 } : World).taken entries =
      w.taken entries := by
  induction entries with
  | nil => rfl
  | cons first rest ih =>
    obtain ⟨name, id⟩ := first
    obtain ⟨value, found⟩ := known (name, id) (List.mem_cons_self ..)
    have kept := Registry.get?_register_of_some counter found
    have others := ih fun entry listed => known entry (List.mem_cons_of_mem _ listed)
    have read : ({ w with counters := (w.counters.register counter).1 } : World).readCounter value =
        w.readCounter value := readCounter_congr rfl rfl rfl rfl rfl
    simp only [taken, found, kept, others, Option.map_some, read]

/-- Just those entries are replaced for which something is taken over. -/
theorem restoreEntries_takes (w : World) (c : Collector) (count : Nat)
    {entries : List (String × Registry.Id Counter)} (distinct : (entries.map Prod.fst).Nodup)
    (known : ∀ entry ∈ entries, ∃ value, w.counters.get? entry.2 = some value) :
    (∀ stored, stored ∉ (w.taken entries).map Prod.fst →
      (Collector.restoreEntries w c count entries).2.1.get? stored = c.get? stored) ∧
    ∀ entry ∈ w.taken entries, ∃ id,
      (Collector.restoreEntries w c count entries).2.1.get? entry.1 = some id ∧
        (Collector.restoreEntries w c count entries).1.counters.get? id = some entry.2 := by
  induction entries generalizing w c count with
  | nil => exact ⟨fun _ _ => rfl, fun _ listed => absurd listed List.not_mem_nil⟩
  | cons first rest ih =>
    obtain ⟨name, id⟩ := first
    obtain ⟨counter, found⟩ := known (name, id) (List.mem_cons_self ..)
    rw [List.map_cons, List.nodup_cons] at distinct
    have knownRest : ∀ entry ∈ rest, ∃ value, w.counters.get? entry.2 = some value :=
      fun entry listed => known entry (List.mem_cons_of_mem _ listed)
    rw [Collector.restoreEntries, taken, found]
    simp only [Option.map_some]
    rcases w.readCounter counter with failure | _ | stored
    · exact ⟨fun _ _ => rfl, fun _ listed => absurd listed List.not_mem_nil⟩
    · exact ih w c count distinct.2 knownRest
    · have knownAfter := known_register knownRest stored
      obtain ⟨apart, each⟩ := ih { w with counters := (w.counters.register stored).1 }
        { c with entries := c.entries.insert name (w.counters.register stored).2 } (count + 1)
        distinct.2 knownAfter
      obtain ⟨counters, same, grown, -⟩ := restoreEntries_adds
        { w with counters := (w.counters.register stored).1 }
        { c with entries := c.entries.insert name (w.counters.register stored).2 } (count + 1) rest
      rw [taken_register stored knownRest] at apart each
      have outside := notMem_names_taken (w := w) distinct.1
      refine ⟨?_, ?_⟩
      · intro other absent
        rw [List.map_cons, List.mem_cons, not_or] at absent
        rw [apart other absent.2]
        exact Table.get?_insert_of_ne _ _ absent.1
      · intro entry listed
        rcases List.mem_cons.mp listed with rfl | later
        · refine ⟨(w.counters.register stored).2, ?_, ?_⟩
          · rw [apart name outside]
            exact Table.get?_insert_self _ _ _
          · rw [same]
            exact grown.kept (Registry.get?_register_self w.counters stored)
        · exact each entry later

/-- A restored collector is that of the same application, with the same names in the same order. -/
theorem restoreEntries_keeps (w : World) (c : Collector) (count : Nat)
    {entries : List (String × Registry.Id Counter)}
    (listed : ∀ entry ∈ entries, entry.1 ∈ c.entries.keys) :
    (Collector.restoreEntries w c count entries).2.1.application = c.application ∧
      (Collector.restoreEntries w c count entries).2.1.entries.keys = c.entries.keys := by
  induction entries generalizing w c count with
  | nil => exact ⟨rfl, rfl⟩
  | cons first rest ih =>
    have listedRest : ∀ entry ∈ rest, entry.1 ∈ c.entries.keys :=
      fun entry later => listed entry (List.mem_cons_of_mem _ later)
    unfold Collector.restoreEntries
    split
    · exact ⟨rfl, rfl⟩
    · split
      · exact ⟨rfl, rfl⟩
      · exact ih w c count listedRest
      · rename_i stored _
        have keys : (c.entries.insert first.1 (w.counters.register stored).2).keys =
            c.entries.keys :=
          (keys_putEntry ..).trans (if_pos (listed first (List.mem_cons_self ..)))
        obtain ⟨same, names⟩ := ih { w with counters := (w.counters.register stored).1 }
          { c with entries := c.entries.insert first.1 (w.counters.register stored).2 } (count + 1)
          fun entry later => keys ▸ listedRest entry later
        exact ⟨same, names.trans keys⟩

/-- What is told of a restore makes no difference to the counters and the collector. -/
theorem restore_eq (w : World) (c : Collector) :
    (c.restore w).1.counters = (Collector.restoreEntries w c 0 c.entries.entries).1.counters ∧
      (c.restore w).2.1 = (Collector.restoreEntries w c 0 c.entries.entries).2.1 := by
  unfold Collector.restore
  split
  · rename_i restored
    rw [restored]
    split <;> exact ⟨rfl, rfl⟩
  · exact ⟨rfl, rfl⟩

/-- All that a restore takes over for a collector are its own counters, each stored under the name
that it is taken over for. -/
def TakesOwn (w : World) (c : Collector) : Prop :=
  ∀ entry ∈ w.taken c.entries.entries,
    entry.2.application = c.application ∧ entry.2.storedAs = entry.1

/-- A collector of own counters keeps to them when it is restored, just if only own ones are taken
over. -/
theorem holds_restore_iff (holds : c.Holds w.counters) :
    (c.restore w).2.1.Holds (c.restore w).1.counters ↔ w.TakesOwn c := by
  have known : ∀ entry ∈ c.entries.entries, ∃ value, w.counters.get? entry.2 = some value :=
    fun entry listed => holds.registered entry.2 (List.mem_map_of_mem listed)
  have names : ∀ entry ∈ c.entries.entries, entry.1 ∈ c.entries.keys :=
    fun entry listed => List.mem_map_of_mem listed
  obtain ⟨counters, held⟩ := restore_eq w c
  obtain ⟨apart, each⟩ := restoreEntries_takes w c 0 c.entries.distinct known
  obtain ⟨application, -⟩ := restoreEntries_keeps w c 0 names
  obtain ⟨more, same, grown, -⟩ := restoreEntries_adds w c 0 c.entries.entries
  have kept : w.counters.Becomes Eq
      (Collector.restoreEntries w c 0 c.entries.entries).1.counters := by
    rw [same]
    exact grown
  rw [counters, held]
  constructor
  · intro holdsAfter entry listed
    obtain ⟨id, found, value⟩ := each entry listed
    obtain ⟨counter, valueAgain, own, named⟩ := holdsAfter entry.1 id found
    rw [value] at valueAgain
    cases valueAgain
    exact ⟨own.trans application, named⟩
  · intro own stored id found
    rw [application]
    by_cases replaced : stored ∈ (w.taken c.entries.entries).map Prod.fst
    · obtain ⟨entry, listed, rfl⟩ := List.mem_map.mp replaced
      obtain ⟨other, there, value⟩ := each entry listed
      rw [found] at there
      cases there
      exact ⟨entry.2, value, own entry listed⟩
    · rw [apart stored replaced] at found
      obtain ⟨counter, value, mine⟩ := holds stored id found
      exact ⟨counter, kept.kept value, mine⟩

/-! Activities -/

theorem carryOut_restore (known : w.collectors.get? k = some c) :
    (w.carryOut (.operate (.restore k))).1.collectors.get? k = some (c.restore w).2.1 ∧
      (w.carryOut (.operate (.restore k))).1.counters = (c.restore w).1.counters := by
  obtain ⟨counters, log, same, -⟩ := restore_adds w c
  have there : (c.restore w).1.collectors.get? k = some c := by rw [same, known]
  simp only [carryOut, operate, known]
  exact ⟨by rw [Registry.get?_update_self, there, Option.map_some], trivial⟩

/-- An activity changes a collector at most by restoring it. -/
theorem collector_carryOut (known : w.collectors.get? k = some c) (a : Activity) :
    ∃ held, (w.carryOut a).1.collectors.get? k = some held ∧ held.application = c.application ∧
      held.entries.keys = c.entries.keys := by
  by_cases restores : a = .operate (.restore k)
  · subst restores
    have names : ∀ entry ∈ c.entries.entries, entry.1 ∈ c.entries.keys :=
      fun entry listed => List.mem_map_of_mem listed
    refine ⟨(c.restore w).2.1, (carryOut_restore known).1, ?_⟩
    rw [(restore_eq w c).2]
    exact restoreEntries_keeps w c 0 names
  · exact ⟨c, (effect_carryOut w a).collectors known restores, rfl, rfl⟩

/-- A collector that is known holds its own counters, each under the name it is stored as. -/
def HoldsOwn (w : World) (k : Registry.Id Collector) : Prop :=
  ∀ c, w.collectors.get? k = some c → c.Holds w.counters

theorem holdsOwn_iff (known : w.collectors.get? k = some c) :
    w.HoldsOwn k ↔ c.Holds w.counters := by
  constructor
  · exact fun own => own c known
  · intro holds held found
    rw [known] at found
    cases found
    exact holds

/-- While names are kept, own counters are lost at most when the collector is restored, and then
just if others are taken over. -/
theorem holdsOwn_carryOut_iff (known : w.collectors.get? k = some c) (own : w.HoldsOwn k)
    {a : Activity} (keeps : Assigns Counter.SameNames a) :
    (w.carryOut a).1.HoldsOwn k ↔ (a = .operate (.restore k) → w.TakesOwn c) := by
  have holds := own c known
  by_cases restores : a = .operate (.restore k)
  · subst restores
    obtain ⟨held, counters⟩ := carryOut_restore known
    rw [holdsOwn_iff held, counters, holds_restore_iff holds]
    exact ⟨fun takes _ => takes, fun takes => takes rfl⟩
  · have effect := effect_carryOut w a
    rw [holdsOwn_iff (effect.collectors known restores)]
    exact ⟨fun _ same => absurd same restores,
      fun _ => holds.becomes (effect.counters uses_sameNames keeps)⟩

/-! Whole runs -/

def AlwaysHoldsOwn (w : World) (k : Registry.Id Collector) (run : List Activity) : Prop :=
  ∀ before after, run = before ++ after → (w.carryOutAll before).1.HoldsOwn k

def AlwaysTakesOwn (w : World) (k : Registry.Id Collector) (run : List Activity) : Prop :=
  ∀ before after, run = before ++ .operate (.restore k) :: after →
    ∀ c, (w.carryOutAll before).1.collectors.get? k = some c →
      (w.carryOutAll before).1.TakesOwn c

theorem collector_carryOutAll (known : w.collectors.get? k = some c) (run : List Activity) :
    ∃ held, (w.carryOutAll run).1.collectors.get? k = some held ∧
      held.application = c.application ∧ held.entries.keys = c.entries.keys := by
  induction run generalizing w c with
  | nil => exact ⟨c, known, rfl, rfl⟩
  | cons a rest ih =>
    obtain ⟨next, there, application, keys⟩ := collector_carryOut known a
    obtain ⟨held, found, same, names⟩ := ih there
    exact ⟨held, found, same.trans application, names.trans keys⟩

theorem alwaysHoldsOwn_iff (known : w.collectors.get? k = some c) (own : w.HoldsOwn k)
    {run : List Activity} (keeps : ∀ a ∈ run, Assigns Counter.SameNames a) :
    w.AlwaysHoldsOwn k run ↔ w.AlwaysTakesOwn k run := by
  constructor
  · intro always before after split held found
    have next : run = (before ++ [.operate (.restore k)]) ++ after := by simp [split]
    have holds := always _ _ next
    rw [carryOutAll_concat] at holds
    have one := holdsOwn_carryOut_iff (a := .operate (.restore k)) found (always _ _ split) trivial
    exact one.mp holds rfl
  · intro always before
    induction before using List.reverseRecOn with
    | nil => exact fun _ _ => own
    | append_singleton before a ih =>
      intro after split
      have earlier : run = before ++ a :: after := by simp [split]
      obtain ⟨held, found, -⟩ := collector_carryOutAll known before
      rw [carryOutAll_concat]
      apply (holdsOwn_carryOut_iff found (ih _ earlier) (keeps a (by simp [earlier]))).mpr
      rintro rfl
      exact always before after earlier held found

/-- The collector made of some counters is at any time one of its application, with the same names.
While names of counters are kept, it holds its own counters throughout a run just if each of its
restores takes over only such; and as long as it holds them, each counter is written to the file of
its name. -/
theorem made_holdsOwn_iff {application : String} {ids : List (Registry.Id Counter)}
    {metrics : Option (Registry.Id Metrics)}
    (made : Collector.of w.counters application ids metrics = .ok c)
    (known : w.collectors.get? k = some c) {run : List Activity}
    (keeps : ∀ a ∈ run, Assigns Counter.SameNames a) :
    (w.AlwaysHoldsOwn k run ↔ w.AlwaysTakesOwn k run) ∧
    ∀ before after, run = before ++ after →
      ∃ held, (w.carryOutAll before).1.collectors.get? k = some held ∧
        held.application = application ∧ held.entries.keys = c.entries.keys ∧
        ((w.carryOutAll before).1.HoldsOwn k → ∀ stored id, held.get? stored = some id →
          ∃ counter, (w.carryOutAll before).1.counters.get? id = some counter ∧
            (w.carryOutAll before).1.settings.snapshotPath counter.application counter.storedAs =
              w.settings.snapshotPath application stored) := by
  obtain ⟨holds, same⟩ := Collector.addAll_holds (Collector.holds_empty application metrics) made
  refine ⟨alwaysHoldsOwn_iff known ((holdsOwn_iff known).mpr holds) keeps, ?_⟩
  intro before after _
  obtain ⟨held, found, sameHeld, keys⟩ := collector_carryOutAll known before
  refine ⟨held, found, sameHeld.trans same, keys, ?_⟩
  intro own stored id listed
  obtain ⟨counter, value, mine, named⟩ := own held found stored id listed
  refine ⟨counter, value, ?_⟩
  rw [settings_carryOutAll, mine, named, sameHeld, same]

end World

def Counter.foreign : Counter := { Counter.idle with name := "sql", application := "billing" }

theorem World.read_foreign {w : World} {file : File} (enabled : w.disabled = false)
    (found : w.files.file? (w.settings.snapshotPath "shop" "http") = .ok file)
    (content : Snapshot.text? file.content = some Counter.foreign.text) :
    w.readCounter .visited = .ok (some .foreign) := by
  have fits : Counter.foreign.FitsDigits := by
    have none : Counter.foreign.integers = [] := rfl
    simp [Counter.FitsDigits, none]
  have whole : Counter.foreign.Whole := by decide
  have decoded : Snapshot.decode w.host.nesting w.clock.now? file.content = .ok .foreign := by
    rw [Snapshot.decode_of_text? _ content,
      Snapshot.decodeText_text _ w.host.roomForDocument fits whole]
  change w.read "shop" "http" = _
  rw [read_of_file enabled found]
  simp only [decoded]

theorem Collector.of_metered :
    of World.metered.counters "shop" [⟨0⟩] (some ⟨0⟩) = .ok Collector.metered := rfl

theorem Collector.entries_metered : Collector.metered.entries.entries = [("http", ⟨0⟩)] := rfl

/-- A counter that was written is restored as an own one. -/
theorem World.made_holdsOwn_iff_visited :
    World.metered.AlwaysHoldsOwn ⟨0⟩ [.operate (.writeAll ⟨0⟩), .operate (.restore ⟨0⟩)] := by
  have keeps : ∀ a ∈ [Activity.operate (.writeAll ⟨0⟩), .operate (.restore ⟨0⟩)],
      Assigns Counter.SameNames a := by
    simp [Assigns]
  apply (made_holdsOwn_iff Collector.of_metered rfl keeps).1.mpr
  obtain ⟨v, wrote, same, stock⟩ := writeEach_metered
  have stocked : Stocked v.settings tmp v.files _ := same.settings ▸ stock
  have read : v.readCounter .visited = .ok (some .visited) :=
    read_fitting stocked plain_shop plain_http same.disabled (if_pos ⟨rfl, rfl⟩) fitsDigits_visited
      whole_visited
  have ids : Collector.metered.counters = [⟨0⟩] := rfl
  have after : ∃ metrics, (World.metered.carryOutAll [.operate (.writeAll ⟨0⟩)]).1 =
      { v with metrics } := by
    have known : World.metered.collectors.get? ⟨0⟩ = some .metered := rfl
    simp only [carryOutAll, carryOut, operate, known, Collector.writeAll_eq, ids, wrote]
    exact ⟨_, rfl⟩
  obtain ⟨metrics, after⟩ := after
  have own : ({ v with metrics } : World).TakesOwn .metered := by
    have known : v.counters.get? ⟨0⟩ = some .visited := by rw [same.counters]; rfl
    intro entry listed
    have same : ({ v with metrics } : World).readCounter .visited = v.readCounter .visited :=
      readCounter_congr rfl rfl rfl rfl rfl
    rw [Collector.entries_metered,
      taken_single (w := { v with metrics }) known (same.trans read)] at listed
    cases List.mem_singleton.mp listed
    exact ⟨rfl, rfl⟩
  intro before rest split held found
  rcases before with _ | ⟨first, _ | ⟨second, more⟩⟩
  · cases split
  · cases split
    rw [after] at found ⊢
    change v.collectors.get? ⟨0⟩ = some held at found
    rw [same.collectors] at found
    cases found
    exact own
  · simp at split

/-- A collector that takes over a foreign counter loses its own. -/
theorem World.not_alwaysHoldsOwn_foreign {w : World}
    (collector : w.collectors.get? ⟨0⟩ = some .metered)
    (known : w.counters.get? ⟨0⟩ = some .visited)
    (read : w.readCounter .visited = .ok (some .foreign)) :
    ¬ w.AlwaysHoldsOwn ⟨0⟩ [.operate (.restore ⟨0⟩)] := by
  intro always
  have before := always [] _ rfl
  have after := always _ [] (List.append_nil _).symm
  have restore : Assigns Counter.SameNames (.operate (.restore ⟨0⟩)) := trivial
  have own := (holdsOwn_carryOut_iff collector before restore).mp after rfl
  rw [TakesOwn, Collector.entries_metered, taken_single known read] at own
  have same : "billing" = "shop" := (own _ (List.mem_singleton_self _)).1
  exact absurd same (by decide)

/-- Not every collector keeps to its own counters: what is restored may be any counter. -/
theorem not_made_holdsOwn :
    ¬ ∀ (w : World) (k : Registry.Id Collector) (c : Collector) (application : String)
      (ids : List (Registry.Id Counter)) (metrics : Option (Registry.Id Metrics))
      (run : List Activity),
      Collector.of w.counters application ids metrics = .ok c → w.collectors.get? k = some c →
      (∀ a ∈ run, World.Assigns Counter.SameNames a) → w.AlwaysHoldsOwn k run := by
  intro claim
  obtain ⟨files, found⟩ :=
    World.exists_files ⟨Gzip.compress .stored 0 [] (Utf8.encode Counter.foreign.text), 0⟩
  have read := World.read_foreign (w := { World.metered with files }) rfl found
    (Snapshot.text?_compress .stored 0 Counter.foreign.text)
  exact World.not_alwaysHoldsOwn_foreign (w := { World.metered with files }) rfl rfl read
    (claim _ ⟨0⟩ .metered "shop" [⟨0⟩] (some ⟨0⟩) _ Collector.of_metered rfl
      (by simp [World.Assigns]))

end CounterArchive
