import CounterArchive.Proofs.Archive.Replacement

/-! When an agent starts, and what it is refused for. There are three reasons, which are looked for in
order: an age of snapshots that makes no sense, a counter of another application, and a snapshot that
cannot be read. A refused start leaves nothing behind. In the end the host may refuse to run the jobs. -/
namespace CounterArchive

namespace Collector

variable {registry : Registry Counter} {c : Collector} {ids before after : List (Registry.Id Counter)}

def named (registry : Registry Counter) (ids : List (Registry.Id Counter)) :
    List (String × Registry.Id Counter) :=
  ids.filterMap fun id => (registry.get? id).map fun counter => (counter.storedAs, id)

/-- All counters are known, and they belong to an application. -/
def Own (registry : Registry Counter) (application : String) (ids : List (Registry.Id Counter)) :
    Prop :=
  ∀ id ∈ ids, ∃ counter, registry.get? id = some counter ∧ counter.application = application

theorem addAll_append_own (own : Own registry c.application before)
    (rest : List (Registry.Id Counter)) :
    c.addAll registry (before ++ rest) =
      addAll ⟨c.application, c.metrics, (named registry before).foldl
        (fun t entry => t.insert entry.1 entry.2) c.entries⟩ registry rest := by
  induction before generalizing c with
  | nil => rfl
  | cons id before ih =>
    obtain ⟨counter, known, same⟩ := own id (List.mem_cons_self ..)
    have others := ih (c := { c with entries := c.entries.insert counter.storedAs id })
      fun other listed => own other (List.mem_cons_of_mem _ listed)
    have first : named registry (id :: before) = (counter.storedAs, id) :: named registry before := by
      simp [named, known]
    rw [List.cons_append, addAll, known, first, List.foldl_cons]
    simp only [same, ne_eq, not_true_eq_false, if_false]
    exact others

/-- A collector of own counters has each of them under its name, and of several with one name the
last. -/
theorem of_own {application : String} (metrics : Option (Registry.Id Metrics))
    (own : Own registry application ids) :
    of registry application ids metrics =
      .ok ⟨application, metrics, .ofList (named registry ids)⟩ := by
  have added := addAll_append_own (c := ⟨application, metrics, .empty⟩) own []
  rw [List.append_nil] at added
  exact added

/-- The first counter of another application is told. -/
theorem of_foreign {application : String} (metrics : Option (Registry.Id Metrics))
    {id : Registry.Id Counter} {counter : Counter} (own : Own registry application before)
    (known : registry.get? id = some counter) (other : counter.application ≠ application) :
    of registry application (before ++ id :: after) metrics =
      .error (.foreignCounter counter.name counter.application application) := by
  have added := addAll_append_own (c := ⟨application, metrics, .empty⟩) own (id :: after)
  rw [of, added, addAll, known]
  exact if_pos other

/-- What a new collector holds are counters that it was given. -/
theorem registered_ofList_named {entry : String × Registry.Id Counter}
    (listed : entry ∈ (Table.ofList (named registry ids)).entries) :
    ∃ counter, registry.get? entry.2 = some counter ∧ counter.storedAs = entry.1 := by
  obtain ⟨id, -, found⟩ := List.mem_filterMap.mp (Table.mem_of_mem_ofList listed)
  obtain ⟨counter, value, rfl⟩ := Option.map_eq_some_iff.mp found
  exact ⟨counter, value, rfl⟩

end Collector

namespace World

variable {w u v : World} {c : Collector} {name : String} {ids : List (Registry.Id Counter)}
  {entries front : List (String × Registry.Id Counter)} {failure : Failure}

/-! Restoring what can be read -/

/-- What becomes of the entry of a counter in a restore: the counter itself is held as long as it has
no snapshot file, or the storage is disabled. Else it is the one in the file, with a number that nobody
had before. -/
structure Restored (w v : World) (c : Collector) (stored : String) (id : Registry.Id Counter)
    (counter : Counter) : Prop where
  kept : ¬ (w.disabled = false ∧
      w.files.isPresent (w.settings.snapshotPath counter.application counter.storedAs) = true) →
    c.get? stored = some id
  replaced : w.disabled = false →
    w.files.isPresent (w.settings.snapshotPath counter.application counter.storedAs) = true →
    ∃ old new, w.readSnapshot (w.settings.snapshotPath counter.application counter.storedAs) = .ok old ∧
      c.get? stored = some new ∧ v.counters.get? new = some old ∧ w.counters.get? new = none

theorem Restored.mono {stored : String} {id : Registry.Id Counter} {counter : Counter}
    (restored : w.Restored u c stored id counter) (same : v.counters = u.counters) :
    w.Restored v c stored id counter := by
  refine ⟨restored.kept, fun enabled present => ?_⟩
  rw [same]
  exact restored.replaced enabled present

/-- A collector whose snapshots can all be read is restored. -/
theorem restore_readable (readable : ∀ entry ∈ c.entries.entries, w.Readable entry.2) :
    ∃ counters log held count, c.restore w = ({ w with counters, log }, held, .ok count) ∧
      w.counters.Becomes Eq counters ∧ held.application = c.application ∧
      held.entries.keys = c.entries.keys ∧
      ∀ stored id counter, c.get? stored = some id → w.counters.get? id = some counter →
        w.Restored { w with counters } held stored id counter := by
  obtain ⟨counters, held, new, replaced, restored⟩ := restore_of_readable readable
  have whole : ∃ log, c.restore w = ({ w with counters, log }, held,
      .ok (c.entries.entries.countP w.isStale)) := by
    rw [restored]
    split
    · exact ⟨w.log, rfl⟩
    · exact ⟨_, rfl⟩
  obtain ⟨log, whole⟩ := whole
  refine ⟨counters, log, held, _, whole, replaced.kept, replaced.application, replaced.keys, ?_⟩
  intro stored id counter listed found
  obtain ⟨next, visit, there⟩ := replaced.held_entry (Table.mem_entries.mpr listed)
  cases visit with
  | kept known nothing =>
    cases found.symm.trans known
    refine ⟨fun _ => there, fun enabled present => ?_⟩
    rw [hasStored_iff.mpr ⟨enabled, present⟩] at nothing
    cases nothing
  | @replaced _ _ _ _ old known something read fresh value =>
    cases found.symm.trans known
    refine ⟨fun nothing => absurd (hasStored_iff.mp something) nothing, fun _ _ => ?_⟩
    exact ⟨old, next, read, there, value, fresh⟩

/-! What a start is refused for -/

/-- The entries that a collector of some counters begins with: one for each name. -/
def entriesOf (w : World) (ids : List (Registry.Id Counter)) : Table String (Registry.Id Counter) :=
  .ofList (Collector.named w.counters ids)

/-- The reasons for which no agent is started on some counters, each of which counts when there is none
of those before it. -/
inductive Refuses (w : World) (name : String) (ids : List (Registry.Id Counter)) : Failure → Prop where
  | retention {fault : Retention.Fault}
      (invalid : Retention.days w.settings.retention = .error fault) :
      Refuses w name ids (.retention fault)
  | foreign {days : Int} {before after : List (Registry.Id Counter)} {id : Registry.Id Counter}
      {counter : Counter} (valid : Retention.days w.settings.retention = .ok days)
      (split : ids = before ++ id :: after) (own : Collector.Own w.counters name before)
      (known : w.counters.get? id = some counter) (other : counter.application ≠ name) :
      Refuses w name ids (.foreignCounter counter.name counter.application name)
  | unreadable {days : Int} {before after : List (String × Registry.Id Counter)}
      {entry : String × Registry.Id Counter} {counter : Counter} {failure : Failure}
      (valid : Retention.days w.settings.retention = .ok days)
      (own : Collector.Own w.counters name ids) (enabled : w.disabled = false)
      (split : (w.entriesOf ids).entries = before ++ entry :: after)
      (readable : ∀ earlier ∈ before, w.Readable earlier.2)
      (known : w.counters.get? entry.2 = some counter)
      (failed : w.readCounter counter = .error failure) : Refuses w name ids failure

structure Accepts (w : World) (name : String) (ids : List (Registry.Id Counter)) : Prop where
  valid : ∃ days, Retention.days w.settings.retention = .ok days
  own : Collector.Own w.counters name ids
  readable : w.disabled = false → ∀ entry ∈ (w.entriesOf ids).entries, w.Readable entry.2

theorem refuses_or_accepts (name : String)
    (known : ∀ id ∈ ids, ∃ counter, w.counters.get? id = some counter) :
    (∃ failure, w.Refuses name ids failure) ∨ w.Accepts name ids := by
  rcases valid : Retention.days w.settings.retention with fault | days
  · exact .inl ⟨_, .retention valid⟩
  · rcases all_or_first (fun id => ∃ counter, w.counters.get? id = some counter ∧
      counter.application = name) ids with own | ⟨before, id, after, rfl, own, other⟩
    · by_cases enabled : w.disabled = false
      · rcases all_or_first (fun entry => w.Readable entry.2) (w.entriesOf ids).entries with
          readable | ⟨before, entry, after, split, readable, not⟩
        · exact .inr ⟨⟨days, valid⟩, own, fun _ => readable⟩
        · have listed : entry ∈ (w.entriesOf ids).entries := by simp [split]
          obtain ⟨counter, found, -⟩ := Collector.registered_ofList_named listed
          rcases read : w.readCounter counter with failure | stored
          · exact .inl ⟨failure, .unreadable valid own enabled split readable found read⟩
          · exact absurd ⟨counter, stored, found, read⟩ not
      · exact .inr ⟨⟨days, valid⟩, own, fun on => absurd on enabled⟩
    · obtain ⟨counter, found⟩ := known id (by simp)
      have foreign : counter.application ≠ name := fun same => other ⟨counter, found, same⟩
      exact .inl ⟨_, .foreign valid rfl own found foreign⟩

/-! The start -/

/-- The scheduler of an agent, if jobs are wanted: it runs, and writes all counters again and again and
purges the archive at midnight. -/
def scheduled (w : World) (k : Registry.Id Collector) : Option Scheduler :=
  if w.settings.cleaner then
    some ⟨k, .agent, [⟨.every w.settings.resolution, .collect⟩, ⟨.daily 0 0, .purge⟩], true⟩
  else none

/-- The host takes the jobs of an agent, or they are wanted and it tells what it has against them. -/
theorem takesJobs_or_objection (w : World) :
    w.TakesJobs ∨ w.settings.cleaner = true ∧ ∃ reason, w.objection? = some reason := by
  cases wanted : w.settings.cleaner with
  | false => exact .inl fun on => nomatch wanted.symm.trans on
  | true =>
    cases objection : w.objection? with
    | none => exact .inl fun _ => objection
    | some reason => exact .inr ⟨rfl, reason, rfl⟩

section Launch

variable {days : Int} (valid : Retention.days w.settings.retention = .ok days)

include valid

theorem startJobs_valid (takes : w.TakesJobs) (k : Registry.Id Collector) :
    w.startJobs k = .ok (w.scheduled k) := by
  rw [startJobs, scheduled, startCleaner, valid]
  split
  · rename_i wanted
    rw [takes wanted]
    rfl
  · rfl

/-- An agent is launched with a new collector, once it is known how long snapshots are kept. -/
theorem launch_valid (takes : w.TakesJobs) (name : String) (c : Collector) : ∃ collectors k log,
    w.launch name days c = ({ w with collectors, log }, .ok (k, w.scheduled k)) ∧
      collectors.get? k = some c := by
  have jobs := startJobs_valid (w := { w with collectors := (w.collectors.register c).1 }) valid takes
    (w.collectors.register c).2
  refine ⟨_, (w.collectors.register c).2,
    w.log ++ [.agentStarted name days (w.scheduled (w.collectors.register c).2).isSome], ?_,
    Registry.get?_register_self w.collectors c⟩
  rw [launch]
  simp only [jobs]
  rfl

/-- No agent is launched whose jobs the host does not run. -/
theorem launch_objected {reason : String} (wanted : w.settings.cleaner = true)
    (objection : w.objection? = some reason) (name : String) (c : Collector) : ∃ collectors,
    w.launch name days c = ({ w with collectors }, .error (.unscheduled reason)) := by
  have objectionAfter : World.objection? { w with collectors := (w.collectors.register c).1 } =
      some reason := objection
  refine ⟨(w.collectors.register c).1, ?_⟩
  rw [launch]
  simp only [startJobs, wanted, startCleaner, valid, objectionAfter]
  rfl

end Launch

/-- What a start makes of a world: it has a new collector of own counters, and nothing is lost. -/
structure Started (w u v : World) (name : String) (ids : List (Registry.Id Counter))
    (k : Registry.Id Collector) (jobs : Option Scheduler) : Prop where
  files : v.files = w.files
  disabled : v.disabled = w.disabled
  metrics : v.metrics = w.metrics
  counters : w.counters.Becomes Eq v.counters
  collector : ∃ c, v.collectors.get? k = some c ∧ c.application = name ∧
    c.entries.keys = (u.entriesOf ids).keys ∧
    ∀ stored id counter, (u.entriesOf ids).get? stored = some id →
      u.counters.get? id = some counter → u.Restored v c stored id counter
  jobs : jobs = w.scheduled k

variable {application : Option String} {given : Option (List (Registry.Id Counter))}

section Steps

variable {days : Int} (valid : Retention.days w.settings.retention = .ok days)
  (taken : w.counterIds (application.getD w.settings.application) given = .ok (u, ids))

include valid taken

theorem startAgent_unmade (failed : Collector.of u.counters
      (application.getD w.settings.application) ids (some u.processMetrics) = .error failure) :
    w.startAgent application given = (u, .error failure) := by
  simp only [startAgent, valid, taken, failed]

variable (made : Collector.of u.counters (application.getD w.settings.application) ids
  (some u.processMetrics) = .ok c)

include made

theorem startAgent_unrestored {held : Collector}
    (failed : u.restoreNew c = (v, held, .error failure)) :
    w.startAgent application given = (v, .error failure) := by
  simp only [startAgent, valid, taken, made, failed]

theorem startAgent_restored {held : Collector} {count : Nat}
    (restored : u.restoreNew c = (v, held, .ok count)) :
    w.startAgent application given =
      v.launch (application.getD w.settings.application) days held := by
  simp only [startAgent, valid, taken, made, restored]
  rfl

end Steps

theorem restoreNew_enabled (enabled : w.disabled = false) (c : Collector) :
    w.restoreNew c = c.restore w := by
  simp [restoreNew, enabled]

/-- Where a snapshot cannot be read, a restore fails for the first such one. -/
theorem restoreNew_unreadable {after : List (String × Registry.Id Counter)}
    {entry : String × Registry.Id Counter} {counter : Counter} (enabled : w.disabled = false)
    (split : c.entries.entries = front ++ entry :: after)
    (readable : ∀ earlier ∈ front, w.Readable earlier.2)
    (known : w.counters.get? entry.2 = some counter)
    (failed : w.readCounter counter = .error failure) :
    ∃ counters held, w.restoreNew c = ({ w with counters }, held, .error failure) ∧
      w.counters.Becomes Eq counters := by
  obtain ⟨counters, held, new, replaced, restored⟩ :=
    restore_of_unreadable split readable known failed
  exact ⟨counters, held, (restoreNew_enabled enabled c).trans restored, replaced.kept⟩

theorem startAgent_of_refuses
    (taken : w.counterIds (application.getD w.settings.application) given = .ok (u, ids))
    (refuses : u.Refuses (application.getD w.settings.application) ids failure) :
    ∃ counters, w.startAgent application given = ({ w with counters }, .error failure) ∧
      w.counters.Becomes Eq counters := by
  obtain ⟨counters, rfl, grown⟩ := counterIds_adds taken
  cases refuses with
  | retention invalid =>
    exact ⟨w.counters, by simp only [startAgent, invalid], .refl (fun _ => rfl) _⟩
  | foreign valid split own known other =>
    subst split
    exact ⟨counters, startAgent_unmade valid taken (Collector.of_foreign _ own known other), grown⟩
  | unreadable valid own enabled split readable known failed =>
    obtain ⟨more, held, stuck, moreGrown⟩ :=
      restoreNew_unreadable (c := ⟨application.getD w.settings.application, some w.processMetrics,
        entriesOf { w with counters } ids⟩) enabled split readable known failed
    exact ⟨more, startAgent_unrestored valid taken (Collector.of_own _ own) stuck,
      grown.trans moreGrown⟩

/-- A new collector whose snapshots can be read is restored, and nothing is while the storage is
disabled. -/
theorem restoreNew_readable
    (readable : w.disabled = false → ∀ entry ∈ c.entries.entries, w.Readable entry.2) :
    ∃ counters log held count, w.restoreNew c = ({ w with counters, log }, held, .ok count) ∧
      w.counters.Becomes Eq counters ∧ held.application = c.application ∧
      held.entries.keys = c.entries.keys ∧
      ∀ stored id counter, c.get? stored = some id → w.counters.get? id = some counter →
        w.Restored { w with counters } held stored id counter := by
  by_cases disabled : w.disabled = true
  · refine ⟨w.counters, _, c, 0, restoreNew_disabled disabled c, .refl (fun _ => rfl) _, rfl, rfl, ?_⟩
    intro stored id counter listed found
    refine ⟨fun _ => listed, fun enabled => ?_⟩
    rw [disabled] at enabled
    cases enabled
  · have enabled := Bool.eq_false_of_not_eq_true disabled
    rw [restoreNew_enabled enabled]
    exact restore_readable (readable enabled)

/-- When no reason stands against a start, all goes well up to the launch. -/
theorem startAgent_launches
    (taken : w.counterIds (application.getD w.settings.application) given = .ok (u, ids))
    (accepts : u.Accepts (application.getD w.settings.application) ids) :
    ∃ days counters log held, Retention.days w.settings.retention = .ok days ∧
      w.startAgent application given = ({ w with counters, log } : World).launch
        (application.getD w.settings.application) days held ∧
      w.counters.Becomes Eq counters ∧
      held.application = application.getD w.settings.application ∧
      held.entries.keys = (u.entriesOf ids).keys ∧
      ∀ stored id counter, (u.entriesOf ids).get? stored = some id →
        u.counters.get? id = some counter →
          u.Restored { w with counters } held stored id counter := by
  obtain ⟨counters, rfl, grown⟩ := counterIds_adds taken
  obtain ⟨⟨days, valid⟩, own, readable⟩ := accepts
  obtain ⟨more, log, held, count, restored, moreGrown, application, keys, each⟩ :=
    restoreNew_readable (w := { w with counters })
      (c := ⟨application.getD w.settings.application, some w.processMetrics,
        entriesOf { w with counters } ids⟩) readable
  refine ⟨days, more, log, held, valid,
    startAgent_restored (w := w) valid taken (Collector.of_own _ own) restored,
    grown.trans moreGrown, application, keys, ?_⟩
  exact fun stored id counter listed known => (each stored id counter listed known).mono rfl

theorem startAgent_of_accepts (takes : w.TakesJobs)
    (taken : w.counterIds (application.getD w.settings.application) given = .ok (u, ids))
    (accepts : u.Accepts (application.getD w.settings.application) ids) :
    ∃ v k jobs, w.startAgent application given = (v, .ok (k, jobs)) ∧
      w.Started u v (application.getD w.settings.application) ids k jobs := by
  obtain ⟨days, counters, log, held, valid, launches, grown, named, keys, each⟩ :=
    startAgent_launches taken accepts
  obtain ⟨collectors, k, events, whole, found⟩ :=
    launch_valid (w := { w with counters, log }) valid takes _ held
  refine ⟨_, k, _, launches.trans whole, ?_⟩
  obtain ⟨more, rfl, -⟩ := counterIds_adds taken
  refine ⟨rfl, rfl, rfl, grown, ⟨held, found, named, keys, ?_⟩, rfl⟩
  exact fun stored id counter listed known => (each stored id counter listed known).mono rfl

/-- What the host has against the jobs is told last. Then too the files, the switch, the figures and
all counters are as before. -/
theorem startAgent_objected {reason : String} (wanted : w.settings.cleaner = true)
    (objection : w.objection? = some reason)
    (taken : w.counterIds (application.getD w.settings.application) given = .ok (u, ids))
    (accepts : u.Accepts (application.getD w.settings.application) ids) :
    ∃ counters collectors log, w.startAgent application given =
        ({ w with counters, collectors, log }, .error (.unscheduled reason)) ∧
      w.counters.Becomes Eq counters := by
  obtain ⟨days, counters, log, held, valid, launches, grown, -⟩ := startAgent_launches taken accepts
  obtain ⟨collectors, refused⟩ :=
    launch_objected (w := { w with counters, log }) valid wanted objection _ held
  exact ⟨counters, collectors, log, launches.trans refused, grown⟩

theorem takesJobs_metered : World.metered.TakesJobs := fun _ => rfl

theorem accepts_metered : World.metered.Accepts "shop" [⟨0⟩] := by
  have nothing : World.metered.readCounter .visited = .ok none :=
    read_absent (w := World.metered) bare_initial.stocked plain_shop plain_http rfl
  refine ⟨⟨365, rfl⟩, ?_, ?_⟩
  · intro id listed
    obtain rfl := List.mem_singleton.mp listed
    exact ⟨.visited, rfl, rfl⟩
  · intro _ entry listed
    obtain rfl : entry = ("http", ⟨0⟩) := List.mem_singleton.mp listed
    exact ⟨.visited, none, rfl, nothing⟩

end World

end CounterArchive
