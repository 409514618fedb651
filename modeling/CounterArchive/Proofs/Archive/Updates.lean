import CounterArchive.Proofs.Archive.ReadBack
import CounterArchive.Proofs.Archive.Start
import CounterArchive.Proofs.Counter.Uses

/-! Which uses of counters get into the archive, once an agent was started on them. A counter that had
no snapshot is held itself, and all its uses are written. One that had a snapshot has been replaced by
what was stored: it is not written any more, and its uses are of no concern to the other one. -/
namespace CounterArchive

namespace Operation

/-- Some counters are used, while time goes on. -/
inductive Uses (ids : List (Registry.Id Counter)) : Operation → Prop where
  | hit {id : Registry.Id Counter} (listed : id ∈ ids) (request : String) (duration : Int)
      (systemError : Bool) : Uses ids (.addHits id request duration systemError)
  | error {id : Registry.Id Counter} (listed : id ∈ ids) (message : String)
      (requestName remoteUser : Option String) : Uses ids (.addError id message requestName remoteUser)
  | setClock (clock : Clock) : Uses ids (.setClock clock)

/-- What a counter is used for. An error is not added unless there is a date for it. -/
def use? (clock : Clock) (id : Registry.Id Counter) : Operation → Option Use
  | .addHits other request duration systemError =>
    if other = id then some (.hit request duration systemError) else none
  | .addError other message requestName remoteUser =>
    if other = id then clock.now?.map fun now => .error ⟨now, message, requestName, remoteUser⟩
    else none
  | _ => none

def clockAfter (clock : Clock) : Operation → Clock
  | .setClock clock => clock
  | _ => clock

def usesOf (clock : Clock) (id : Registry.Id Counter) : List Operation → List Use
  | [] => []
  | operation :: rest =>
    (operation.use? clock id).toList ++ usesOf (operation.clockAfter clock) id rest

variable {ids : List (Registry.Id Counter)} {operation : Operation} {operations : List Operation}

theorem Uses.use?_of_notMem (uses : operation.Uses ids) {id : Registry.Id Counter} (other : id ∉ ids)
    (clock : Clock) : operation.use? clock id = none := by
  have different {used : Registry.Id Counter} (listed : used ∈ ids) : used ≠ id := by
    rintro rfl
    exact other listed
  cases uses with
  | hit listed => exact if_neg (different listed)
  | error listed => exact if_neg (different listed)
  | setClock => rfl

/-- One hit on one counter. -/
theorem uses_hit (id : Registry.Id Counter) (request : String) (duration : Int)
    (systemError : Bool) :
    ∀ operation ∈ [addHits id request duration systemError], operation.Uses [id] := by
  intro operation listed
  rw [List.mem_singleton.mp listed]
  exact .hit (List.mem_singleton_self id) request duration systemError

/-- Counters that are not used have no uses. -/
theorem usesOf_of_notMem (uses : ∀ operation ∈ operations, operation.Uses ids)
    {id : Registry.Id Counter} (other : id ∉ ids) (clock : Clock) :
    usesOf clock id operations = [] := by
  induction operations generalizing clock with
  | nil => rfl
  | cons first rest ih =>
    rw [usesOf, (uses first (List.mem_cons_self ..)).use?_of_notMem other,
      ih fun operation listed => uses operation (List.mem_cons_of_mem _ listed)]
    rfl

end Operation

namespace World

variable {w u v x : World} {ids : List (Registry.Id Counter)} {operations : List Operation}

/-- A use changes the counter that it is about, and nothing else but the clock. -/
theorem operate_uses {operation : Operation} (uses : operation.Uses ids) :
    ∃ counters, (w.operate operation).1 =
        { w with counters, clock := operation.clockAfter w.clock } ∧
      ∀ id, counters.get? id =
        (w.counters.get? id).map (·.useAll (operation.use? w.clock id).toList) := by
  have unchanged (id : Registry.Id Counter) :
      w.counters.get? id = (w.counters.get? id).map (·.useAll []) := by
    simp [Counter.useAll]
  cases uses with
  | @hit used listed request duration systemError =>
    refine ⟨_, rfl, fun id => ?_⟩
    rw [Registry.get?_update, Operation.use?]
    split
    · rfl
    · exact unchanged id
  | @error used listed message requestName remoteUser =>
    simp only [operate, addError, Operation.use?]
    cases w.clock.now? with
    | none =>
      refine ⟨w.counters, rfl, fun id => ?_⟩
      rw [Option.map_none, ite_self]
      exact unchanged id
    | some now =>
      refine ⟨_, rfl, fun id => ?_⟩
      rw [Registry.get?_update]
      split
      · rfl
      · exact unchanged id
  | setClock clock => exact ⟨w.counters, rfl, unchanged⟩

/-- Uses change the counters that they are about, and nothing else but the clock. -/
theorem operateAll_uses (uses : ∀ operation ∈ operations, operation.Uses ids) :
    ∃ counters clock, (w.operateAll operations).1 = { w with counters, clock } ∧
      ∀ id, counters.get? id =
        (w.counters.get? id).map (·.useAll (Operation.usesOf w.clock id operations)) := by
  induction operations generalizing w with
  | nil => exact ⟨w.counters, w.clock, rfl, fun id => by simp [Operation.usesOf, Counter.useAll]⟩
  | cons first rest ih =>
    obtain ⟨counters, one, changed⟩ := operate_uses (w := w) (uses first (List.mem_cons_self ..))
    obtain ⟨more, clock, all, changedMore⟩ := ih (w := (w.operate first).1)
      fun operation listed => uses operation (List.mem_cons_of_mem _ listed)
    refine ⟨more, clock, all.trans ?_, fun id => ?_⟩
    · rw [one]
    · rw [changedMore, one, changed, Option.map_map]
      congr 1
      funext counter
      exact List.foldl_append.symm

/-! Files of their own -/

/-- The snapshots of two counters are never at one place. -/
def Apart (s : Settings) (c d : Counter) : Prop :=
  ∀ (t : FileTree) (place : Location), t.locate (s.snapshotPath c.application c.storedAs) = .ok place →
    t.locate (s.snapshotPath d.application d.storedAs) ≠ .ok place

/-- Of some counters no other one has its snapshot in the place of that of a counter. -/
def Alone (w : World) (ids : List (Registry.Id Counter)) (id : Registry.Id Counter) (c : Counter) :
    Prop :=
  ∀ other ∈ ids, other ≠ id → ∀ d, w.counters.get? other = some d → Apart w.settings c d

/-- Counters that are stored under different names without slashes have places of their own. -/
theorem apart_of_storedAs (s : Settings) {c d : Counter} (noSlash : '/' ∉ c.storedAs.toList)
    (otherNoSlash : '/' ∉ d.storedAs.toList) (different : c.storedAs ≠ d.storedAs) :
    Apart s c d := by
  intro t place located also
  obtain ⟨above, rfl⟩ := s.locate_snapshotPath_child noSlash located
  obtain ⟨other, same⟩ := s.locate_snapshotPath_child otherNoSlash also
  exact different (String.append_left_inj _ |>.mp (Location.child_inj.mp same).2)

def Stores (w : World) (c : Counter) : Prop :=
  ∃ file, w.files.file? (w.settings.snapshotPath c.application c.storedAs) = .ok file ∧
    Snapshot.Holds file.content c

theorem Stores.readCounter {c : Counter} (stores : w.Stores c) (enabled : w.disabled = false)
    (fits : c.FitsDigits) (whole : c.Whole) : w.readCounter c = .ok (some c) := by
  obtain ⟨file, found, holds⟩ := stores
  rw [World.readCounter, read_of_file enabled found]
  simp only [holds.decode_eq, Snapshot.decodeText_text _ w.host.roomForDocument fits whole]

theorem stores_of_write {c : Counter} {size : Option Nat} (enabled : w.disabled = false)
    (used : c.isUnused = false) (wrote : w.write c = (u, .ok size)) : u.Stores c := by
  have same := w.untouched_write c
  cases size with
  | some bytes =>
    obtain ⟨found, holds⟩ := file?_of_write wrote
    rw [wrote] at same
    rw [← same.settings] at found
    exact ⟨_, found, holds⟩
  | none =>
    have course := w.course_write c
    rw [wrote] at course
    cases course with
    | skipped skips =>
      rcases skips with disabled | ⟨unused, -⟩
      · rw [enabled] at disabled
        cases disabled
      · rw [used] at unused
        cases unused

/-- The snapshot of a counter stays while others are written in other places. -/
theorem Stores.write {c d : Counter} (stores : w.Stores c) (apart : Apart w.settings c d) :
    (w.write d).1.Stores c := by
  obtain ⟨file, found, holds⟩ := stores
  have kept :=
    (w.files.growsTo_ensureDirectories w.host.directories (w.snapshotDirectory d)).file? found
  refine ⟨file, ?_, holds⟩
  rw [(w.untouched_write d).settings]
  rcases w.files_write_cases d with same | same | ⟨file, written⟩
  · rw [same]
    exact found
  · rw [same]
    exact kept
  · exact FileTree.file?_write_of_ne written (apart _) kept

/-- When all counters have been written, a used one among them is in its file, if no other one is
written into the same place. -/
theorem stores_writeEach {id : Registry.Id Counter} {c : Counter} {sizes : List (Option Nat)}
    (enabled : w.disabled = false) (known : w.counters.get? id = some c) (used : c.isUnused = false)
    (alone : w.Alone ids id c) (among : id ∈ ids ∨ w.Stores c)
    (wrote : w.writeEach ids = (x, sizes, none)) : x.Stores c := by
  induction ids generalizing w sizes with
  | nil =>
    cases wrote
    exact among.resolve_left (by simp)
  | cons first rest ih =>
    have same := untouched_writeOne w first
    rcases one : w.writeOne first with ⟨u, failure | size⟩
    · rw [writeEach_cons_error rest one] at wrote
      cases wrote
    · rw [writeEach_cons_ok rest one] at wrote
      rcases others : u.writeEach rest with ⟨last, more, failed⟩
      rw [others] at wrote
      cases wrote
      rw [one] at same
      have aloneAfter : u.Alone rest id c := by
        intro other listed different d found
        rw [same.counters] at found
        rw [same.settings]
        exact alone other (List.mem_cons_of_mem _ listed) different d found
      refine ih (same.disabled.trans enabled) (same.counters ▸ known) aloneAfter ?_ others
      by_cases here : first = id
      · subst here
        rw [writeOne_known known] at one
        exact .inr (stores_of_write enabled used one)
      · rcases among with listed | stores
        · exact .inl ((List.mem_cons.mp listed).resolve_left fun same => here same.symm)
        · cases there : w.counters.get? first with
          | none =>
            rw [writeOne, there] at one
            cases one
          | some d =>
            rw [writeOne_known there] at one
            have kept := stores.write (alone first (List.mem_cons_self ..) here d there)
            rw [one] at kept
            exact .inr kept

/-- After a collector has written its counters, each used one is read as it is. -/
theorem readCounter_writeAll {c : Collector} {stored : String} {id : Registry.Id Counter}
    {counter : Counter} {bytes : Nat} (enabled : w.disabled = false)
    (held : c.get? stored = some id) (known : w.counters.get? id = some counter)
    (used : counter.isUnused = false) (fits : counter.FitsDigits) (whole : counter.Whole)
    (alone : w.Alone c.counters id counter) (wrote : c.writeAll w = (x, .ok bytes)) :
    x.readCounter counter = .ok (some counter) := by
  have same := untouched_writeEach w c.counters
  have among : id ∈ c.counters := List.mem_map_of_mem (Table.mem_entries.mpr held)
  rw [Collector.writeAll_eq] at wrote
  rcases each : w.writeEach c.counters with ⟨u, sizes, failed⟩
  rw [each] at wrote same
  cases failed with
  | some failure => cases wrote
  | none =>
    cases wrote
    have stores := stores_writeEach enabled known used alone (.inl among) each
    exact (readCounter_congr rfl rfl rfl rfl rfl).trans
      (stores.readCounter (same.disabled.trans enabled) fits whole)

/-! Starting an agent -/

theorem names_named (w : World) (ids : List (Registry.Id Counter)) :
    (Collector.named w.counters ids).map Prod.fst = w.storedNames ids := by
  simp only [Collector.named, storedNames, List.map_filterMap, Option.map_map]
  rfl

/-- The names of counters are those of the entries that a collector of them begins with. -/
theorem keys_entriesOf (distinct : (w.storedNames ids).Nodup) :
    (w.entriesOf ids).keys = w.storedNames ids := by
  rw [← names_named] at distinct ⊢
  exact congrArg _ (Table.entries_ofList distinct)

theorem get?_entriesOf (distinct : (w.storedNames ids).Nodup) {id : Registry.Id Counter}
    {counter : Counter} (listed : id ∈ ids) (known : w.counters.get? id = some counter) :
    (w.entriesOf ids).get? counter.storedAs = some id := by
  rw [← names_named] at distinct
  apply Table.mem_entries.mp
  rw [entriesOf, Table.entries_ofList distinct]
  exact List.mem_filterMap.mpr ⟨id, listed, by rw [known]; rfl⟩

/-- Counters with different names without slashes have files of their own. -/
theorem alone_of_storedNames (noSlash : ∀ name ∈ w.storedNames ids, '/' ∉ name.toList)
    (distinct : (w.storedNames ids).Nodup) {id : Registry.Id Counter} {c : Counter}
    (listed : id ∈ ids) (known : w.counters.get? id = some c) : w.Alone ids id c := by
  intro other among different d found
  apply apart_of_storedAs w.settings (noSlash _ (mem_storedNames listed known))
    (noSlash _ (mem_storedNames among found))
  intro same
  have first := get?_entriesOf distinct listed known
  rw [same, get?_entriesOf distinct among found] at first
  exact different (Option.some.inj first)

/-- A start that goes well leaves no snapshot unread. -/
theorem started_of_startAgent {application : Option String} {k : Registry.Id Collector}
    {jobs : Option Scheduler} (known : ∀ id ∈ ids, ∃ counter, w.counters.get? id = some counter)
    (started : w.startAgent application (some ids) = (v, .ok (k, jobs))) :
    w.Started w v (application.getD w.settings.application) ids k jobs := by
  have taken : w.counterIds (application.getD w.settings.application) (some ids) = .ok (w, ids) := rfl
  rcases refuses_or_accepts (application.getD w.settings.application) known with
    ⟨failure, refuses⟩ | accepts
  · obtain ⟨_, refused, -⟩ := startAgent_of_refuses taken refuses
    rw [started] at refused
    cases refused
  · rcases w.takesJobs_or_objection with takes | ⟨wanted, reason, objection⟩
    · obtain ⟨_, _, _, launched, fine⟩ := startAgent_of_accepts takes taken accepts
      rw [started] at launched
      cases launched
      exact fine
    · obtain ⟨_, _, _, refused, -⟩ := startAgent_objected wanted objection taken accepts
      rw [started] at refused
      cases refused

/-- A collector holds a counter itself, which has grown by its uses. When all counters have been
written, it is read with them. -/
structure Carries (w : World) (c : Collector) (id : Registry.Id Counter) (before : Counter)
    (uses : List Use) : Prop where
  held : c.get? before.storedAs = some id
  grown : ∃ after, w.counters.get? id = some after ∧ before.GrownBy after uses ∧
    ∀ x bytes, c.writeAll w = (x, .ok bytes) → before.isUnused = false ∨ uses ≠ [] →
      after.FitsDigits → after.Whole → w.Alone c.counters id after →
        x.readCounter before = .ok (some after)

/-- A collector holds what was stored of a counter, which is another one than those in use. -/
structure Replaces (w : World) (c : Collector) (ids : List (Registry.Id Counter))
    (before stored : Counter) : Prop where
  held : ∃ new, c.get? before.storedAs = some new ∧ new ∉ ids ∧ w.counters.get? new = some stored

theorem carries_of_held {c : Collector} {id : Registry.Id Counter} {before : Counter}
    {uses : List Use} (enabled : w.disabled = false) (held : c.get? before.storedAs = some id)
    (known : w.counters.get? id = some (before.useAll uses)) : w.Carries c id before uses := by
  refine ⟨held, before.useAll uses, known, before.grownBy_useAll uses, ?_⟩
  intro x bytes wrote used fits whole alone
  have usedAfter : (before.useAll uses).isUnused = false := by
    rw [Counter.isUnused_useAll, Bool.and_eq_false_iff, List.isEmpty_eq_false_iff]
    exact used
  obtain ⟨application, storedAs⟩ := before.place_useAll uses
  have read := readCounter_writeAll enabled held known usedAfter fits whole alone wrote
  rwa [readCounter, application, storedAs] at read

/-- When an agent has been started on counters with different names, the uses of those that had no
snapshot are written with them. The others have been replaced by what was stored, and what they are used
for then does not change that. -/
theorem startAgent_updates {application : Option String} {k : Registry.Id Collector}
    {jobs : Option Scheduler} (enabled : w.disabled = false)
    (known : ∀ id ∈ ids, ∃ counter, w.counters.get? id = some counter)
    (distinct : (w.storedNames ids).Nodup)
    (started : w.startAgent application (some ids) = (v, .ok (k, jobs)))
    (uses : ∀ operation ∈ operations, operation.Uses ids) :
    ∃ c, v.collectors.get? k = some c ∧ c.entries.keys = w.storedNames ids ∧
      ∀ id ∈ ids, ∀ counter, w.counters.get? id = some counter →
        (w.files.isPresent (w.settings.snapshotPath counter.application counter.storedAs) = false →
          (v.operateAll operations).1.Carries c id counter
            (Operation.usesOf v.clock id operations)) ∧
        (w.files.isPresent (w.settings.snapshotPath counter.application counter.storedAs) = true →
          ∃ stored, w.readCounter counter = .ok (some stored) ∧
            (v.operateAll operations).1.Replaces c ids counter stored) := by
  have fine := started_of_startAgent known started
  obtain ⟨c, found, -, keys, each⟩ := fine.collector
  obtain ⟨counters, clock, all, changed⟩ := operateAll_uses (w := v) uses
  refine ⟨c, found, keys.trans (keys_entriesOf distinct), ?_⟩
  intro id listed counter there
  have restored := each counter.storedAs id counter (get?_entriesOf distinct listed there) there
  rw [all]
  constructor
  · intro absent
    apply carries_of_held (w := { v with counters, clock }) (fine.disabled.trans enabled)
    · exact restored.kept (by simp [absent])
    · exact (changed id).trans (by rw [fine.counters.kept there]; rfl)
  · intro present
    obtain ⟨stored, new, read, held, value, unknown⟩ := restored.replaced enabled present
    have other : new ∉ ids := by
      intro among
      obtain ⟨old, taken⟩ := known new among
      rw [unknown] at taken
      cases taken
    refine ⟨stored, ?_, new, held, other, (changed new).trans ?_⟩
    · rw [readCounter_eq, if_pos ⟨enabled, present⟩, read]
      rfl
    · rw [Operation.usesOf_of_notMem uses other, value]
      rfl

theorem settings_startAgent (w : World) (application : Option String)
    (given : Option (List (Registry.Id Counter))) :
    (w.startAgent application given).1.settings = w.settings := by
  obtain ⟨counters, collectors, log, same, -⟩ := startAgent_adds w application given
  rw [same]

theorem clock_startAgent (w : World) (application : Option String)
    (given : Option (List (Registry.Id Counter))) :
    (w.startAgent application given).1.clock = w.clock := by
  obtain ⟨counters, collectors, log, same, -⟩ := startAgent_adds w application given
  rw [same]

/-- A collector of one used counter can write it. -/
theorem writeAll_single {base : Location} {shelf : Shelf} {c : Collector} {stored : String}
    {id : Registry.Id Counter} {counter : Counter}
    (stock : Stocked w.settings base w.files shelf) (enabled : w.disabled = false)
    (keys : c.entries.keys = [stored]) (held : c.get? stored = some id)
    (known : w.counters.get? id = some counter) (plain : counter.Plain)
    (used : counter.isUnused = false) (stamps : w.clock.Stamps) :
    c.counters = [id] ∧ ∃ x bytes, c.writeAll w = (x, .ok bytes) := by
  obtain ⟨v, wrote, -, -⟩ := write_stocked stock plain enabled stamps (.inl used)
  have single : c.entries.entries = [(stored, id)] := by
    obtain ⟨entry, only⟩ := List.map_eq_singleton_iff.mp keys
    have listed := Table.mem_entries.mpr held
    rw [only.1, List.mem_singleton] at listed
    rw [only.1, listed]
  have counters : c.counters = [id] := by
    rw [Collector.counters, Table.values, single]
    rfl
  refine ⟨counters, ?_⟩
  rw [Collector.writeAll_eq, counters, writeEach_cons_ok [] ((writeOne_known known).trans wrote)]
  exact ⟨_, _, rfl⟩

theorem counters_metered {id : Registry.Id Counter} (listed : id ∈ [(⟨0⟩ : Registry.Id Counter)]) :
    World.metered.counters.get? id = some .visited := by
  obtain rfl := List.mem_singleton.mp listed
  rfl

/-- A hit after the start of an agent is written with the counter, which had no snapshot. -/
theorem startAgent_updates_metered : ∃ v k jobs c x bytes,
    World.metered.startAgent (some "shop") (some [⟨0⟩]) = (v, .ok (k, jobs)) ∧
      v.collectors.get? k = some c ∧
      c.writeAll (v.operateAll [.addHits ⟨0⟩ "GET /pay" 5 false]).1 = (x, .ok bytes) ∧
      x.readCounter .visited = .ok (some (Counter.visited.addHits "GET /pay" 5 false)) := by
  have taken : metered.counterIds ((some "shop").getD metered.settings.application) (some [⟨0⟩]) =
      .ok (metered, [⟨0⟩]) := rfl
  obtain ⟨v, k, jobs, started, fine⟩ :=
    startAgent_of_accepts takesJobs_metered taken accepts_metered
  have settings := World.metered.settings_startAgent (some "shop") (some [⟨0⟩])
  have clock := World.metered.clock_startAgent (some "shop") (some [⟨0⟩])
  rw [started] at settings clock
  have stamps : v.clock.Stamps := by
    rw [clock]
    decide
  have stock : Stocked v.settings tmp v.files Shelf.empty := by
    rw [settings, fine.files]
    exact bare_initial.stocked
  obtain ⟨c, found, keys, each⟩ := startAgent_updates (w := World.metered) rfl
    (fun id listed => ⟨_, counters_metered listed⟩) (by decide) started
    (Operation.uses_hit ⟨0⟩ "GET /pay" 5 false)
  have absent := bare_initial.stocked.isPresent_snapshotPath plain_shop plain_http
  obtain ⟨held, after, value, -, written⟩ :=
    (each ⟨0⟩ (List.mem_singleton_self _) .visited rfl).1 absent
  have known : (v.operateAll [.addHits ⟨0⟩ "GET /pay" 5 false]).1.counters.get? ⟨0⟩ =
      some (Counter.visited.addHits "GET /pay" 5 false) := by
    refine (Registry.get?_update_self v.counters ⟨0⟩ _).trans ?_
    rw [fine.counters.kept (counters_metered (List.mem_singleton_self _))]
    rfl
  cases value.symm.trans known
  obtain ⟨counters, x, bytes, wrote⟩ := writeAll_single
    (w := (v.operateAll [.addHits ⟨0⟩ "GET /pay" 5 false]).1) stock fine.disabled keys held known
    plain_visited (by decide) stamps
  refine ⟨v, k, jobs, c, x, bytes, started, found, wrote,
    written x bytes wrote (.inl (by decide)) ?_ (by decide) ?_⟩
  · intro n listed
    have integers : (Counter.visited.addHits "GET /pay" 5 false).integers = [1, 12, 0, 1, 5, 0] := by
      decide
    rw [integers] at listed
    apply fitsDigits_of_small
    revert n
    decide
  · rw [counters]
    intro other listed different
    exact absurd (List.mem_singleton.mp listed) different

theorem entriesOf_metered (same : metered.SameBesidesFiles w) :
    w.entriesOf [⟨0⟩] = metered.entriesOf [⟨0⟩] := by
  rw [entriesOf, same.counters]
  rfl

/-- An agent is started on a counter with a snapshot that can be read. -/
theorem accepts_of_metered (same : metered.SameBesidesFiles w)
    (read : w.readCounter .visited = .ok (some .visited)) : w.Accepts "shop" [⟨0⟩] := by
  have counters : ∀ id ∈ [(⟨0⟩ : Registry.Id Counter)], w.counters.get? id = some .visited := by
    intro id listed
    rw [same.counters]
    exact counters_metered listed
  refine ⟨⟨365, by rw [same.settings]; rfl⟩, fun id listed => ⟨.visited, counters id listed, rfl⟩, ?_⟩
  rw [entriesOf_metered same]
  intro _ entry listed
  obtain rfl : entry = ("http", ⟨0⟩) := List.mem_singleton.mp listed
  exact ⟨.visited, some .visited, counters ⟨0⟩ (List.mem_singleton_self _), read⟩

/-- What is stored of a counter takes its place when an agent is started on it. -/
theorem replaced_metered : ∃ (w v : World) (k : Registry.Id Collector) (jobs : Option Scheduler)
    (c : Collector) (new : Registry.Id Counter) (shelf : Shelf),
    w.disabled = false ∧ w.counters.get? ⟨0⟩ = some .visited ∧ w.storedNames [⟨0⟩] = ["http"] ∧
      w.startAgent (some "shop") (some [⟨0⟩]) = (v, .ok (k, jobs)) ∧
      v.collectors.get? k = some c ∧ c.entries.keys = ["http"] ∧ c.get? "http" = some new ∧
      v.counters.get? new = some .visited ∧ ⟨0⟩ ≠ new ∧
      Stocked v.settings tmp v.files shelf ∧ v.disabled = false ∧ v.clock.Stamps := by
  obtain ⟨w, -, same, stock⟩ := writeEach_metered
  rw [← same.settings] at stock
  have known : w.counters.get? ⟨0⟩ = some .visited := by
    rw [same.counters]
    exact counters_metered (List.mem_singleton_self _)
  have kept : Shelf.empty.set "shop" "http" (some (metered.entryOf .visited)) "shop" "http" =
      some (metered.entryOf .visited) := if_pos ⟨rfl, rfl⟩
  have read : w.readCounter .visited = .ok (some .visited) :=
    read_fitting stock plain_shop plain_http same.disabled kept fitsDigits_visited whole_visited
  have present := stock.isPresent_snapshotPath plain_shop plain_http
  rw [kept] at present
  have taken : w.counterIds ((some "shop").getD w.settings.application) (some [⟨0⟩]) =
      .ok (w, [⟨0⟩]) := rfl
  have takes : w.TakesJobs := same.takesJobs takesJobs_metered
  obtain ⟨v, k, jobs, started, fine⟩ := startAgent_of_accepts takes taken (accepts_of_metered same read)
  have settings := w.settings_startAgent (some "shop") (some [⟨0⟩])
  have clock := w.clock_startAgent (some "shop") (some [⟨0⟩])
  rw [started] at settings clock
  have stamps : v.clock.Stamps := by
    rw [clock, same.clock]
    decide
  rw [← settings, ← fine.files] at stock
  obtain ⟨c, found, -, keys, each⟩ := fine.collector
  rw [entriesOf_metered same] at keys each
  obtain ⟨old, new, snapshot, held, value, unknown⟩ :=
    (each "http" ⟨0⟩ .visited rfl known).replaced same.disabled present
  rw [readCounter_eq, if_pos ⟨same.disabled, present⟩, snapshot] at read
  cases read
  have different : (⟨0⟩ : Registry.Id Counter) ≠ new := by
    rintro rfl
    rw [known] at unknown
    cases unknown
  have names : w.storedNames [⟨0⟩] = ["http"] := by
    rw [storedNames, same.counters]
    rfl
  exact ⟨w, v, k, jobs, c, new, _, same.disabled, known, names, started, found, keys, held, value,
    different, stock, fine.disabled.trans same.disabled, stamps⟩

/-- A hit after the start of an agent may be lost: when the counter had a snapshot, it is not the one
that is written. -/
theorem not_startAgent_updates :
    ¬ ∀ (w v : World) (application : Option String) (ids : List (Registry.Id Counter))
      (k : Registry.Id Collector) (jobs : Option Scheduler) (operations : List Operation),
      w.disabled = false → (∀ id ∈ ids, ∃ counter, w.counters.get? id = some counter) →
      (w.storedNames ids).Nodup → w.startAgent application (some ids) = (v, .ok (k, jobs)) →
      (∀ operation ∈ operations, operation.Uses ids) →
      ∀ (c : Collector) (x : World) (bytes : Nat) (id held : Registry.Id Counter)
        (counter before : Counter), v.collectors.get? k = some c →
        c.writeAll (v.operateAll operations).1 = (x, .ok bytes) → id ∈ ids →
        w.counters.get? id = some counter → c.get? counter.storedAs = some held →
        v.counters.get? held = some before →
        ∃ stored, x.readCounter counter = .ok (some stored) ∧
          before.GrownBy stored (Operation.usesOf v.clock id operations) := by
  intro claim
  obtain ⟨w, v, k, jobs, c, new, shelf, enabled, known, names, started, found, keys, held, value,
    different, stock, on, stamps⟩ := replaced_metered
  have untouched : (v.operateAll [.addHits ⟨0⟩ "GET /pay" 5 false]).1.counters.get? new =
      some .visited :=
    (Registry.get?_update_of_ne v.counters (·.addHits "GET /pay" 5 false) different).trans value
  obtain ⟨single, x, bytes, wrote⟩ := writeAll_single
    (w := (v.operateAll [.addHits ⟨0⟩ "GET /pay" 5 false]).1) stock on keys held untouched
    plain_visited (by decide) stamps
  have alone : (v.operateAll [.addHits ⟨0⟩ "GET /pay" 5 false]).1.Alone c.counters new .visited := by
    rw [single]
    intro other listed apart
    exact absurd (List.mem_singleton.mp listed) apart
  have read := readCounter_writeAll (w := (v.operateAll [.addHits ⟨0⟩ "GET /pay" 5 false]).1) on held
    untouched (by decide) fitsDigits_visited whole_visited alone wrote
  obtain ⟨stored, also, grown⟩ := claim w v (some "shop") [⟨0⟩] k jobs _ enabled
    (fun id listed => ⟨.visited, by rw [List.mem_singleton.mp listed]; exact known⟩)
    (by rw [names]; decide) started (Operation.uses_hit ⟨0⟩ "GET /pay" 5 false) c x bytes ⟨0⟩
    new .visited .visited found wrote (List.mem_singleton_self _) known held value
  rw [read] at also
  cases also
  have hits := congrArg Request.hits (grown.requests "GET /pay")
  change (0 : Int) = 0 + 1 at hits
  exact absurd hits (by decide)

end World

end CounterArchive
