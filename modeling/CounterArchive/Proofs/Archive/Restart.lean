import CounterArchive.Proofs.Archive.Entries
import CounterArchive.Proofs.Archive.Session

/-! A restart gives back what was held: counters that were used or that have a snapshot as they
were, and others as unused as they were. -/
namespace CounterArchive

/-- What comes back for a counter: the counter itself, or another one that is as unused. -/
structure Counter.Returned (missing : Prop) (a b : Counter) : Prop where
  application : b.application = a.application
  storedAs : b.storedAs = a.storedAs
  same : b = a ∨ a.isUnused = true ∧ b.isUnused = true ∧ missing

theorem Collector.Holds.plain {registry : Registry Counter} {c : Collector}
    (holds : c.Holds registry) (plain : PlainApplication c.application)
    (plainNames : ∀ stored id, c.get? stored = some id → PlainStored stored) {stored : String}
    {id : Registry.Id Counter} (held : c.get? stored = some id) {counter : Counter}
    (known : registry.get? id = some counter) : counter.Plain := by
  obtain ⟨other, there, own, named⟩ := holds stored id held
  rw [known] at there
  cases there
  constructor
  · rw [own]
    exact plain
  · rw [named]
    exact plainNames stored id held

/-- A collector holds its counters if they are those of another one that came back. -/
theorem Collector.Holds.of_returned {r q : Registry Counter} {c d : Collector} (holds : c.Holds r)
    (same : d.application = c.application)
    (missing : ∀ stored, d.get? stored = none ↔ c.get? stored = none) {idle : String → Prop}
    (returned : ∀ stored, Option.Rel (Counter.Returned (idle stored))
      ((c.get? stored).bind r.get?) ((d.get? stored).bind q.get?)) : d.Holds q := by
  intro stored other found
  cases before : c.get? stored with
  | none =>
    rw [(missing stored).mpr before] at found
    cases found
  | some id =>
    obtain ⟨a, known, mine, named⟩ := holds stored id before
    have pair := returned stored
    rw [before, found, Option.bind_some, Option.bind_some, known] at pair
    cases after : q.get? other with
    | none =>
      rw [after] at pair
      cases pair
    | some b =>
      rw [after] at pair
      cases pair with
      | some back =>
        refine ⟨b, rfl, ?_, back.storedAs.trans named⟩
        rw [back.application, mine, same]

/-- A collector of fresh counters has the same names as the one before. -/
theorem Collector.of_fresh {c : Collector} {fresh : List Counter} (suited : c.FreshFor fresh)
    (r : Registry Counter) (metrics : Option (Registry.Id Metrics)) :
    ∃ held, Collector.of (r.registerAll fresh).1 c.application (r.registerAll fresh).2 metrics =
        .ok held ∧ held.application = c.application ∧ held.Holds (r.registerAll fresh).1 ∧
      (∀ stored id, held.get? stored = some id →
        ∃ f, (r.registerAll fresh).1.get? id = some f ∧ f.isUnused = true) ∧
      ∀ stored, held.get? stored = none ↔ c.get? stored = none := by
  obtain ⟨listed, registered, -⟩ := r.registerAll_spec fresh
  have own : ∀ id ∈ (r.registerAll fresh).2, ∃ f, (r.registerAll fresh).1.get? id = some f ∧
      f.application = c.application := by
    intro id member
    obtain ⟨f, new, known⟩ := listed id member
    exact ⟨f, known, suited.own f new⟩
  obtain ⟨held, taken, source, missing⟩ :=
    addAll_ok (c := ⟨c.application, metrics, .empty⟩) own
  obtain ⟨holds, same⟩ := addAll_holds (holds_empty c.application metrics) taken
  refine ⟨held, taken, same, holds, ?_, ?_⟩
  · intro stored id found
    rcases source stored id found with before | member
    · cases before
    · obtain ⟨f, new, known⟩ := listed id member
      exact ⟨f, known, suited.unused f new⟩
  · intro stored
    rw [missing stored, suited.names stored]
    constructor
    · rintro ⟨-, others⟩ f new
      obtain ⟨id, member, known⟩ := registered f new
      exact others id member f known
    · intro others
      refine ⟨rfl, ?_⟩
      intro id member f known
      obtain ⟨g, new, same⟩ := listed id member
      rw [known] at same
      cases same
      exact others f new

structure Ledger.Restores (l : Ledger) (new held : Collector) (counters : Registry Counter) :
    Prop where
  application : held.application = new.application
  grown : ∀ id old, l.counters.get? id = some old → counters.get? id = some old
  absent : ∀ stored, new.get? stored = none → held.get? stored = none
  fresh : ∀ stored id, new.get? stored = some id → l.shelf new.application stored = none →
    held.get? stored = some id
  kept : ∀ stored id entry, new.get? stored = some id →
    l.shelf new.application stored = some entry →
      ∃ other, held.get? stored = some other ∧ counters.get? other = some entry.counter

namespace Ledger.Restores

variable {l m : Ledger} {new held c : Collector} {counters : Registry Counter}

theorem names (restores : l.Restores new held counters) (stored : String) :
    held.get? stored = none ↔ new.get? stored = none := by
  refine ⟨?_, restores.absent stored⟩
  intro absent
  by_contra present
  obtain ⟨id, taken⟩ := Option.ne_none_iff_exists'.mp present
  cases shelved : l.shelf new.application stored with
  | none => simp [restores.fresh stored id taken shelved] at absent
  | some entry =>
    obtain ⟨other, found, -⟩ := restores.kept stored id entry taken shelved
    simp [found] at absent

/-- A counter comes back from the shelf on which it has just been written. -/
theorem returned (restores : l.Restores new held counters) (holds : c.Holds m.counters)
    (fresh : new.Holds l.counters) (own : new.application = c.application)
    (unused : ∀ stored id, new.get? stored = some id →
      ∃ f, l.counters.get? id = some f ∧ f.isUnused = true)
    (names : ∀ stored, new.get? stored = none ↔ c.get? stored = none)
    (shelved : ∀ stored id a, c.get? stored = some id → m.counters.get? id = some a →
      l.shelf c.application stored = m.written c.application stored a) (stored : String) :
    Option.Rel (Counter.Returned (m.shelf c.application stored = none))
      ((c.get? stored).bind m.counters.get?) ((held.get? stored).bind counters.get?) := by
  cases before : c.get? stored with
  | none =>
    rw [restores.absent stored ((names stored).mpr before)]
    exact .none
  | some id =>
    obtain ⟨a, known, mine, named⟩ := holds stored id before
    have present : new.get? stored ≠ none := by simp [names stored, before]
    obtain ⟨first, taken⟩ := Option.ne_none_iff_exists'.mp present
    have shelf := shelved stored id a before known
    rw [written, ← own] at shelf
    rw [Option.bind_some, known]
    split at shelf
    · -- nothing was stored, so that the fresh counter stays
      rename_i skipped
      obtain ⟨idle, nothing⟩ := Bool.and_eq_true_iff.mp skipped
      obtain ⟨f, registered, unusedAgain⟩ := unused stored first taken
      obtain ⟨other, there, mineToo, namedToo⟩ := fresh stored first taken
      rw [registered] at there
      cases there
      rw [restores.fresh stored first taken shelf, Option.bind_some,
        restores.grown first f registered]
      refine .some ⟨?_, namedToo.trans named.symm, .inr ⟨idle, unusedAgain, ?_⟩⟩
      · rw [mine, mineToo, own]
      · simpa [own] using nothing
    · obtain ⟨other, found, back⟩ := restores.kept stored first _ taken shelf
      rw [found, Option.bind_some, back]
      exact .some ⟨rfl, rfl, .inl rfl⟩

end Ledger.Restores

namespace Refines

variable {base : Location} {w : World} {l : Ledger}

theorem registerCollector (refines : Refines base w l) (c : Collector) :
    Refines base { w with collectors := (w.collectors.register c).1 }
      { l with collectors := (l.collectors.register c).1 } := by
  have collectors := congrArg (fun all => (all.register c).1) refines.collectors
  exact ⟨refines.clock, refines.retention, refines.disabled, refines.counters, collectors,
    refines.stock, refines.storable⟩

theorem registerAll (refines : Refines base w l) (values : List Counter) :
    Refines base { w with counters := (w.counters.registerAll values).1 }
      { l with counters := (l.counters.registerAll values).1 } := by
  have counters := congrArg (fun all => (all.registerAll values).1) refines.counters
  exact ⟨refines.clock, refines.retention, refines.disabled, counters, refines.collectors,
    refines.stock, refines.storable⟩

theorem startJobs (refines : Refines base w l) (id : Registry.Id Collector) {days : Int}
    (valid : Retention.days l.retention = .ok days) (takes : w.TakesJobs) :
    ∃ scheduler, w.startJobs id = .ok scheduler := by
  rw [World.startJobs, World.startCleaner, refines.retention, valid]
  split
  · rename_i wanted
    rw [takes wanted]
    exact ⟨_, rfl⟩
  · exact ⟨none, rfl⟩

/-- An agent for counters that are there takes what is on the shelf. -/
theorem startAgent {days : Int} (refines : Refines base w l) (enabled : l.disabled = false)
    (valid : Retention.days l.retention = .ok days) (takes : w.TakesJobs)
    {ids : List (Registry.Id Counter)} {new : Collector}
    (taken : Collector.of l.counters new.application ids (some w.processMetrics) = .ok new)
    (holds : new.Holds l.counters) (plain : PlainApplication new.application)
    (plainNames : ∀ stored id, new.get? stored = some id → PlainStored stored) :
    ∃ v counters held scheduler,
      w.startAgent (some new.application) (some ids) =
        (v, .ok ((l.collectors.register held).2, scheduler)) ∧
      Refines base v { l with counters, collectors := (l.collectors.register held).1 } ∧
      l.Restores new held counters := by
  have plainAll : ∀ entry ∈ new.entries.entries, ∀ counter,
      l.counters.get? entry.2 = some counter → counter.Plain := by
    intro entry listed counter known
    have member : new.get? entry.1 = some entry.2 := Table.mem_entries.mp listed
    exact holds.plain plain plainNames member known
  have on : ¬ w.disabled = true := by
    rw [refines.disabled, enabled]
    exact Bool.false_ne_true
  obtain ⟨counters, held, total, spec, same, grown, apart, each⟩ :=
    Ledger.restoreEntries_spec enabled new 0 new.entries.distinct
      (Ledger.ownEntries_of_holds holds)
  obtain ⟨v, after, result, restored, answer, refined⟩ := refines.restore new plainAll
  rw [spec] at answer refined
  obtain ⟨rfl, counted⟩ := Prod.mk.inj answer
  cases result with
  | error failure => cases counted
  | ok count =>
    have registered := refined.registerCollector held
    have takesAfter : v.TakesJobs := by
      obtain ⟨_, _, adds, -⟩ := w.restore_adds new
      rw [restored] at adds
      change v = _ at adds
      subst adds
      exact takes
    obtain ⟨scheduler, started⟩ :=
      registered.startJobs (l.collectors.register held).2 valid takesAfter
    refine ⟨_, counters, held, scheduler, ?_,
      registered.record [.agentStarted new.application days scheduler.isSome], same, grown, ?_, ?_,
      ?_⟩
    · have collectors : v.collectors = l.collectors := refined.collectors
      rw [collectors] at started ⊢
      simp only [World.startAgent, Option.getD_some, refines.retention, valid, World.counterIds,
        refines.counters, taken, World.restoreNew, if_neg on, restored, collectors, started]
    · intro stored absent
      rw [apart stored]
      · exact absent
      · intro listed
        exact (Table.get?_ne_none_iff new.entries stored).mpr listed absent
    · intro stored id found nothing
      have one := each (stored, id) (Table.mem_entries.mpr found)
      simp only [nothing] at one
      rw [one]
      exact found
    · intro stored id entry found kept
      have one := each (stored, id) (Table.mem_entries.mpr found)
      simp only [kept] at one
      exact one

end Refines

structure InSession (base : Location) (w : World) (l : Ledger) (k : Registry.Id Collector)
    (c : Collector) : Prop where
  refines : Refines base w l
  enabled : l.disabled = false
  retention : ∃ days, Retention.days l.retention = .ok days
  found : l.collectors.get? k = some c
  holds : c.Holds l.counters
  plain : PlainApplication c.application
  plainNames : ∀ stored id, c.get? stored = some id → PlainStored stored

namespace InSession

variable {base : Location} {w : World} {l : Ledger} {k : Registry.Id Collector} {c : Collector}

theorem held?_eq (session : InSession base w l k c) (stored : String) :
    w.held? k stored = (c.get? stored).bind l.counters.get? := by
  rw [World.held?, session.refines.collectors, session.refines.counters, session.found]
  rfl

theorem plainNames_of (session : InSession base w l k c) {d : Collector}
    (names : ∀ stored, d.get? stored = none ↔ c.get? stored = none) (stored : String)
    (id : Registry.Id Counter) (found : d.get? stored = some id) : PlainStored stored := by
  cases before : c.get? stored with
  | none =>
    rw [(names stored).mpr before] at found
    cases found
  | some other => exact session.plainNames stored other before

/-- Before a restart all counters are written. -/
theorem writeAll (session : InSession base w l k c) (ready : w.Restartable k) :
    ∃ v shelf size, c.writeAll w = (v, .ok size) ∧ Refines base v { l with shelf } ∧
      v.TakesJobs ∧
      ∀ stored id counter, c.get? stored = some id → l.counters.get? id = some counter →
        shelf c.application stored = l.written c.application stored counter := by
  obtain ⟨shelf, total, written, -, each⟩ := Ledger.writeEntries_spec session.enabled 0
    c.entries.distinct (Ledger.ownEntries_of_holds session.holds)
  have storable : ∀ id ∈ c.entries.entries.map Prod.snd, ∀ counter,
      l.counters.get? id = some counter → Ledger.Storable counter := by
    intro id listed counter known
    obtain ⟨⟨stored, id⟩, member, rfl⟩ := List.mem_map.mp listed
    have held : c.get? stored = some id := Table.mem_entries.mp member
    have there : w.held? k stored = some counter := by
      rw [session.held?_eq, held]
      exact known
    exact ⟨session.holds.plain session.plain session.plainNames held known,
      ready.fits stored counter there, ready.whole stored counter there⟩
  have stamps : l.Stamps := fun _ => session.refines.clock ▸ ready.stamps
  obtain ⟨v, result, wrote, answer, refines⟩ := session.refines.writeEntries c stamps 0 storable
  rw [written] at answer refines
  have same := World.sameBesidesFiles_writeEntries w c 0 (c.entries.entries.map Prod.snd)
  rw [wrote] at same
  refine ⟨v, shelf, total, ?_, refines, same.takesJobs ready.jobs, ?_⟩
  · cases result with
    | error failure => cases answer
    | ok size =>
      cases answer
      exact wrote
  · intro stored id counter held known
    exact each (stored, id) (Table.mem_entries.mpr held) counter known

/-- A restart goes well, and the new collector holds under each name what the old one held, unless
that was never used and never stored: then it holds another unused counter. -/
theorem restart (session : InSession base w l k c) (ready : w.Restartable k) {fresh : List Counter}
    (suited : c.FreshFor fresh) :
    ∃ v m j d, w.restart k fresh = .ok (v, j) ∧ InSession base v m j d ∧ m.clock = l.clock ∧
      d.application = c.application ∧ (∀ stored, d.get? stored = none ↔ c.get? stored = none) ∧
      ∀ stored, Option.Rel (Counter.Returned (l.shelf c.application stored = none))
        (w.held? k stored) (v.held? j stored) := by
  obtain ⟨v, shelf, size, wrote, refines, takes, shelved⟩ := session.writeAll ready
  obtain ⟨new, taken, own, holds, unused, names⟩ :=
    Collector.of_fresh suited l.counters (some v.processMetrics)
  obtain ⟨days, valid⟩ := session.retention
  have prepared := refines.registerAll fresh
  rw [← own] at taken
  obtain ⟨u, counters, d, scheduler, started, refined, restores⟩ :=
    prepared.startAgent session.enabled valid takes taken holds (own ▸ session.plain)
      (session.plainNames_of names)
  rw [own, ← refines.counters] at started
  have same : d.application = c.application := restores.application.trans own
  have missing := fun stored => (restores.names stored).trans (names stored)
  have returned := restores.returned session.holds holds own unused names shelved
  refine ⟨u, ⟨l.clock, l.retention, l.disabled, counters, (l.collectors.register d).1, shelf⟩,
    (l.collectors.register d).2, d, ?_, ?_, rfl, same, missing, ?_⟩
  · rw [World.restart, session.refines.collectors, session.found]
    simp only [wrote, started]
  · constructor
    case refines => exact refined
    case enabled => exact session.enabled
    case retention => exact session.retention
    case found => exact Registry.get?_register_self l.collectors d
    case holds => exact session.holds.of_returned same missing returned
    case plain =>
      rw [same]
      exact session.plain
    case plainNames => exact session.plainNames_of missing
  · intro stored
    have held : u.collectors.get? (l.collectors.register d).2 = some d := by
      rw [refined.collectors]
      exact Registry.get?_register_self l.collectors d
    rw [session.held?_eq, World.held?, held, Option.bind_some, refined.counters]
    exact returned stored

end InSession

end CounterArchive
