import CounterArchive.Proofs.Archive.Ownership
import CounterArchive.Proofs.Archive.Sealed

/-! What a restore makes of a collector. It goes through the entries in their order: one whose counter
has a snapshot leads to the counter in the snapshot from then on, and any other stays as it is. At the
first snapshot that cannot be read the restore ends, with what it did so far. -/
namespace CounterArchive

/-- A list holds throughout, or there is a first place where it does not. -/
theorem all_or_first {α : Type} (good : α → Prop) (l : List α) :
    (∀ x ∈ l, good x) ∨ ∃ before x after, l = before ++ x :: after ∧ (∀ y ∈ before, good y) ∧
      ¬ good x := by
  induction l with
  | nil => exact .inl fun _ listed => nomatch listed
  | cons first rest ih =>
    by_cases fine : good first
    · rcases ih with all | ⟨before, x, after, rfl, allBefore, bad⟩
      · exact .inl (List.forall_mem_cons.mpr ⟨fine, all⟩)
      · exact .inr ⟨first :: before, x, after, rfl, List.forall_mem_cons.mpr ⟨fine, allBefore⟩, bad⟩
    · exact .inr ⟨[], first, rest, rfl, (fun _ listed => nomatch listed), fine⟩

namespace World

/-! What is stored of counters -/

/-- The snapshot of a counter can be read, or there is none. -/
def Readable (w : World) (id : Registry.Id Counter) : Prop :=
  ∃ c stored, w.counters.get? id = some c ∧ w.readCounter c = .ok stored

def hasStored (w : World) (counter : Counter) : Bool :=
  !w.disabled && w.files.isPresent (w.settings.snapshotPath counter.application counter.storedAs)

/-- The snapshot of a counter, read whether or not there is one. -/
def snapshotOf (w : World) (counter : Counter) : Except Failure Counter :=
  w.readSnapshot (w.settings.snapshotPath counter.application counter.storedAs)

/-- A restore has to replace the counter of an entry. -/
def isStale (w : World) (entry : String × Registry.Id Counter) : Bool :=
  (w.counters.get? entry.2).any w.hasStored

/-- What becomes of an entry that a restore gets past. It keeps its name, and its counter too as long
as nothing is stored of that one. -/
inductive Visited (w : World) (counters : Registry Counter) :
    String × Registry.Id Counter → String × Registry.Id Counter → Prop
  | kept {name : String} {id : Registry.Id Counter} {counter : Counter}
      (known : w.counters.get? id = some counter) (nothing : w.hasStored counter = false) :
      Visited w counters (name, id) (name, id)
  | replaced {name : String} {id new : Registry.Id Counter} {counter stored : Counter}
      (known : w.counters.get? id = some counter) (something : w.hasStored counter = true)
      (read : w.snapshotOf counter = .ok stored) (fresh : w.counters.get? new = none)
      (found : counters.get? new = some stored) : Visited w counters (name, id) (name, new)

/-- A restore has come past some entries of a collector, and the rest is as it was. No two entries
lead to the same new counter, and the counters that were known are as before. -/
structure Replaced (w : World) (c held : Collector) (counters : Registry Counter)
    (visited new rest : List (String × Registry.Id Counter)) : Prop where
  before : c.entries.entries = visited ++ rest
  after : held.entries.entries = new ++ rest
  each : List.Forall₂ (w.Visited counters) visited new
  apart : new.Pairwise fun first second =>
    first.2 = second.2 → ∃ counter, w.counters.get? first.2 = some counter
  application : held.application = c.application
  metrics : held.metrics = c.metrics
  kept : w.counters.Becomes Eq counters

variable {w : World} {c held : Collector} {counters : Registry Counter}
  {visited new rest front : List (String × Registry.Id Counter)}
  {entry old : String × Registry.Id Counter} {counter : Counter}

theorem readCounter_eq (w : World) (counter : Counter) : w.readCounter counter =
    if w.disabled = false ∧
        w.files.isPresent (w.settings.snapshotPath counter.application counter.storedAs) = true then
      (w.readSnapshot (w.settings.snapshotPath counter.application counter.storedAs)).map some
    else .ok none := by
  rw [readCounter, read]
  cases w.disabled <;>
    cases w.files.isPresent (w.settings.snapshotPath counter.application counter.storedAs) <;> rfl

theorem hasStored_iff : w.hasStored counter = true ↔ w.disabled = false ∧
    w.files.isPresent (w.settings.snapshotPath counter.application counter.storedAs) = true := by
  rw [hasStored, Bool.and_eq_true, Bool.not_eq_true']

theorem readCounter_of_hasStored (something : w.hasStored counter = true) :
    w.readCounter counter = (w.snapshotOf counter).map some := by
  rw [readCounter_eq, if_pos (hasStored_iff.mp something), snapshotOf]

theorem readCounter_of_nothing (nothing : w.hasStored counter = false) :
    w.readCounter counter = .ok none := by
  rw [readCounter_eq, if_neg]
  intro something
  rw [hasStored_iff.mpr something] at nothing
  cases nothing

/-- Something is stored of a counter for which nothing can be read. -/
theorem stuck_of_not_readable {id : Registry.Id Counter}
    (known : w.counters.get? id = some counter) (not : ¬ w.Readable id) :
    w.hasStored counter = true ∧ ∃ failure, w.snapshotOf counter = .error failure ∧
      w.readCounter counter = .error failure := by
  cases something : w.hasStored counter with
  | false => exact absurd ⟨counter, none, known, readCounter_of_nothing something⟩ not
  | true =>
    have read := readCounter_of_hasStored something
    cases snapshot : w.snapshotOf counter with
    | error failure =>
      rw [snapshot] at read
      exact ⟨rfl, failure, rfl, read⟩
    | ok stored =>
      rw [snapshot] at read
      exact absurd ⟨counter, some stored, known, read⟩ not

theorem unknown_register (r : Registry Counter) (counter : Counter) :
    r.get? (r.register counter).2 = none := by
  simp [Registry.get?, Registry.register]

namespace Visited

theorem name (visit : w.Visited counters old entry) : entry.1 = old.1 := by
  cases visit <;> rfl

/-- Counters that are added later make no difference. -/
theorem becomes {more : Registry Counter} (visit : w.Visited counters old entry)
    (grown : counters.Becomes Eq more) : w.Visited more old entry := by
  cases visit with
  | kept known nothing => exact .kept known nothing
  | replaced known something read fresh found =>
    exact .replaced known something read fresh (grown.kept found)

/-- An entry that was visited leads to a counter that is known by now. -/
theorem known (visit : w.Visited counters old entry) (grown : w.counters.Becomes Eq counters) :
    ∃ counter, counters.get? entry.2 = some counter := by
  cases visit with
  | kept known _ => exact ⟨_, grown.kept known⟩
  | replaced _ _ _ _ found => exact ⟨_, found⟩

end Visited

theorem names_visited (each : List.Forall₂ (w.Visited counters) visited new) :
    new.map Prod.fst = visited.map Prod.fst := by
  induction each with
  | nil => rfl
  | cons visit _ ih => rw [List.map_cons, List.map_cons, visit.name, ih]

/-- All entries that were visited lead to counters that are known by now. -/
theorem known_visited (each : List.Forall₂ (w.Visited counters) visited new)
    (grown : w.counters.Becomes Eq counters) :
    ∀ entry ∈ new, ∃ counter, counters.get? entry.2 = some counter := by
  induction each with
  | nil => exact fun _ listed => nomatch listed
  | cons visit _ ih => exact List.forall_mem_cons.mpr ⟨visit.known grown, ih⟩

theorem exists_visited (each : List.Forall₂ (w.Visited counters) visited new)
    (listed : old ∈ visited) : ∃ entry ∈ new, w.Visited counters old entry := by
  induction each with
  | nil => cases listed
  | @cons _ entry _ _ visit _ ih =>
    rcases List.mem_cons.mp listed with rfl | later
    · exact ⟨entry, List.mem_cons_self .., visit⟩
    · obtain ⟨other, member, visit⟩ := ih later
      exact ⟨other, List.mem_cons_of_mem _ member, visit⟩

namespace Replaced

theorem start (w : World) (c : Collector) : w.Replaced c c w.counters [] [] c.entries.entries where
  before := rfl
  after := rfl
  each := .nil
  apart := .nil
  application := rfl
  metrics := rfl
  kept := .refl (fun _ => rfl) _

/-- The names of a collector stay, in their order. -/
theorem keys (replaced : w.Replaced c held counters visited new rest) :
    held.entries.keys = c.entries.keys := by
  rw [Table.keys, Table.keys, replaced.before, replaced.after, List.map_append, List.map_append,
    names_visited replaced.each]

/-- What is held under the name of an entry that was visited. -/
theorem held_entry {name : String} {id : Registry.Id Counter}
    (replaced : w.Replaced c held counters visited new rest) (listed : (name, id) ∈ visited) :
    ∃ next, w.Visited counters (name, id) (name, next) ∧ held.get? name = some next := by
  obtain ⟨⟨other, next⟩, member, visit⟩ := exists_visited replaced.each listed
  obtain rfl : other = name := visit.name
  refine ⟨next, visit, Table.mem_entries.mp ?_⟩
  rw [replaced.after]
  exact List.mem_append_left _ member

section Step

variable {name : String} {id : Registry.Id Counter} {stored : Counter}

/-- Past an entry of whose counter nothing is stored. -/
theorem pass (replaced : w.Replaced c held counters visited new ((name, id) :: rest))
    (known : w.counters.get? id = some counter) (nothing : w.hasStored counter = false) :
    w.Replaced c held counters (visited ++ [(name, id)]) (new ++ [(name, id)]) rest where
  before := by rw [List.append_assoc, List.singleton_append, replaced.before]
  after := by rw [List.append_assoc, List.singleton_append, replaced.after]
  each := List.rel_append replaced.each (.cons (.kept known nothing) .nil)
  apart := by
    refine List.pairwise_append.mpr ⟨replaced.apart, List.pairwise_singleton .., ?_⟩
    intro first _ second listed alike
    obtain rfl := List.mem_singleton.mp listed
    exact ⟨counter, alike ▸ known⟩
  application := replaced.application
  metrics := replaced.metrics
  kept := replaced.kept

/-- Past an entry whose counter has a snapshot. -/
theorem take (replaced : w.Replaced c held counters visited new ((name, id) :: rest))
    (known : w.counters.get? id = some counter) (something : w.hasStored counter = true)
    (read : w.snapshotOf counter = .ok stored) :
    w.Replaced c { held with entries := held.entries.insert name (counters.register stored).2 }
      (counters.register stored).1 (visited ++ [(name, id)])
      (new ++ [(name, (counters.register stored).2)]) rest where
  before := by rw [List.append_assoc, List.singleton_append, replaced.before]
  after := by
    -- No name occurs twice, so that the new counter is put in the place of this entry.
    have other : name ∉ new.map Prod.fst := by
      have distinct := held.entries.distinct
      rw [replaced.after, List.map_append, List.nodup_append] at distinct
      exact fun listed => distinct.2.2 name listed name (List.mem_cons_self ..) rfl
    change putEntry name _ held.entries.entries = _
    rw [replaced.after, putEntry_append _ _ _ other, List.append_assoc, List.singleton_append]
  each := by
    have grown := Registry.Becomes.register (fun _ => rfl) counters stored
    have fresh : w.counters.get? (counters.register stored).2 = none := by
      cases before : w.counters.get? (counters.register stored).2 with
      | none => rfl
      | some value => exact absurd (replaced.kept.kept before) (by simp [unknown_register])
    exact List.rel_append (replaced.each.imp fun _ _ visit => visit.becomes grown)
      (.cons (.replaced known something read fresh (Registry.get?_register_self ..)) .nil)
  apart := by
    refine List.pairwise_append.mpr ⟨replaced.apart, List.pairwise_singleton .., ?_⟩
    intro first visited second listed alike
    obtain rfl := List.mem_singleton.mp listed
    obtain ⟨value, before⟩ := known_visited replaced.each replaced.kept first visited
    rw [alike, unknown_register] at before
    cases before
  application := replaced.application
  metrics := replaced.metrics
  kept := replaced.kept.trans (.register (fun _ => rfl) counters stored)

end Step

/-- One step: past an entry of which something can be read, or nothing is stored. -/
theorem next (replaced : w.Replaced c held counters visited new (entry :: rest))
    (readable : w.Readable entry.2) : ∃ more next into,
      w.Replaced c next more (visited ++ [entry]) (new ++ [into]) rest ∧ ∀ count,
        Collector.restoreEntries { w with counters } held count (entry :: rest) =
          Collector.restoreEntries { w with counters := more } next
            (if w.isStale entry then count + 1 else count) rest := by
  obtain ⟨name, id⟩ := entry
  obtain ⟨counter, found, known, read⟩ := readable
  have now := replaced.kept.kept known
  have same : ({ w with counters } : World).readCounter counter = .ok found :=
    (readCounter_congr rfl rfl rfl rfl rfl).trans read
  have stale : w.isStale (name, id) = w.hasStored counter := by
    rw [isStale, known, Option.any_some]
  cases something : w.hasStored counter with
  | false =>
    rw [readCounter_of_nothing something] at read
    cases read
    refine ⟨counters, held, (name, id), replaced.pass known something, fun count => ?_⟩
    simp [Collector.restoreEntries, now, same, stale, something]
  | true =>
    rw [readCounter_of_hasStored something] at read
    cases snapshot : w.snapshotOf counter with
    | error failure =>
      rw [snapshot] at read
      cases read
    | ok stored =>
      rw [snapshot] at read
      cases read
      refine ⟨_, _, _, replaced.take known something snapshot, fun count => ?_⟩
      simp [Collector.restoreEntries, now, same, stale, something]

/-- Past all entries up to the first that cannot be read. -/
theorem run (replaced : w.Replaced c held counters visited new (front ++ rest))
    (readable : ∀ entry ∈ front, w.Readable entry.2) : ∃ more past into,
      w.Replaced c past more (visited ++ front) into rest ∧ ∀ count,
        Collector.restoreEntries { w with counters } held count (front ++ rest) =
          Collector.restoreEntries { w with counters := more } past
            (count + front.countP w.isStale) rest := by
  -- With each step an entry goes from the ones in front to those that were visited.
  induction front generalizing held counters visited new with
  | nil => exact ⟨counters, held, new, by simpa using replaced, fun count => by simp⟩
  | cons entry front ih =>
    obtain ⟨here, laterReadable⟩ := List.forall_mem_cons.mp readable
    rw [List.cons_append] at replaced
    obtain ⟨_, next, _, step, same⟩ := replaced.next here
    obtain ⟨more, past, into, all, others⟩ := ih step laterReadable
    rw [List.append_assoc, List.singleton_append] at all
    refine ⟨more, past, into, all, fun count => ?_⟩
    rw [List.cons_append, same, others, List.countP_cons]
    congr 1
    split <;> omega

end Replaced

/-- All entries have been replaced of whose counters something is stored, if all of that can be
read. -/
theorem restore_of_readable (readable : ∀ entry ∈ c.entries.entries, w.Readable entry.2) :
    ∃ counters held new, w.Replaced c held counters c.entries.entries new [] ∧
      c.restore w =
        (if c.entries.entries.countP w.isStale = 0 then { w with counters }
          else ({ w with counters } : World).record
            [.countersRestored c.application (c.entries.entries.countP w.isStale)],
          held, .ok (c.entries.entries.countP w.isStale)) := by
  have started := Replaced.start w c
  rw [← List.append_nil c.entries.entries] at started
  obtain ⟨counters, held, new, replaced, same⟩ := started.run readable
  rw [List.nil_append] at replaced
  have all := same 0
  rw [List.append_nil, Collector.restoreEntries, Nat.zero_add] at all
  refine ⟨counters, held, new, replaced, ?_⟩
  simp only [Collector.restore, all, replaced.application]

/-- Where something cannot be read, the restore has come up to there. -/
theorem restore_of_unreadable {later : List (String × Registry.Id Counter)} {failure : Failure}
    (split : c.entries.entries = front ++ entry :: later)
    (readable : ∀ earlier ∈ front, w.Readable earlier.2)
    (known : w.counters.get? entry.2 = some counter)
    (failed : w.readCounter counter = .error failure) :
    ∃ counters held new, w.Replaced c held counters front new (entry :: later) ∧
      c.restore w = ({ w with counters }, held, .error failure) := by
  have started := Replaced.start w c
  rw [split] at started
  obtain ⟨counters, held, new, replaced, same⟩ := started.run readable
  rw [List.nil_append] at replaced
  have still : ({ w with counters } : World).readCounter counter = .error failure :=
    (readCounter_congr rfl rfl rfl rfl rfl).trans failed
  have stuck : ∀ count, Collector.restoreEntries { w with counters } held count (entry :: later) =
      ({ w with counters }, held, .error failure) := by
    intro count
    rw [Collector.restoreEntries, replaced.kept.kept known]
    simp only [still]
  refine ⟨counters, held, new, replaced, ?_⟩
  rw [Collector.restore, split, same, stuck]

/-- A restore goes through the entries in their order, and replaces the counters of those of which
something is stored. It tells how many these were, and records so if there were any. If one of them
cannot be read, it fails for that reason: then the entries before have been replaced, that one and all
after it are as before, and nothing is recorded. -/
theorem restore_outcome (registered : c.Registered w.counters) :
    ∃ counters held visited new rest, w.Replaced c held counters visited new rest ∧
      held.entries.keys = c.entries.keys ∧
      (rest = [] ∧ c.restore w =
          (if visited.countP w.isStale = 0 then { w with counters }
            else ({ w with counters } : World).record
              [.countersRestored c.application (visited.countP w.isStale)],
            held, .ok (visited.countP w.isStale)) ∨
        ∃ entry later counter failure, rest = entry :: later ∧
          w.counters.get? entry.2 = some counter ∧ w.hasStored counter = true ∧
          w.snapshotOf counter = .error failure ∧
          c.restore w = ({ w with counters }, held, .error failure)) := by
  rcases all_or_first (fun entry => w.Readable entry.2) c.entries.entries with
    readable | ⟨front, entry, later, split, readable, not⟩
  · obtain ⟨counters, held, new, replaced, restored⟩ := restore_of_readable readable
    exact ⟨counters, held, _, new, [], replaced, replaced.keys, .inl ⟨rfl, restored⟩⟩
  · have listed : entry.2 ∈ c.counters := List.mem_map_of_mem (by simp [split])
    obtain ⟨counter, known⟩ := registered entry.2 listed
    obtain ⟨something, failure, failed, unread⟩ := stuck_of_not_readable known not
    obtain ⟨counters, held, new, replaced, restored⟩ :=
      restore_of_unreadable split readable known unread
    exact ⟨counters, held, _, new, _, replaced, replaced.keys,
      .inr ⟨entry, later, counter, failure, rfl, known, something, failed, restored⟩⟩

/-- The snapshot of a visited counter takes its place under its name, and that is recorded. -/
theorem restore_outcome_foreign : ∃ files counters held,
    Collector.metered.restore { World.metered with files } =
        (({ World.metered with files, counters } : World).record [.countersRestored "shop" 1], held,
          .ok 1) ∧
      held.entries.keys = ["http"] := by
  obtain ⟨files, found⟩ :=
    exists_files ⟨Gzip.compress .stored 0 [] (Utf8.encode Counter.foreign.text), 0⟩
  let w : World := { World.metered with files }
  have read : w.readCounter .visited = .ok (some .foreign) :=
    read_foreign rfl found (Snapshot.text?_compress .stored 0 Counter.foreign.text)
  have something : w.hasStored .visited = true := by
    by_contra nothing
    rw [readCounter_of_nothing (Bool.eq_false_of_not_eq_true nothing)] at read
    cases read
  obtain ⟨counters, held, visited, new, rest, replaced, keys, outcome⟩ :=
    restore_outcome (w := w) Collector.registered_metered
  have known : w.counters.get? ⟨0⟩ = some .visited := rfl
  rcases outcome with ⟨rfl, restored⟩ | ⟨entry, later, counter, failure, rfl, same, -, failed, -⟩
  · have all : visited = [("http", ⟨0⟩)] := by
      rw [← List.append_nil visited, ← replaced.before, Collector.entries_metered]
    have count : visited.countP w.isStale = 1 := by
      simp [all, isStale, known, something]
    rw [count] at restored
    exact ⟨files, counters, held, restored, keys⟩
  · have listed : entry ∈ Collector.metered.entries.entries := by simp [replaced.before]
    obtain rfl : entry = ("http", ⟨0⟩) := List.mem_singleton.mp listed
    cases known.symm.trans same
    rw [readCounter_of_hasStored something, failed] at read
    cases read

end World

end CounterArchive
