import CounterArchive.Proofs.Archive.Effects
import CounterArchive.Proofs.Archive.Writes

/-! The figures that collectors keep. Each counter that is written or passed over is counted, and so
is each purge, whatever fails later; so that after any run the figures are those before and all
that has been booked since. -/
namespace CounterArchive

def totalSize (sizes : List (Option Nat)) : Nat := (sizes.filterMap id).sum

/-- What is booked: for each counter the size that was written, if any, and for each purge the size
of the snapshots that it left. -/
structure Account where
  sizes : List (Option Nat) := []
  retained : List Nat := []

def Account.append (first second : Account) : Account :=
  ⟨first.sizes ++ second.sizes, first.retained ++ second.retained⟩

instance : Append Account := ⟨Account.append⟩

namespace Metrics

variable (m : Metrics)

def after (a : Account) : Metrics where
  written := m.written + a.sizes.countP (·.isSome)
  skipped := m.skipped + a.sizes.countP (·.isNone)
  bytes := m.bytes + totalSize a.sizes
  purges := m.purges + a.retained.length
  retained := (a.retained.getLast?.map Int.ofNat).getD m.retained

@[simp] theorem after_nothing : m.after {} = m := by simp [after, totalSize]

theorem recordWrite_eq (size : Option Nat) :
    m.recordWrite (size.map Int.ofNat) = m.after ⟨[size], []⟩ := by
  cases size <;> simp [recordWrite, after, totalSize]

theorem recordPurge_eq (retained : Nat) : m.recordPurge retained = m.after ⟨[], [retained]⟩ := by
  simp [recordPurge, after, totalSize]

theorem after_after (first second : Account) :
    (m.after first).after second = m.after (first ++ second) := by
  change _ = m.after ⟨first.sizes ++ second.sizes, first.retained ++ second.retained⟩
  have last : (second.retained.getLast?.map Int.ofNat).getD
      ((first.retained.getLast?.map Int.ofNat).getD m.retained) =
        ((first.retained ++ second.retained).getLast?.map Int.ofNat).getD m.retained := by
    rw [List.getLast?_append]
    cases second.retained.getLast? <;> rfl
  simp only [after, totalSize, last, List.countP_append, List.filterMap_append, List.sum_append,
    List.length_append, Nat.add_assoc, Int.add_assoc, Nat.cast_add]

end Metrics

namespace Collector

variable (c : Collector)

/-- Books an account where the collector counts, if anywhere. -/
def book (figures : Registry Metrics) (a : Account) : Registry Metrics :=
  match c.metrics with
  | none => figures
  | some id => figures.update id (·.after a)

theorem book_nothing (figures : Registry Metrics) : c.book figures {} = figures := by
  unfold book
  split
  · rfl
  · exact Registry.update_of_fixed _ _ fun m _ => m.after_nothing

theorem book_book (figures : Registry Metrics) (first second : Account) :
    c.book (c.book figures first) second = c.book figures (first ++ second) := by
  unfold book
  split
  · rfl
  · simp [Registry.update_update, Metrics.after_after]

theorem recordWrite_eq (w : World) (size : Option Nat) :
    recordWrite w c size = { w with metrics := c.book w.metrics ⟨[size], []⟩ } := by
  cases metered : c.metrics with
  | none => simp [recordWrite, book, metered]
  | some id => simp only [recordWrite, book, metered, Metrics.recordWrite_eq]

theorem recordPurge_eq (w : World) (retained : Nat) :
    recordPurge w c retained = { w with metrics := c.book w.metrics ⟨[], [retained]⟩ } := by
  cases metered : c.metrics with
  | none => simp [recordPurge, book, metered]
  | some id => simp only [recordPurge, book, metered, Metrics.recordPurge_eq]

/-- Each counter of a collector is written and booked before the next one. -/
theorem writeEntries_cons (w : World) (size : Nat) (id : Registry.Id Counter)
    (rest : List (Registry.Id Counter)) :
    writeEntries w c size (id :: rest) = match w.writeOne id with
      | (w, .error failure) => (w, .error failure)
      | (w, .ok one) => writeEntries (recordWrite w c one) c (size + one.getD 0) rest := by
  rw [writeEntries, World.writeOne]
  cases w.counters.get? id <;> rfl

/-- Writing the counters of a collector is writing each on its own, and booking all that was told
before anything failed. -/
theorem writeEntries_eq (w : World) (size : Nat) (ids : List (Registry.Id Counter)) :
    writeEntries w c size ids =
      ({ (w.writeEach ids).1 with metrics := c.book w.metrics ⟨(w.writeEach ids).2.1, []⟩ },
        (w.writeEach ids).2.2.elim (.ok (size + totalSize (w.writeEach ids).2.1)) .error) := by
  induction ids generalizing w size with
  | nil =>
    have same : c.book w.metrics ⟨[], []⟩ = w.metrics := c.book_nothing w.metrics
    simp only [World.writeEach, writeEntries, same]
    rfl
  | cons id rest ih =>
    have step := writeEntries_cons (c := c) w size id rest
    have untouched := World.untouched_writeOne w id
    rcases wrote : w.writeOne id with ⟨u, failure | one⟩
    · rw [wrote] at step untouched
      have same : c.book w.metrics ⟨[], []⟩ = u.metrics :=
        (c.book_nothing w.metrics).trans untouched.metrics.symm
      rw [step, World.writeEach_cons_error rest wrote]
      simp only [same]
      rfl
    · rw [wrote] at step untouched
      have metrics : u.metrics = w.metrics := untouched.metrics
      have total (sizes : List (Option Nat)) :
          size + one.getD 0 + totalSize sizes = size + totalSize (one :: sizes) := by
        cases one <;> simp [totalSize, Nat.add_assoc]
      simp only [step, World.writeEach_cons_ok rest wrote, recordWrite_eq, ih,
        World.writeEach_withMetrics, book_book, metrics, total]
      rfl

theorem writeAll_eq (w : World) :
    c.writeAll w = ({ (w.writeEach c.counters).1 with
        metrics := c.book w.metrics ⟨(w.writeEach c.counters).2.1, []⟩ },
      (w.writeEach c.counters).2.2.elim (.ok (totalSize (w.writeEach c.counters).2.1)) .error) := by
  rw [writeAll, writeEntries_eq, Nat.zero_add]

/-- What a purge leaves is booked if all goes well. -/
theorem purge_eq (w : World) (d : Disturbance) :
    c.purge w d = ({ (w.purge d c.application w.clock.seconds).1 with
        metrics := c.book w.metrics
          ⟨[], (w.purge d c.application w.clock.seconds).2.toOption.toList⟩ },
      (w.purge d c.application w.clock.seconds).2) := by
  have untouched := World.untouched_purge w d c.application w.clock.seconds
  rw [purge]
  rcases purged : w.purge d c.application w.clock.seconds with ⟨u, failure | retained⟩
  · rw [purged] at untouched
    have same : c.book w.metrics ⟨[], []⟩ = u.metrics :=
      (c.book_nothing w.metrics).trans untouched.metrics.symm
    simp only [Except.toOption, Option.toList, same]
  · rw [purged] at untouched
    have metrics : u.metrics = w.metrics := untouched.metrics
    simp only [recordPurge_eq, metrics, Except.toOption, Option.toList]

end Collector

namespace World

variable (w : World) (id : Registry.Id Metrics)

def accountTask (d : Disturbance) (k : Registry.Id Collector) (task : Task) : Account :=
  match w.collectors.get? k with
  | none => {}
  | some c =>
    if c.metrics = some id then
      match task with
      | .collect => ⟨(w.writeEach c.counters).2.1, []⟩
      | .purge => ⟨[], (w.purge d c.application w.clock.seconds).2.toOption.toList⟩
    else {}

def account : Activity → Account
  | .operate (.writeAll k) => w.accountTask id {} k .collect
  | .purgeAll k d => w.accountTask id d k .purge
  | .runJob scheduler job d => w.accountTask id d scheduler.collector job.task
  | _ => {}

end World

def Collector.metered : Collector := ⟨"shop", some ⟨0⟩, Table.empty.insert "http" ⟨0⟩⟩

def World.metered : World :=
  { World.initial with
    counters := (World.initial.counters.register .visited).1
    collectors := (World.initial.collectors.register .metered).1 }

/-- The counter is written, and put on an empty shelf. -/
theorem World.writeEach_metered :
    ∃ v, World.metered.writeEach [⟨0⟩] = (v, [some (Snapshot.content .visited).length], none) ∧
      World.metered.SameBesidesFiles v ∧
      Stocked World.metered.settings tmp v.files (Shelf.empty.set "shop" "http"
        (some (World.metered.entryOf .visited))) := by
  obtain ⟨v, wrote, same, stock⟩ := write_stocked (w := World.metered) bare_initial.stocked
    plain_visited rfl (by decide) (.inl (by decide))
  have one : World.metered.writeOne ⟨0⟩ = (v, .ok (some (Snapshot.content .visited).length)) := wrote
  exact ⟨v, writeEach_cons_ok [] one, same, stock⟩

end CounterArchive
