import CounterArchive.Proofs.Archive.Accounts

/-! Disabled storage is sealed. Nothing but a purge, which is not asked for here, looks at the files
any more: neither is anything changed in them, nor does it make a difference what is there. -/
namespace CounterArchive

/-- Whether an activity leaves the files alone while the storage is disabled. All do but purges, and
changes of the files by others. -/
def Activity.IsSealed : Activity → Prop
  | .operate (.purge ..) => False
  | .operate (.touch ..) => False
  | .purgeAll .. => False
  | .runJob _ job _ => job.task = .collect
  | _ => True

namespace Collector

def passOver (c : Collector) (figures : Registry Metrics) : Registry Metrics :=
  match c.metrics with
  | none => figures
  | some id => figures.update id fun m => { m with skipped := m.skipped + c.counters.length }

theorem book_passedOver (c : Collector) (figures : Registry Metrics) :
    c.book figures ⟨c.counters.map fun _ => none, []⟩ = c.passOver figures := by
  have skipped (m : Metrics) : m.after ⟨c.counters.map fun _ => none, []⟩ =
      { m with skipped := m.skipped + c.counters.length } := by
    simp [Metrics.after, totalSize, List.countP_replicate]
  cases metered : c.metrics with
  | none => simp only [book, passOver, metered]
  | some id => simp only [book, passOver, metered, skipped]

end Collector

namespace World

/-- What a sealed activity comes to: nothing is written, read or restored. -/
def Shut (w : World) : Activity → World × Report → Prop
  | .operate (.write id), outcome => (∃ c, w.counters.get? id = some c) →
      outcome = (w, .answered (.wrote none))
  | .operate (.readCounter id), outcome => (∃ c, w.counters.get? id = some c) →
      outcome = (w, .answered (.found none))
  | .operate (.read ..), outcome => outcome = (w, .answered (.found none))
  | .operate (.restore _), outcome => outcome = (w, .answered (.counted 0))
  | .operate (.writeAll k), outcome => ∀ c, w.collectors.get? k = some c →
      outcome = ({ w with metrics := c.passOver w.metrics }, .answered (.counted 0))
  | .runJob s _ _, outcome => ∀ c, w.collectors.get? s.collector = some c →
      outcome = (({ w with metrics := c.passOver w.metrics }).record
        [.countersWritten s.channel 0], .ran)
  | .startAgent application given, outcome => ∀ k jobs, outcome.2 = .started (.ok (k, jobs)) →
      ∃ v ids c, w.counterIds (application.getD w.settings.application) given = .ok (v, ids) ∧
        Collector.of v.counters (application.getD w.settings.application) ids
          (some v.processMetrics) = .ok c ∧
        outcome.1.counters = v.counters ∧ outcome.1.collectors.get? k = some c
  | _, _ => True

variable {w : World} {c : Collector}

theorem writeEach_disabled (disabled : w.disabled = true) {ids : List (Registry.Id Counter)}
    (known : ∀ id ∈ ids, ∃ counter, w.counters.get? id = some counter) :
    w.writeEach ids = (w, ids.map fun _ => none, none) := by
  induction ids with
  | nil => rfl
  | cons id rest ih =>
    obtain ⟨counter, found⟩ := known id (List.mem_cons_self ..)
    have one : w.writeOne id = (w, .ok none) := by
      rw [writeOne_known found, write_disabled counter disabled]
    rw [writeEach_cons_ok rest one, ih fun other listed => known other (List.mem_cons_of_mem _ listed)]
    rfl

theorem writeAll_disabled (disabled : w.disabled = true) (registered : c.Registered w.counters) :
    c.writeAll w = ({ w with metrics := c.passOver w.metrics }, .ok 0) := by
  have nothing : totalSize (c.counters.map fun _ => none) = 0 := by simp [totalSize]
  rw [Collector.writeAll_eq, writeEach_disabled disabled registered]
  simp only [Collector.book_passedOver, nothing]
  rfl

theorem restoreEntries_disabled (disabled : w.disabled = true) (count : Nat)
    {entries : List (String × Registry.Id Counter)}
    (known : ∀ entry ∈ entries, ∃ counter, w.counters.get? entry.2 = some counter) :
    Collector.restoreEntries w c count entries = (w, c, .ok count) := by
  induction entries with
  | nil => rfl
  | cons entry rest ih =>
    obtain ⟨counter, found⟩ := known entry (List.mem_cons_self ..)
    have nothing : w.readCounter counter = .ok none := read_disabled _ _ disabled
    rw [Collector.restoreEntries, found]
    simp only [nothing]
    exact ih fun other listed => known other (List.mem_cons_of_mem _ listed)

theorem restore_disabled (disabled : w.disabled = true) (registered : c.Registered w.counters) :
    c.restore w = (w, c, .ok 0) := by
  have known : ∀ entry ∈ c.entries.entries, ∃ counter, w.counters.get? entry.2 = some counter :=
    fun entry listed => registered entry.2 (List.mem_map_of_mem listed)
  rw [Collector.restore, restoreEntries_disabled disabled 0 known]
  rfl

theorem runJob_disabled (disabled : w.disabled = true) (d : Disturbance) {s : Scheduler} {job : Job}
    (collects : job.task = .collect) (known : w.collectors.get? s.collector = some c)
    (registered : c.Registered w.counters) :
    w.runJob d s job =
      ({ w with metrics := c.passOver w.metrics } : World).record [.countersWritten s.channel 0] := by
  rw [runJob, known]
  simp only [collects, runTask, writeAll_disabled disabled registered]

/-- The counters that an agent is started with do not depend on the files. -/
theorem counterIds_withFiles (w : World) (files : FileTree) (application : String)
    (given : Option (List (Registry.Id Counter))) :
    ({ w with files } : World).counterIds application given =
      (w.counterIds application given).map fun taken => ({ taken.1 with files }, taken.2) := by
  unfold counterIds
  split
  · rfl
  · dsimp only
    split <;> rfl

theorem restoreNew_disabled (disabled : w.disabled = true) (c : Collector) :
    w.restoreNew c = (w.record [.storageDisabled c.application], c, .ok 0) := by
  rw [restoreNew, if_pos disabled]

/-- An agent starts with a new collector: the jobs are started, and that is told. -/
def launch (w : World) (application : String) (days : Int) (c : Collector) :
    World × Except Failure (Registry.Id Collector × Option Scheduler) :=
  let (collectors, id) := w.collectors.register c
  let w := { w with collectors }
  match w.startJobs id with
  | .error failure => (w, .error failure)
  | .ok scheduler =>
    (w.record [.agentStarted application days scheduler.isSome], .ok (id, scheduler))

/-- A launched agent has the new collector. -/
theorem launch_ok {w v : World} {application : String} {days : Int} {c : Collector}
    {k : Registry.Id Collector} {jobs : Option Scheduler}
    (launched : w.launch application days c = (v, .ok (k, jobs))) :
    v.counters = w.counters ∧ v.collectors.get? k = some c := by
  unfold launch at launched
  dsimp only at launched
  split at launched
  · cases launched
  · cases launched
    exact ⟨rfl, Registry.get?_register_self w.collectors c⟩

theorem launch_withFiles (w : World) (files : FileTree) (application : String) (days : Int)
    (c : Collector) : ({ w with files } : World).launch application days c =
      ({ (w.launch application days c).1 with files }, (w.launch application days c).2) := by
  have same (collectors : Registry Collector) (id : Registry.Id Collector) :
      ({ w with files, collectors } : World).startJobs id =
        ({ w with collectors } : World).startJobs id := rfl
  unfold launch
  dsimp only
  rw [same]
  split <;> rfl

section Start

variable {application : Option String} {given : Option (List (Registry.Id Counter))} {days : Int}
  {v : World} {ids : List (Registry.Id Counter)}

theorem startAgent_disabled (disabled : w.disabled = true)
    (valid : Retention.days w.settings.retention = .ok days)
    (taken : w.counterIds (application.getD w.settings.application) given = .ok (v, ids))
    (made : Collector.of v.counters (application.getD w.settings.application) ids
      (some v.processMetrics) = .ok c) :
    w.startAgent application given =
      (v.record [.storageDisabled c.application]).launch
        (application.getD w.settings.application) days c := by
  obtain ⟨counters, rfl, -⟩ := counterIds_adds taken
  have new := restoreNew_disabled (w := { w with counters }) disabled c
  rw [startAgent]
  simp only [valid, taken, made, new]
  rfl

/-- An agent starts in the same way, whatever is in the files. -/
theorem startAgent_withFiles (disabled : w.disabled = true) (files : FileTree)
    (application : Option String) (given : Option (List (Registry.Id Counter))) :
    ({ w with files } : World).startAgent application given =
      ({ (w.startAgent application given).1 with files }, (w.startAgent application given).2) := by
  have found := counterIds_withFiles w files (application.getD w.settings.application) given
  cases valid : Retention.days w.settings.retention with
  | error fault => simp only [startAgent, valid]
  | ok days =>
    rcases taken : w.counterIds (application.getD w.settings.application) given with
      failure | ⟨v, ids⟩
    · rw [taken] at found
      simp only [startAgent, valid, taken, found, Except.map]
    · rw [taken] at found
      cases made : Collector.of v.counters (application.getD w.settings.application) ids
          (some v.processMetrics) with
      | error failure => simp only [startAgent, valid, taken, found, Except.map, made]
      | ok c =>
        rw [startAgent_disabled disabled valid taken made,
          startAgent_disabled (w := { w with files }) disabled valid found made]
        exact launch_withFiles (v.record [.storageDisabled c.application]) files _ days c

/-- The start of an agent fails before it has a collector, or it is launched with a new one. -/
theorem startAgent_cases (disabled : w.disabled = true) (application : Option String)
    (given : Option (List (Registry.Id Counter))) :
    (∃ v failure, w.startAgent application given = (v, .error failure)) ∨
    ∃ v ids c days, w.counterIds (application.getD w.settings.application) given = .ok (v, ids) ∧
      Collector.of v.counters (application.getD w.settings.application) ids
        (some v.processMetrics) = .ok c ∧
      w.startAgent application given = (v.record [.storageDisabled c.application]).launch
        (application.getD w.settings.application) days c := by
  cases valid : Retention.days w.settings.retention with
  | error fault => exact .inl ⟨w, .retention fault, by simp only [startAgent, valid]⟩
  | ok days =>
    rcases taken : w.counterIds (application.getD w.settings.application) given with
      failure | ⟨v, ids⟩
    · exact .inl ⟨w, failure, by simp only [startAgent, valid, taken]⟩
    · cases made : Collector.of v.counters (application.getD w.settings.application) ids
          (some v.processMetrics) with
      | error failure => exact .inl ⟨v, failure, by simp only [startAgent, valid, taken, made]⟩
      | ok c =>
        exact .inr ⟨v, ids, c, days, rfl, made, startAgent_disabled disabled valid taken made⟩

end Start

/-! One activity -/

/-- What the sealed activities come to. -/
theorem shut_carryOut (disabled : w.disabled = true) (closed : w.Closed) {a : Activity}
    (isSealed : a.IsSealed) : w.Shut a (w.carryOut a) := by
  cases a with
  | operate operation =>
    cases operation with
    | write id =>
      rintro ⟨counter, known⟩
      simp only [carryOut, operate, known, write_disabled counter disabled]
      rfl
    | readCounter id =>
      rintro ⟨counter, known⟩
      have nothing : w.readCounter counter = .ok none := read_disabled _ _ disabled
      simp only [carryOut, operate, known, nothing]
      rfl
    | read application stored =>
      have nothing := read_disabled application stored disabled
      simp only [Shut, carryOut, operate, nothing]
      rfl
    | restore k =>
      cases known : w.collectors.get? k with
      | none => simp only [Shut, carryOut, operate, known]
      | some c =>
        have same : (w.collectors.update k fun _ => c) = w.collectors := by
          apply Registry.update_of_fixed
          intro held found
          rw [known] at found
          cases found
          rfl
        simp only [Shut, carryOut, operate, known, restore_disabled disabled (closed k c known), same]
        rfl
    | writeAll k =>
      intro c known
      simp only [carryOut, operate, known, writeAll_disabled disabled (closed k c known)]
      rfl
    | _ => trivial
  | runJob s job d =>
    intro c known
    simp only [carryOut, runJob_disabled disabled d isSealed known (closed _ c known)]
  | startAgent application given =>
    intro k jobs started
    change Report.started (w.startAgent application given).2 = _ at started
    change ∃ (v : World) (ids : List (Registry.Id Counter)) (c : Collector), _ ∧ _ ∧
      (w.startAgent application given).1.counters = v.counters ∧
        (w.startAgent application given).1.collectors.get? k = some c
    rcases startAgent_cases disabled application given with
      ⟨v, failure, failed⟩ | ⟨v, ids, c, days, taken, made, launched⟩
    · rw [failed] at started
      cases started
    · rw [launched] at started ⊢
      exact ⟨v, ids, c, taken, made, launch_ok (w := v.record [.storageDisabled c.application])
        (Prod.ext rfl (Report.started.inj started))⟩
  | _ => trivial

/-- No sealed activity looks at the files, or changes any. -/
theorem carryOut_withFiles (disabled : w.disabled = true) (closed : w.Closed) {a : Activity}
    (isSealed : a.IsSealed) (files : FileTree) :
    ({ w with files } : World).carryOut a =
      ({ (w.carryOut a).1 with files }, (w.carryOut a).2) := by
  have here := shut_carryOut disabled closed isSealed
  have there := shut_carryOut (w := { w with files }) disabled closed isSealed
  cases a with
  | operate operation =>
    cases operation with
    | write id =>
      cases known : w.counters.get? id with
      | none => simp only [carryOut, operate, known]
      | some c => rw [here ⟨c, known⟩, there ⟨c, known⟩]
    | readCounter id =>
      cases known : w.counters.get? id with
      | none => simp only [carryOut, operate, known]
      | some c => rw [here ⟨c, known⟩, there ⟨c, known⟩]
    | read application stored => rw [here, there]
    | restore k => rw [here, there]
    | writeAll k =>
      cases known : w.collectors.get? k with
      | none => simp only [carryOut, operate, known]
      | some c => rw [here c known, there c known]
    | addError id message requestName remoteUser =>
      simp only [carryOut, operate, addError]
      split <;> rfl
    | clear id =>
      simp only [carryOut, operate, clear]
      split <;> rfl
    | gather application ids metrics =>
      simp only [carryOut, operate]
      split <;> rfl
    | purge d application now => cases isSealed
    | touch application stored modified => cases isSealed
    | _ => rfl
  | find k stored => rfl
  | purgeAll k d => cases isSealed
  | startAgent application given =>
    simp only [carryOut, startAgent_withFiles disabled files application given]
  | startCleaner k channel => rfl
  | runJob s job d =>
    cases known : w.collectors.get? s.collector with
    | none => simp only [carryOut, runJob, known]
    | some c =>
      rw [here c known, there c known]
      rfl

/-! Whole runs -/

theorem carryOutAll_withFiles (disabled : w.disabled = true) (closed : w.Closed)
    {run : List Activity} (allSealed : ∀ a ∈ run, a.IsSealed) (files : FileTree) :
    ({ w with files } : World).carryOutAll run =
      ({ (w.carryOutAll run).1 with files }, (w.carryOutAll run).2) := by
  induction run generalizing w with
  | nil => rfl
  | cons a rest ih =>
    have effect := effect_carryOut w a
    have first := carryOut_withFiles disabled closed (allSealed a (List.mem_cons_self ..)) files
    have others := ih (effect.disabled disabled) (effect.closed closed)
      fun other listed => allSealed other (List.mem_cons_of_mem _ listed)
    simp only [carryOutAll_cons, first, others]

/-- Disabled storage stays disabled. In any run nothing is written, read or restored, each counter
that was to be written is counted as passed over, and the files stay as they were. Nor do the files
matter: with others in their place the run tells the same and leaves the same, log included. -/
theorem carryOutAll_sealed (disabled : w.disabled = true) (closed : w.Closed) {run : List Activity}
    (allSealed : ∀ a ∈ run, a.IsSealed) :
    (w.carryOutAll run).1.disabled = true ∧ (w.carryOutAll run).1.files = w.files ∧
    (∀ before a after, run = before ++ a :: after →
      (w.carryOutAll before).1.Shut a ((w.carryOutAll before).1.carryOut a)) ∧
    ∀ files, ({ w with files } : World).carryOutAll run =
      ({ (w.carryOutAll run).1 with files }, (w.carryOutAll run).2) := by
  refine ⟨disabled_carryOutAll disabled run, ?_, ?_,
    carryOutAll_withFiles disabled closed allSealed⟩
  · have same := congrArg Prod.fst (carryOutAll_withFiles disabled closed allSealed w.files)
    have files := congrArg World.files same
    exact files
  · rintro before a after rfl
    exact shut_carryOut (disabled_carryOutAll disabled before) (closed_carryOutAll closed before)
      (allSealed a (List.mem_append_right _ (List.mem_cons_self ..)))

end World

theorem Collector.registered_metered : Collector.metered.Registered World.metered.counters := by
  intro id listed
  obtain rfl : id = ⟨0⟩ := List.mem_singleton.mp listed
  exact ⟨.visited, rfl⟩

theorem World.closed_metered : World.metered.disable.Closed := by
  intro k c known
  rcases Registry.eq_of_get?_register known with old | rfl
  · have nothing : World.initial.collectors.get? k = none := rfl
    rw [nothing] at old
    cases old
  · exact Collector.registered_metered

/-- A used counter is neither restored nor written, but counted as passed over. -/
theorem World.carryOutAll_sealed_metered :
    (World.metered.disable.carryOutAll [.operate (.restore ⟨0⟩), .operate (.writeAll ⟨0⟩)]).1.files =
        World.metered.files ∧
      (World.metered.disable.carryOutAll [.operate (.restore ⟨0⟩),
        .operate (.writeAll ⟨0⟩)]).1.metrics.get? ⟨0⟩ = some { skipped := 1 } := by
  have allSealed : ∀ a ∈ [Activity.operate (.restore ⟨0⟩), .operate (.writeAll ⟨0⟩)],
      a.IsSealed := by
    simp [Activity.IsSealed]
  obtain ⟨-, files, each, -⟩ := carryOutAll_sealed rfl closed_metered allSealed
  refine ⟨files, ?_⟩
  have restored : World.metered.disable.carryOut (.operate (.restore ⟨0⟩)) =
      (World.metered.disable, .answered (.counted 0)) := each [] _ _ rfl
  have wrote := each [.operate (.restore ⟨0⟩)] _ [] rfl
  simp only [carryOutAll, restored] at wrote ⊢
  rw [wrote .metered rfl]
  rfl

end CounterArchive
