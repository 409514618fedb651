import CounterArchive.Proofs.Archive.Effects
import CounterArchive.Proofs.Archive.Sweep
import CounterArchive.Proofs.Numeral.Signed

/-! How long snapshots are to be kept. A text is accepted for it if it denotes a positive number, and
for no other one does anything begin that depends on it: no agent is started, no jobs are, and nothing
is purged. -/
namespace CounterArchive

open Numeral (Denotes)
open Text (decimalDigit?)

namespace Retention

variable {text : String} {n : Int}

theorem days_of_denotes (denotes : Denotes decimalDigit? text.toList n) :
    days (some text) = if n ≤ 0 then .error .notPositive else .ok n := by
  have read := (Numeral.readSigned_iff Numeral.distinct_decimalDigit).mpr denotes
  simp only [days, read]

theorem days_of_not_denotes (no : ∀ n, ¬ Denotes decimalDigit? text.toList n) :
    days (some text) = .error (.noInteger text) := by
  cases read : Numeral.readSigned decimalDigit? text.toList with
  | error fault => simp only [days, read]
  | ok n => exact absurd (Numeral.denotes_of_readSigned read) (no n)

/-- A text denotes a positive number, or another one, or none. -/
inductive Judged (text : String) : Except Fault Int → Prop where
  | positive {n : Int} (denotes : Denotes decimalDigit? text.toList n) (positive : 1 ≤ n) :
      Judged text (.ok n)
  | notPositive {n : Int} (denotes : Denotes decimalDigit? text.toList n) (negative : n ≤ 0) :
      Judged text (.error .notPositive)
  | noInteger (no : ∀ n, ¬ Denotes decimalDigit? text.toList n) :
      Judged text (.error (.noInteger text))

theorem judged_days (text : String) : Judged text (days (some text)) := by
  by_cases number : ∃ n, Denotes decimalDigit? text.toList n
  · obtain ⟨n, denotes⟩ := number
    rw [days_of_denotes denotes]
    split
    · exact .notPositive denotes ‹_›
    · exact .positive denotes (by omega)
  · have no : ∀ n, ¬ Denotes decimalDigit? text.toList n := fun n denotes => number ⟨n, denotes⟩
    rw [days_of_not_denotes no]
    exact .noInteger no

theorem days_eq_ok_iff :
    days (some text) = .ok n ↔ 1 ≤ n ∧ Denotes decimalDigit? text.toList n := by
  constructor
  · intro accepted
    have judged := judged_days text
    rw [accepted] at judged
    cases judged with
    | positive denotes positive => exact ⟨positive, denotes⟩
  · rintro ⟨positive, denotes⟩
    rw [days_of_denotes denotes, if_neg (by omega)]

end Retention

/-- Something does not fail for how long snapshots are to be kept. -/
def Unblamed {α : Type} (outcome : Except Failure α) : Prop :=
  ∀ fault, outcome ≠ .error (.retention fault)

theorem unblamed_ok {α : Type} (value : α) : Unblamed (.ok value) := nofun

/-- What fails because something else does is to blame no more than that. -/
theorem Unblamed.error {α β : Type} {failure : Failure}
    (unblamed : Unblamed (.error failure : Except Failure α)) :
    Unblamed (.error failure : Except Failure β) := by
  rintro fault ⟨⟩
  exact unblamed fault rfl

namespace World

variable {w : World} {fault : Retention.Fault} {days : Int}

/-- Nothing begins and nothing changes, whatever the files are: all that depends on how long snapshots
are to be kept fails for one reason. -/
structure FailsFast (w : World) (fault : Retention.Fault) : Prop where
  startAgent : ∀ application counters,
    w.startAgent application counters = (w, .error (.retention fault))
  startCleaner : ∀ collector channel, w.startCleaner collector channel = .error (.retention fault)
  purge : ∀ d application now product, now.scale 1000 = .finite product →
    w.purge d application now = (w, .error (.retention fault))
  purgeOf : ∀ d (c : Collector), ∃ failure, c.purge w d = (w, .error failure) ∧
    ∀ product, w.clock.seconds.scale 1000 = .finite product → failure = .retention fault

structure Unhindered (w : World) : Prop where
  startAgent : ∀ application counters, Unblamed (w.startAgent application counters).2
  startCleaner : ∀ collector channel, Unblamed (w.startCleaner collector channel)
  purge : ∀ d application now, Unblamed (w.purge d application now).2
  purgeOf : ∀ d (c : Collector), Unblamed (c.purge w d).2

theorem failsFast (rejected : Retention.days w.settings.retention = .error fault) :
    w.FailsFast fault := by
  have purge : ∀ d application now product, now.scale 1000 = .finite product →
      w.purge d application now = (w, .error (.retention fault)) := by
    intro d application now product finite
    simp only [World.purge, Retention.millis_of_finite finite, rejected]
  refine ⟨?_, ?_, purge, ?_⟩
  · intro application counters
    simp only [World.startAgent, rejected]
  · intro collector channel
    simp only [World.startCleaner, rejected]
  · intro d c
    have failed : ∃ failure, w.purge d c.application w.clock.seconds = (w, .error failure) := by
      unfold World.purge
      split
      · exact ⟨_, rfl⟩
      · exact ⟨.retention fault, by simp only [rejected]⟩
    obtain ⟨failure, failed⟩ := failed
    refine ⟨failure, by simp only [Collector.purge, failed], fun product finite => ?_⟩
    cases failed.symm.trans (purge d c.application w.clock.seconds product finite)
    rfl

/-! What fails for other reasons -/

theorem unblamed_purgeAt (d : Disturbance) (application : String) (millis days : Int) :
    Unblamed (w.purgeAt d application millis days).2 := by
  unfold purgeAt snapshotNames
  dsimp only
  split
  · rename_i failure failed
    split at failed
    · cases failed
      exact nofun
    · cases failed
    · cases failed
  · exact unblamed_ok _

theorem unblamed_purge (accepted : Retention.days w.settings.retention = .ok days) (d : Disturbance)
    (application : String) (now : Binary64) : Unblamed (w.purge d application now).2 := by
  unfold World.purge
  split
  · exact nofun
  · simp only [accepted]
    exact unblamed_purgeAt d application _ days

theorem unblamed_readCounter (w : World) (c : Counter) : Unblamed (w.readCounter c) := by
  unfold readCounter World.read readSnapshot
  dsimp only
  split
  · exact unblamed_ok none
  · split
    · exact nofun
    · split
      · exact nofun
      · exact nofun
      · exact nofun
      · rename_i cause _
        cases cause <;> exact nofun

theorem unblamed_restoreEntries (c : Collector) (count : Nat)
    (entries : List (String × Registry.Id Counter)) :
    Unblamed (c.restoreEntries w count entries).2.2 := by
  induction entries generalizing w c count with
  | nil => exact unblamed_ok count
  | cons entry rest ih =>
    unfold Collector.restoreEntries
    split
    · exact nofun
    · rename_i counter _
      have read := w.unblamed_readCounter counter
      split
      · rename_i failure failed
        rw [failed] at read
        exact read.error
      · exact ih c count
      · exact ih _ _

theorem unblamed_restoreNew (w : World) (c : Collector) : Unblamed (w.restoreNew c).2.2 := by
  have restored := unblamed_restoreEntries (w := w) c 0 c.entries.entries
  unfold restoreNew Collector.restore
  split
  · exact unblamed_ok 0
  · split
    · exact unblamed_ok _
    · exact restored

theorem unblamed_addAll (c : Collector) (registry : Registry Counter)
    (ids : List (Registry.Id Counter)) : Unblamed (c.addAll registry ids) := by
  induction ids generalizing c with
  | nil => exact unblamed_ok c
  | cons id rest ih =>
    unfold Collector.addAll
    split
    · exact nofun
    · split
      · exact nofun
      · exact ih _

theorem unblamed_counterIds (w : World) (application : String)
    (given : Option (List (Registry.Id Counter))) : Unblamed (w.counterIds application given) := by
  unfold counterIds
  split
  · exact unblamed_ok _
  · split
    · exact nofun
    · exact unblamed_ok _

theorem unblamed_startCleaner (accepted : Retention.days w.settings.retention = .ok days)
    (k : Registry.Id Collector) (channel : Channel) : Unblamed (w.startCleaner k channel) := by
  simp only [World.startCleaner, accepted]
  split
  · exact nofun
  · exact unblamed_ok _

theorem unblamed_startJobs (accepted : Retention.days w.settings.retention = .ok days)
    (k : Registry.Id Collector) : Unblamed (w.startJobs k) := by
  have started := unblamed_startCleaner accepted k .agent
  unfold startJobs
  split
  · cases outcome : w.startCleaner k .agent with
    | error failure =>
      rw [outcome] at started
      exact started.error
    | ok scheduler => exact unblamed_ok _
  · exact unblamed_ok none

theorem unblamed_startAgent (accepted : Retention.days w.settings.retention = .ok days)
    (application : Option String) (given : Option (List (Registry.Id Counter))) :
    Unblamed (w.startAgent application given).2 := by
  unfold World.startAgent
  simp only [accepted]
  generalize application.getD w.settings.application = name
  have chosen := w.unblamed_counterIds name given
  split
  · rename_i failed
    rw [failed] at chosen
    exact chosen.error
  · rename_i v ids taken
    obtain ⟨counters, rfl, -⟩ := counterIds_adds taken
    have gathered := unblamed_addAll ⟨name, some w.processMetrics, .empty⟩ counters ids
    split
    · rename_i failed
      rw [← Collector.of, failed] at gathered
      exact gathered.error
    · rename_i c _
      obtain ⟨more, log, same, -⟩ := restoreNew_adds { w with counters } c
      have restored := unblamed_restoreNew { w with counters } c
      split
      · rename_i failed
        rw [failed] at restored
        exact restored.error
      · rename_i held _ outcome
        rw [outcome] at same
        obtain rfl : _ = ({ w with counters := more, log } : World) := same
        let later : World :=
          { w with counters := more, log, collectors := (w.collectors.register held).1 }
        have started := unblamed_startJobs (w := later) accepted (w.collectors.register held).2
        split
        · rename_i failed
          rw [failed] at started
          exact started.error
        · exact unblamed_ok _

theorem unhindered (accepted : Retention.days w.settings.retention = .ok days) : w.Unhindered := by
  refine ⟨unblamed_startAgent accepted, unblamed_startCleaner accepted, unblamed_purge accepted, ?_⟩
  intro d c
  have purged := unblamed_purge accepted d c.application w.clock.seconds
  unfold Collector.purge
  split
  · rename_i failed
    rw [failed] at purged
    exact purged.error
  · exact unblamed_ok _

/-- Just the texts of positive numbers are accepted, and a year is kept without any. With another text
nothing begins, and with one of these nothing fails for it. -/
theorem retention_decides (w : World) :
    (∀ text n, Retention.days (some text) = .ok n ↔
      1 ≤ n ∧ Denotes decimalDigit? text.toList n) ∧
    (∀ text, Retention.Judged text (Retention.days (some text))) ∧
    Retention.days none = .ok 365 ∧
    (∀ fault, Retention.days w.settings.retention = .error fault → w.FailsFast fault) ∧
    (∀ n, Retention.days w.settings.retention = .ok n → w.Unhindered) :=
  ⟨fun _ _ => Retention.days_eq_ok_iff, Retention.judged_days, rfl, fun _ => failsFast,
    fun _ => unhindered⟩

/-- Two underscores stand between the digits of the one text, and one in the other, after a sign. -/
theorem retention_decides_underscores :
    let settings (text : String) : Settings := { Settings.inTmp with retention := some text }
    Denotes decimalDigit? "+1_0".toList 10 ∧
      ({ initial with settings := settings "+1_0" } : World).Unhindered ∧
      ({ initial with settings := settings "1__0" } : World).FailsFast (.noInteger "1__0") := by
  intro settings
  obtain ⟨accepted, -, -, -, unhindered⟩ :=
    retention_decides { initial with settings := settings "+1_0" }
  obtain ⟨-, -, -, failsFast, -⟩ := retention_decides { initial with settings := settings "1__0" }
  have ten : Retention.days (some "+1_0") = .ok 10 := by decide
  exact ⟨((accepted "+1_0" 10).mp ten).2, unhindered 10 ten, failsFast _ (by decide)⟩

end World

end CounterArchive
