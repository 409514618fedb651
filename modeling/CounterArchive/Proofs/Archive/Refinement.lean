import CounterArchive.Proofs.Archive.Ledger

/-! A world does what a ledger says. Whatever is done with the archive, in whatever order, the
answers are those of the ledger, and the files hold what is on its shelf. -/
namespace CounterArchive

structure Refines (base : Location) (w : World) (l : Ledger) : Prop where
  clock : w.clock = l.clock
  retention : w.settings.retention = l.retention
  disabled : w.disabled = l.disabled
  counters : w.counters = l.counters
  collectors : w.collectors = l.collectors
  stock : Stocked w.settings base w.files l.shelf
  storable : ∀ application stored entry, l.shelf application stored = some entry →
    Ledger.Storable entry.counter

/-- A value that is known after a registration was known before, or it is the new one. -/
theorem Registry.get?_register_some {α : Type} {r : Registry α} {id : Registry.Id α}
    {new old : α} (known : (r.register new).1.get? id = some old) :
    r.get? id = some old ∨ old = new := by
  rw [Registry.get?, Registry.register, Array.getElem?_push] at known
  split at known
  · right
    cases known
    rfl
  · left
    exact known

@[simp] theorem Ledger.counters_write (l : Ledger) (c : Counter) :
    (l.write c).1.counters = l.counters := by
  unfold Ledger.write
  repeat' split
  all_goals rfl

theorem Ledger.Stamps.write {l : Ledger} (stamps : l.Stamps) (c : Counter) :
    (l.write c).1.Stamps := by
  have same : (l.write c).1.clock = l.clock ∧ (l.write c).1.disabled = l.disabled := by
    unfold Ledger.write
    repeat' split
    all_goals exact ⟨rfl, rfl⟩
  rwa [Ledger.Stamps, same.1, same.2]

namespace Refines

variable {base : Location} {w v : World} {l : Ledger} {c : Counter}

/-- Files that change with the shelf, and nothing else. -/
theorem ofFiles (refines : Refines base w l) (same : w.SameBesidesFiles v) {shelf : Shelf}
    (stock : Stocked w.settings base v.files shelf)
    (storable : ∀ application stored entry, shelf application stored = some entry →
      Ledger.Storable entry.counter) : Refines base v { l with shelf } := by
  constructor
  case clock => exact same.clock.trans refines.clock
  case retention => exact (congrArg Settings.retention same.settings).trans refines.retention
  case disabled => exact same.disabled.trans refines.disabled
  case counters => exact same.counters.trans refines.counters
  case collectors => exact same.collectors.trans refines.collectors
  case stock =>
    rw [same.settings]
    exact stock
  case storable => exact storable

theorem storable_set (refines : Refines base w l) {entry : Option Entry}
    (new : ∀ e, entry = some e → Ledger.Storable e.counter) (application stored : String) :
    ∀ a s e, l.shelf.set application stored entry a s = some e → Ledger.Storable e.counter := by
  intro a s e kept
  rw [Shelf.set] at kept
  split at kept
  · exact new e kept
  · exact refines.storable a s e kept

theorem write (refines : Refines base w l) (stamps : l.Stamps)
    (storable : Ledger.Storable c) :
    ∃ v, w.write c = (v, .ok (l.write c).2) ∧ Refines base v (l.write c).1 ∧
      w.SameBesidesFiles v := by
  have off := refines.disabled
  rw [Ledger.write]
  by_cases disabled : l.disabled = true
  · rw [if_pos disabled]
    exact ⟨w, World.write_disabled c (off.trans disabled), refines, .refl w⟩
  · rw [if_neg disabled]
    have enabled : w.disabled = false := off.trans (Bool.eq_false_of_not_eq_true disabled)
    by_cases skipped : (c.isUnused && (l.shelf c.application c.storedAs).isNone) = true
    · rw [if_pos skipped]
      obtain ⟨unused, absent⟩ := Bool.and_eq_true_iff.mp skipped
      have written := World.write_unused refines.stock storable.plain unused
        (Option.isNone_iff_eq_none.mp absent)
      exact ⟨w, written, refines, .refl w⟩
    · rw [if_neg skipped]
      have wanted : c.isUnused = false ∨ l.shelf c.application c.storedAs ≠ none := by
        cases unused : c.isUnused with
        | false => exact .inl rfl
        | true =>
          right
          intro absent
          rw [unused, absent] at skipped
          exact skipped rfl
      have room : w.clock.Stamps := by
        rw [refines.clock]
        exact stamps (Bool.eq_false_of_not_eq_true disabled)
      obtain ⟨v, written, same, stock⟩ :=
        World.write_stocked refines.stock storable.plain enabled room wanted
      rw [World.entryOf, refines.clock] at stock
      refine ⟨v, written, refines.ofFiles same stock (refines.storable_set ?_ _ _), same⟩
      intro e new
      cases new
      exact storable

theorem read (refines : Refines base w l) {application stored : String}
    (plain : PlainApplication application) (plainStored : PlainStored stored) :
    w.read application stored = .ok (l.read application stored) := by
  have off := refines.disabled
  rw [Ledger.read]
  by_cases disabled : l.disabled = true
  · rw [if_pos disabled]
    exact World.read_disabled application stored (off.trans disabled)
  · rw [if_neg disabled]
    have enabled : w.disabled = false := off.trans (Bool.eq_false_of_not_eq_true disabled)
    cases kept : l.shelf application stored with
    | none => exact World.read_absent refines.stock plain plainStored kept
    | some entry =>
      have storable := refines.storable application stored entry kept
      exact World.read_fitting refines.stock plain plainStored enabled kept storable.fits
        storable.whole

theorem storable_read (refines : Refines base w l) {application stored : String}
    (read : l.read application stored = some c) : Ledger.Storable c := by
  unfold Ledger.read at read
  split at read
  · cases read
  · obtain ⟨entry, kept, rfl⟩ := Option.map_eq_some_iff.mp read
    exact refines.storable application stored entry kept

theorem recordWrite (refines : Refines base w l) (held : Collector) (size : Option Nat) :
    Refines base (held.recordWrite w size) l := by
  unfold Collector.recordWrite
  split
  · exact refines
  · exact ⟨refines.clock, refines.retention, refines.disabled, refines.counters,
      refines.collectors, refines.stock, refines.storable⟩

theorem writeEntries (refines : Refines base w l) (held : Collector) (stamps : l.Stamps)
    (written : Nat) {ids : List (Registry.Id Counter)}
    (storable : ∀ id ∈ ids, ∀ c, l.counters.get? id = some c → Ledger.Storable c) :
    ∃ v result, held.writeEntries w written ids = (v, result) ∧
      Answer.of .counted result = (l.writeEntries written ids).2 ∧
      Refines base v (l.writeEntries written ids).1 := by
  induction ids generalizing w l written with
  | nil => exact ⟨w, _, rfl, rfl, refines⟩
  | cons id rest ih =>
    rw [Collector.writeEntries, Ledger.writeEntries, refines.counters]
    cases found : l.counters.get? id with
    | none => exact ⟨w, _, rfl, rfl, refines⟩
    | some c =>
      obtain ⟨v, answer, after, -⟩ :=
        refines.write stamps (storable id (List.mem_cons_self ..) c found)
      have recorded := after.recordWrite held (l.write c).2
      simp only [answer]
      refine ih recorded (stamps.write c) _ ?_
      rw [l.counters_write]
      exact fun id listed => storable id (List.mem_cons_of_mem _ listed)

theorem register (refines : Refines base w l) (c : Counter) :
    Refines base { w with counters := (l.counters.register c).1 }
      { l with counters := (l.counters.register c).1 } :=
  ⟨refines.clock, refines.retention, refines.disabled, rfl, refines.collectors, refines.stock,
    refines.storable⟩

theorem restoreEntries (refines : Refines base w l) (held : Collector) (count : Nat)
    {entries : List (String × Registry.Id Counter)}
    (plain : ∀ entry ∈ entries, ∀ c, l.counters.get? entry.2 = some c → c.Plain) :
    ∃ v after result, held.restoreEntries w count entries = (v, after, result) ∧
      (l.restoreEntries held count entries).2 = (after, Answer.of .counted result) ∧
      Refines base v (l.restoreEntries held count entries).1 := by
  induction entries generalizing w l held count with
  | nil => exact ⟨w, held, _, rfl, rfl, refines⟩
  | cons entry rest ih =>
    obtain ⟨name, id⟩ := entry
    have others : ∀ entry ∈ rest, ∀ c, l.counters.get? entry.2 = some c → c.Plain :=
      fun entry listed => plain entry (List.mem_cons_of_mem _ listed)
    rw [Collector.restoreEntries, Ledger.restoreEntries, refines.counters]
    cases found : l.counters.get? id with
    | none => exact ⟨w, held, _, rfl, rfl, refines⟩
    | some c =>
      have plainNames := plain (name, id) (List.mem_cons_self ..) c found
      have read := refines.read plainNames.1 plainNames.2
      simp only [World.readCounter, read]
      cases kept : l.read c.application c.storedAs with
      | none => exact ih refines held count others
      | some stored =>
        refine ih (refines.register stored) _ _ ?_
        intro entry listed c known
        rcases Registry.get?_register_some known with old | new
        · exact others entry listed c old
        · rw [new]
          exact (refines.storable_read kept).plain

theorem record (refines : Refines base w l) (events : List Event) :
    Refines base (w.record events) l :=
  ⟨refines.clock, refines.retention, refines.disabled, refines.counters, refines.collectors,
    refines.stock, refines.storable⟩

theorem restore (refines : Refines base w l) (held : Collector)
    (plain : ∀ entry ∈ held.entries.entries, ∀ c, l.counters.get? entry.2 = some c → c.Plain) :
    ∃ v after result, held.restore w = (v, after, result) ∧
      (l.restoreEntries held 0 held.entries.entries).2 = (after, Answer.of .counted result) ∧
      Refines base v (l.restoreEntries held 0 held.entries.entries).1 := by
  obtain ⟨v, changed, result, restored, answer, after⟩ := refines.restoreEntries held 0 plain
  rw [Collector.restore, restored]
  cases result with
  | error failure => exact ⟨v, changed, _, rfl, answer, after⟩
  | ok count =>
    refine ⟨_, changed, _, rfl, answer, ?_⟩
    split
    · exact after
    · exact after.record _

theorem purge (refines : Refines base w l) (d : Disturbance) {application : String}
    (plain : PlainApplication application) (now : Binary64) :
    ∃ v result, w.purge d application now = (v, result) ∧
      Answer.of (fun _ => .done) result = (l.purge d application now).2 ∧
      Refines base v (l.purge d application now).1 := by
  rw [World.purge, Ledger.purge, refines.retention]
  cases Retention.millis now with
  | error fault => exact ⟨w, _, rfl, rfl, refines⟩
  | ok millis =>
    cases Retention.days l.retention with
    | error fault => exact ⟨w, _, rfl, rfl, refines⟩
    | ok days =>
      obtain ⟨v, retained, purged, same, stock⟩ :=
        World.purgeAt_stocked refines.stock plain d millis days
      refine ⟨v, _, purged, rfl, refines.ofFiles same stock ?_⟩
      intro a s entry kept
      rw [Shelf.sift] at kept
      split at kept
      · exact refines.storable a s entry (Option.filter_eq_some_iff.mp kept).1
      · exact refines.storable a s entry kept

theorem touch (refines : Refines base w l) {application stored : String}
    (plain : PlainApplication application) (plainStored : PlainStored stored) (modified : Int) :
    Refines base (w.touch (w.settings.snapshotPath application stored) modified)
      (l.touch application stored modified) := by
  have stock := refines.stock
  cases kept : l.shelf application stored with
  | none =>
    rw [World.touch, stock.file?_absent plain plainStored kept, Ledger.touch, kept]
    refine refines.ofFiles (.refl w) (stock.set_same kept) (refines.storable_set ?_ _ _)
    intro e new
    cases new
  | some entry =>
    obtain ⟨file, inFile, located, node⟩ := stock.exists_node plain plainStored kept
    have found := FileTree.file?_of_locate located node
    have other : w.files.nodeAt? (Archive.snapshot base application stored) ≠
        some .directory := by
      rw [node]
      simp
    have written := FileTree.write_of_locate { file with modified } located other
    have touched : Entry.InFile { entry with modified } { file with modified } :=
      ⟨inFile.content, rfl⟩
    have after := stock.setEntry plain plainStored (some { entry with modified })
      (fun _ => stock.listed_of_kept plain plainStored kept) (.kept touched)
      (FileTree.nodeAt?_insert w.files _ (snapshot_ne base application stored))
    rw [World.touch, found]
    simp only [written]
    rw [Ledger.touch, kept]
    refine refines.ofFiles (World.SameBesidesFiles.withFiles w _) after
      (refines.storable_set ?_ _ _)
    intro e new
    cases new
    have storable := refines.storable application stored entry kept
    exact ⟨storable.plain, storable.fits, storable.whole⟩

theorem addError (refines : Refines base w l) (id : Registry.Id Counter)
    (incident : DateTime → Incident) :
    (w.addError id incident).2 = (l.addError id incident).2 ∧
      Refines base (w.addError id incident).1 (l.addError id incident).1 := by
  have same := refines
  obtain ⟨clock, retention, disabled, counters, collectors, shelf⟩ := l
  obtain ⟨rfl, rfl, rfl, rfl, rfl, stock, storable⟩ := same
  unfold World.addError Ledger.addError
  cases w.clock.now? with
  | none => exact ⟨rfl, refines⟩
  | some now => exact ⟨rfl, rfl, rfl, rfl, rfl, rfl, stock, storable⟩

theorem clear (refines : Refines base w l) (id : Registry.Id Counter) :
    (w.clear id).2 = (l.clear id).2 ∧ Refines base (w.clear id).1 (l.clear id).1 := by
  obtain ⟨clock, retention, disabled, counters, collectors, shelf⟩ := l
  obtain ⟨rfl, rfl, rfl, rfl, rfl, stock, storable⟩ := refines
  unfold World.clear Ledger.clear
  cases w.clock.now? with
  | none => exact ⟨rfl, rfl, rfl, rfl, rfl, rfl, stock, storable⟩
  | some now => exact ⟨rfl, rfl, rfl, rfl, rfl, rfl, stock, storable⟩

/-- One operation has the answer of the ledger, and keeps files and shelf alike. -/
theorem operate (refines : Refines base w l) {operation : Operation}
    (admitted : l.Admits operation) :
    (w.operate operation).2 = (l.operate operation).2 ∧
      Refines base (w.operate operation).1 (l.operate operation).1 := by
  have same := refines
  obtain ⟨clock, retention, disabled, counters, collectors, shelf⟩ := l
  obtain ⟨rfl, rfl, rfl, rfl, rfl, stock, storable⟩ := same
  cases operation with
  | make counter => exact ⟨rfl, rfl, rfl, rfl, rfl, rfl, stock, storable⟩
  | addHits id request duration systemError =>
    exact ⟨rfl, rfl, rfl, rfl, rfl, rfl, stock, storable⟩
  | addError id message requestName remoteUser => exact refines.addError id _
  | clear id => exact refines.clear id
  | assign id change => exact ⟨rfl, rfl, rfl, rfl, rfl, rfl, stock, storable⟩
  | write id =>
    simp only [World.operate, Ledger.operate]
    cases found : w.counters.get? id with
    | none => exact ⟨rfl, refines⟩
    | some c =>
      obtain ⟨v, written, after, -⟩ := refines.write admitted.1 (admitted.2 c found)
      simp only [written]
      exact ⟨rfl, after⟩
  | readCounter id =>
    simp only [World.operate, Ledger.operate]
    cases found : w.counters.get? id with
    | none => exact ⟨rfl, refines⟩
    | some c =>
      have plain := admitted c found
      simp only [World.readCounter, refines.read plain.1 plain.2]
      exact ⟨rfl, refines⟩
  | read application stored =>
    simp only [World.operate, Ledger.operate, refines.read admitted.1 admitted.2]
    exact ⟨rfl, refines⟩
  | gather application ids metrics =>
    simp only [World.operate, Ledger.operate]
    cases Collector.of w.counters application ids metrics with
    | error failure => exact ⟨rfl, refines⟩
    | ok c => exact ⟨rfl, rfl, rfl, rfl, rfl, rfl, stock, storable⟩
  | restore id =>
    simp only [World.operate, Ledger.operate]
    cases found : w.collectors.get? id with
    | none => exact ⟨rfl, refines⟩
    | some held =>
      have plain : ∀ entry ∈ held.entries.entries, ∀ c,
          w.counters.get? entry.2 = some c → c.Plain :=
        fun entry listed => admitted held found entry.2 (List.mem_map_of_mem listed)
      obtain ⟨v, changed, result, restored, answer, after⟩ := refines.restore held plain
      simp only [restored, answer]
      have collectors := congrArg (fun all => all.update id fun _ => changed) after.collectors
      exact ⟨trivial, after.clock, after.retention, after.disabled, after.counters, collectors,
        after.stock, after.storable⟩
  | writeAll id =>
    simp only [World.operate, Ledger.operate]
    cases found : w.collectors.get? id with
    | none => exact ⟨rfl, refines⟩
    | some held =>
      obtain ⟨v, result, written, answer, after⟩ :=
        refines.writeEntries held admitted.1 0 (admitted.2 held found)
      simp only [Collector.writeAll, written]
      exact ⟨answer, after⟩
  | purge d application now =>
    obtain ⟨v, result, purged, answer, after⟩ := refines.purge d admitted now
    simp only [World.operate, Ledger.operate, purged]
    exact ⟨answer, after⟩
  | disable => exact ⟨rfl, rfl, rfl, rfl, rfl, rfl, stock, storable⟩
  | setClock clock => exact ⟨rfl, rfl, rfl, rfl, rfl, rfl, stock, storable⟩
  | touch application stored modified =>
    exact ⟨rfl, refines.touch admitted.1 admitted.2 modified⟩

theorem operateAll (refines : Refines base w l) {operations : List Operation}
    (admitted : l.AdmitsAll operations) :
    (w.operateAll operations).2 = (l.operateAll operations).2 ∧
      Refines base (w.operateAll operations).1 (l.operateAll operations).1 := by
  induction operations generalizing w l with
  | nil => exact ⟨rfl, refines⟩
  | cons operation rest ih =>
    obtain ⟨first, others⟩ := admitted
    obtain ⟨answer, after⟩ := refines.operate first
    obtain ⟨answers, last⟩ := ih after others
    exact ⟨List.cons_eq_cons.mpr ⟨answer, answers⟩, last⟩

end Refines

theorem Bare.refines {w : World} {base : Location} (bare : Bare w.settings base w.files) :
    Refines base w (Ledger.of w) :=
  ⟨rfl, rfl, rfl, rfl, rfl, bare.stocked, fun _ _ _ kept => nomatch kept⟩

end CounterArchive
