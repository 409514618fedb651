import CounterArchive.Proofs.Archive.Refinement
import CounterArchive.Proofs.Collector

/-! What becomes of a shelf when all counters of a collector are written, and what becomes of a
collector when they are restored. -/
namespace CounterArchive

namespace Ledger

variable {l : Ledger} {application : String}

/-- Counters of an application, each with the name it is stored as. -/
def OwnEntries (l : Ledger) (application : String) (entries : List (String × Registry.Id Counter)) :
    Prop :=
  ∀ entry ∈ entries, ∃ c, l.counters.get? entry.2 = some c ∧ c.application = application ∧
    c.storedAs = entry.1

def written (l : Ledger) (application stored : String) (c : Counter) : Option Entry :=
  if c.isUnused && (l.shelf application stored).isNone then none
  else some ⟨c, l.clock.micros * 1000⟩

theorem write_enabled (enabled : l.disabled = false) (c : Counter) :
    ∃ size, l.write c = ({ l with shelf := (l.write c).1.shelf }, size) ∧
      ∀ a s, (l.write c).1.shelf a s =
        if a = c.application ∧ s = c.storedAs then l.written c.application c.storedAs c
        else l.shelf a s := by
  have on : ¬ l.disabled = true := by
    rw [enabled]
    exact Bool.false_ne_true
  rw [write, if_neg on]
  by_cases skipped : (c.isUnused && (l.shelf c.application c.storedAs).isNone) = true
  · refine ⟨none, by rw [if_pos skipped], ?_⟩
    intro a s
    rw [if_pos skipped, written, if_pos skipped]
    split
    · rename_i here
      rw [here.1, here.2]
      exact Option.isNone_iff_eq_none.mp (Bool.and_eq_true_iff.mp skipped).2
    · rfl
  · refine ⟨_, by rw [if_neg skipped], ?_⟩
    intro a s
    rw [if_neg skipped, written, if_neg skipped]
    rfl

/-- Writing all counters of an application puts each of them where it belongs. -/
theorem writeEntries_spec (enabled : l.disabled = false) (size : Nat)
    {entries : List (String × Registry.Id Counter)} (distinct : (entries.map Prod.fst).Nodup)
    (own : l.OwnEntries application entries) :
    ∃ shelf total, l.writeEntries size (entries.map Prod.snd) =
        ({ l with shelf }, .counted total) ∧
      (∀ a s, ¬ (a = application ∧ s ∈ entries.map Prod.fst) → shelf a s = l.shelf a s) ∧
      ∀ entry ∈ entries, ∀ c, l.counters.get? entry.2 = some c →
        shelf application entry.1 = l.written application entry.1 c := by
  induction entries generalizing l size with
  | nil => exact ⟨l.shelf, size, rfl, fun _ _ _ => rfl, fun _ listed => nomatch listed⟩
  | cons entry rest ih =>
    obtain ⟨stored, id⟩ := entry
    obtain ⟨c, known, rfl, named⟩ := own (stored, id) (List.mem_cons_self ..)
    obtain rfl : stored = c.storedAs := named.symm
    obtain ⟨bytes, written, shelf⟩ := write_enabled enabled c
    rw [List.map_cons, List.nodup_cons] at distinct
    obtain ⟨after, total, others, apart, each⟩ :=
      ih (l := { l with shelf := (l.write c).1.shelf }) enabled (size + bytes.getD 0) distinct.2
        fun entry listed => own entry (List.mem_cons_of_mem _ listed)
    refine ⟨after, total, ?_, ?_, ?_⟩
    · rw [List.map_cons, writeEntries, known]
      dsimp only
      rw [written]
      exact others
    · intro a s outside
      rw [List.map_cons, List.mem_cons] at outside
      have outsideRest : ¬ (a = c.application ∧ s ∈ rest.map Prod.fst) :=
        fun inside => outside ⟨inside.1, .inr inside.2⟩
      have notFirst : ¬ (a = c.application ∧ s = c.storedAs) :=
        fun same => outside ⟨same.1, .inl same.2⟩
      rw [apart a s outsideRest]
      exact (shelf a s).trans (if_neg notFirst)
    · intro entry listed d found
      rcases List.mem_cons.mp listed with rfl | listed
      · rw [known] at found
        cases found
        rw [apart _ _ fun inside => distinct.1 inside.2]
        exact (shelf _ _).trans (if_pos ⟨rfl, rfl⟩)
      · have different : entry.1 ≠ c.storedAs := by
          intro same
          exact distinct.1 (List.mem_map.mpr ⟨entry, listed, same⟩)
        rw [each entry listed d found, Ledger.written, Ledger.written]
        simp only [shelf, different, and_false, if_false]

/-- Restoring counters of an application takes for each what is on the shelf for it. -/
theorem restoreEntries_spec (enabled : l.disabled = false) (c : Collector) (count : Nat)
    {entries : List (String × Registry.Id Counter)} (distinct : (entries.map Prod.fst).Nodup)
    (own : l.OwnEntries application entries) :
    ∃ counters held total, l.restoreEntries c count entries =
        ({ l with counters }, held, .counted total) ∧
      held.application = c.application ∧
      (∀ id old, l.counters.get? id = some old → counters.get? id = some old) ∧
      (∀ s, s ∉ entries.map Prod.fst → held.get? s = c.get? s) ∧
      ∀ entry ∈ entries, match l.shelf application entry.1 with
        | none => held.get? entry.1 = c.get? entry.1
        | some kept =>
          ∃ id, held.get? entry.1 = some id ∧ counters.get? id = some kept.counter := by
  induction entries generalizing l c count with
  | nil =>
    exact ⟨l.counters, c, count, rfl, rfl, fun _ _ known => known, fun _ _ => rfl,
      fun _ listed => nomatch listed⟩
  | cons entry rest ih =>
    obtain ⟨stored, id⟩ := entry
    obtain ⟨counter, known, rfl, named⟩ := own (stored, id) (List.mem_cons_self ..)
    obtain rfl : stored = counter.storedAs := named.symm
    rw [List.map_cons, List.nodup_cons] at distinct
    have ownRest : l.OwnEntries counter.application rest :=
      fun entry listed => own entry (List.mem_cons_of_mem _ listed)
    have on : ¬ l.disabled = true := by
      rw [enabled]
      exact Bool.false_ne_true
    have read : l.read counter.application counter.storedAs =
        (l.shelf counter.application counter.storedAs).map Entry.counter := if_neg on
    rw [restoreEntries, known]
    simp only [read]
    cases kept : l.shelf counter.application counter.storedAs with
    | none =>
      obtain ⟨counters, held, total, restored, same, grown, apart, each⟩ :=
        ih enabled c count distinct.2 ownRest
      refine ⟨counters, held, total, restored, same, grown, ?_, ?_⟩
      · intro s outside
        rw [List.map_cons, List.mem_cons, not_or] at outside
        exact apart s outside.2
      · intro entry listed
        rcases List.mem_cons.mp listed with rfl | listed
        · simp only [kept]
          exact apart _ distinct.1
        · exact each entry listed
    | some e =>
      have ownAfter : ({ l with counters := (l.counters.register e.counter).1 } :
          Ledger).OwnEntries counter.application rest := by
        intro entry listed
        obtain ⟨d, found, mine⟩ := ownRest entry listed
        exact ⟨d, Registry.get?_register_of_some e.counter found, mine⟩
      obtain ⟨counters, held, total, restored, same, grown, apart, each⟩ :=
        ih (l := { l with counters := (l.counters.register e.counter).1 }) enabled
          ⟨c.application, c.metrics, c.entries.insert counter.storedAs
            (l.counters.register e.counter).2⟩ (count + 1) distinct.2 ownAfter
      refine ⟨counters, held, total, restored, same, ?_, ?_, ?_⟩
      · exact fun id old found => grown id old (Registry.get?_register_of_some e.counter found)
      · intro s outside
        rw [List.map_cons, List.mem_cons, not_or] at outside
        rw [apart s outside.2]
        exact Table.get?_insert_of_ne _ _ outside.1
      · intro entry listed
        rcases List.mem_cons.mp listed with rfl | listed
        · simp only [kept]
          refine ⟨(l.counters.register e.counter).2, ?_,
            grown _ _ (Registry.get?_register_self l.counters e.counter)⟩
          rw [apart _ distinct.1]
          exact Table.get?_insert_self _ _ _
        · have different : entry.1 ≠ counter.storedAs := by
            intro same
            exact distinct.1 (List.mem_map.mpr ⟨entry, listed, same⟩)
          have one := each entry listed
          cases found : l.shelf counter.application entry.1 with
          | none =>
            simp only [found] at one ⊢
            rw [one]
            exact Table.get?_insert_of_ne _ _ different
          | some other =>
            simp only [found] at one ⊢
            exact one

theorem ownEntries_of_holds {c : Collector} (holds : c.Holds l.counters) :
    l.OwnEntries c.application c.entries.entries := by
  intro entry listed
  exact holds entry.1 entry.2 (Table.mem_entries.mp listed)

end Ledger

end CounterArchive
