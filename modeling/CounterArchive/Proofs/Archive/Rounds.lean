import CounterArchive.Proofs.Archive.Expiry

/-! Purges one after the other. A snapshot is left at the end if each of them spares it, whatever the
others do: what a purge takes away depends on that snapshot alone, and not on what is left beside it.
So their order does not matter, and a purge that is made again does nothing. -/
namespace CounterArchive

open CounterArchive.Path

/-- One of several purges: when it is, in seconds and as a product in milliseconds, and which names are
locked then. -/
structure Round where
  now : Binary64
  product : Rat
  finite : now.scale 1000 = .finite product
  locked : List String

namespace Round

def millis (r : Round) : Int := Binary64.truncateRat r.product

def Spares (days : Int) (r : Round) (name : String) (file : File) : Prop :=
  r.millis - (days + 1) * 86400000 ≤ file.modified.fdiv 1000000 ∨ name ∈ r.locked

/-- Without locks nothing is spared later that is not spared earlier. -/
theorem Spares.earlier {a b : Round} {days : Int} {name : String} {file : File}
    (spares : b.Spares days name file) (unlocked : b.locked = []) (earlier : a.millis ≤ b.millis) :
    a.Spares days name file := by
  rcases spares with young | locked
  · left
    omega
  · simp [unlocked] at locked

end Round

namespace FileTree

variable {t u v : FileTree} {path name : String} {file : File} {gone : String → File → Prop}

/-- Of the snapshots those are listed that are not lost. -/
theorem Lost.mem_snapshots_iff (lost : t.Lost path gone u) (wf : t.WellFormed)
    (wfAfter : u.WellFormed) :
    (name, file) ∈ u.snapshots path ↔ (name, file) ∈ t.snapshots path ∧ ¬ gone name file := by
  rw [wf.mem_snapshots_iff_at, wfAfter.mem_snapshots_iff_at]
  simp only [lost.snapshotAt_iff, exists_and_right]

/-- A snapshot that is listed is at its path. -/
theorem file?_of_mem_snapshots (listed : (name, file) ∈ t.snapshots path) :
    t.file? (join path name) = .ok file := by
  unfold snapshots at listed
  split at listed
  · cases listed
  · obtain ⟨other, -, found⟩ := List.mem_filterMap.mp listed
    obtain ⟨contents, read, same⟩ := Option.map_eq_some_iff.mp found
    cases same
    cases result : t.file? (join path name) with
    | error fault => simp [result, Except.toOption] at read
    | ok there => simpa [result, Except.toOption] using read

/-- The same snapshots have the same size. -/
theorem sizeOf_snapshots_congr
    (same : ∀ entry, entry ∈ u.snapshots path ↔ entry ∈ t.snapshots path) :
    sizeOf (u.snapshots path) = sizeOf (t.snapshots path) := by
  have distinct (t : FileTree) : (t.snapshots path).Nodup := (t.nodup_snapshots path).of_map
  have perm := (List.perm_ext_iff_of_nodup (distinct u) (distinct t)).mpr same
  exact (perm.map _).sum_eq

/-- What is left in a directory has the same size if something was lost from another one before. -/
theorem Lost.sizeOf_snapshots {other : String} {more : String → File → Prop} {x : FileTree}
    (first : t.Lost path gone u) (second : u.Lost other more v) (alone : t.Lost other more x)
    (apart : ∀ place, t.Opens path place → ¬ t.Opens other place)
    (wf : t.WellFormed) (wfBetween : u.WellFormed) (wfAfter : v.WellFormed) (wfAlone : x.WellFormed) :
    sizeOf (v.snapshots other) = sizeOf (x.snapshots other) := by
  apply sizeOf_snapshots_congr
  rintro ⟨name, file⟩
  rw [second.mem_snapshots_iff wfBetween wfAfter, alone.mem_snapshots_iff wf wfAlone,
    wfBetween.mem_snapshots_iff_at, wf.mem_snapshots_iff_at]
  simp only [first.snapshotAt_other_iff apart]

end FileTree

/-- Visits to files that are all young change nothing. -/
theorem Sweep.foldl_visit_of_young (locked : List String) (path : String) (cutoff : Int)
    {names : List String} (s : Sweep) (young : ∀ name ∈ names, ∀ file,
      s.files.file? (join path name) = .ok file → Retention.isObsolete cutoff file.modified = false) :
    ∃ retained, names.foldl (visit locked path cutoff) s = { s with retained } := by
  induction names generalizing s with
  | nil => exact ⟨s.retained, rfl⟩
  | cons name rest ih =>
    have visited : ∃ retained, s.visit locked path cutoff name = { s with retained } := by
      unfold visit
      rcases found : s.files.file? (join path name) with fault | file
      · exact ⟨s.retained, by simp only [found]⟩
      · have kept := young name (List.mem_cons_self ..) file found
        refine ⟨s.retained + file.content.length, ?_⟩
        simp only [found, kept, Bool.not_false, if_true, keep]
    obtain ⟨retained, visited⟩ := visited
    rw [List.foldl_cons, visited]
    exact ih { s with retained } fun other listed => young other (List.mem_cons_of_mem _ listed)

namespace World

variable {w v x : World} {application : String} {days : Int} {r a b : Round}

structure Purgeable (w : World) (application : String) (days : Int) : Prop where
  wellFormed : w.files.WellFormed
  noZeroArchive : '\x00' ∉ w.settings.archive.toList
  noZero : '\x00' ∉ application.toList
  valid : Retention.days w.settings.retention = .ok days

/-- A purge while nothing vanishes. -/
def purgeRound (w : World) (application : String) (r : Round) : World × Except Failure Nat :=
  w.purge { locked := r.locked } application r.now

def purgeRounds (w : World) (application : String) (rounds : List Round) : World :=
  rounds.foldl (fun w r => (w.purgeRound application r).1) w

theorem purgeRound_eq (valid : Retention.days w.settings.retention = .ok days) (r : Round) :
    w.purgeRound application r =
      w.purgeAt { locked := r.locked } application r.millis days := by
  simp only [purgeRound, purge, Retention.millis_of_finite r.finite, valid, Round.millis]

structure Pass (w : World) (application : String) (days : Int) (r : Round) (v : World) : Prop where
  outcome : w.purgeRound application r =
    (v, .ok (sizeOf (v.files.snapshots (w.settings.directoryOf application))))
  untouched : w.Untouched v
  wellFormed : v.files.WellFormed
  lost : w.files.Lost (w.settings.directoryOf application)
    (fun name file => ¬ r.Spares days name file) v.files

theorem exists_pass (can : w.Purgeable application days) (r : Round) :
    ∃ v, w.Pass application days r v := by
  obtain ⟨files, events, purged, taken⟩ := purgeAt_ok can.wellFormed { locked := r.locked } r.millis
    days (noZero_directoryOf can.noZeroArchive can.noZero)
  have outcome := (purgeRound_eq can.valid r).trans purged
  have untouched := w.untouched_purge { locked := r.locked } application r.now
  rw [← purgeRound, outcome] at untouched
  refine ⟨_, outcome, untouched, taken.wellFormed can.wellFormed,
    (taken.lost can.wellFormed).congr ?_⟩
  intro there name file _
  rw [spares_iff List.not_mem_nil, Round.Spares, not_or, Int.not_le, and_comm]
  exact Iff.rfl

theorem Purgeable.untouched (can : w.Purgeable application days) (untouched : w.Untouched v)
    (wf : v.files.WellFormed) : v.Purgeable application days := by
  refine ⟨wf, ?_, can.noZero, ?_⟩
  · rw [untouched.settings]
    exact can.noZeroArchive
  · rw [untouched.settings]
    exact can.valid

/-- What is lost in any number of rounds. -/
theorem lost_purgeRounds (can : w.Purgeable application days) (rounds : List Round) :
    w.files.Lost (w.settings.directoryOf application)
      (fun name file => ∃ r ∈ rounds, ¬ r.Spares days name file)
      (w.purgeRounds application rounds).files := by
  induction rounds generalizing w with
  | nil =>
    apply (FileTree.lost_refl w.files _).congr
    simp
  | cons r rest ih =>
    obtain ⟨v, pass⟩ := exists_pass can r
    have others := ih (can.untouched pass.untouched pass.wellFormed)
    rw [pass.untouched.settings] at others
    have all : w.purgeRounds application (r :: rest) = v.purgeRounds application rest := by
      rw [purgeRounds, List.foldl_cons, pass.outcome, purgeRounds]
    rw [all]
    apply (pass.lost.trans others).congr
    simp

/-- A purge does nothing to files that are all young. -/
theorem purgeAt_of_young {locked : List String} {millis : Int}
    (young : ∀ name file, (name, file) ∈ w.files.snapshots (w.settings.directoryOf application) →
      Retention.isObsolete (Retention.cutoff millis days) file.modified = false) :
    (w.purgeAt { locked } application millis days).1 = w := by
  unfold purgeAt
  dsimp only
  generalize w.settings.directoryOf application = path at *
  rcases w.snapshotNames_cases path with ⟨⟨failure, failed⟩, -⟩ | listed
  · rw [failed]
  · have kept : ∀ name ∈ (w.files.snapshots path).map Prod.fst, ∀ file,
        w.files.file? (join path name) = .ok file →
          Retention.isObsolete (Retention.cutoff millis days) file.modified = false := by
      intro name among file found
      obtain ⟨⟨name, other⟩, entry, rfl⟩ := List.mem_map.mp among
      cases (FileTree.file?_of_mem_snapshots entry).symm.trans found
      exact young name file entry
    obtain ⟨retained, swept⟩ := Sweep.foldl_visit_of_young locked path _ { files := w.files } kept
    have none : ((w.files.snapshots path).map Prod.fst).filter (List.contains []) = [] := by simp
    simp only [listed, none, vanish, List.foldl_nil, swept, record, List.append_nil, if_true]

/-- The same purge again, without locks. -/
theorem purgeRound_again (can : w.Purgeable application days) (unlocked : r.locked = [])
    (pass : w.Pass application days r v) : v.purgeRound application r =
      (v, .ok (sizeOf (v.files.snapshots (w.settings.directoryOf application)))) := by
  have settings := pass.untouched.settings
  have canAgain := can.untouched pass.untouched pass.wellFormed
  obtain ⟨x, again⟩ := exists_pass canAgain r
  have young : ∀ name file, (name, file) ∈ v.files.snapshots (v.settings.directoryOf application) →
      Retention.isObsolete (Retention.cutoff r.millis days) file.modified = false := by
    intro name file listed
    rw [settings, pass.lost.mem_snapshots_iff can.wellFormed pass.wellFormed, not_not] at listed
    rcases listed.2 with young | locked
    · exact decide_eq_false (Int.not_lt.mpr young)
    · simp [unlocked] at locked
  have same : x = v := by
    have nothing : (v.purgeAt { locked := r.locked } application r.millis days).1 = v :=
      purgeAt_of_young young
    rw [← purgeRound_eq canAgain.valid, again.outcome] at nothing
    exact nothing
  have outcome := again.outcome
  rw [same, settings] at outcome
  exact outcome

/-- Two different applications have two directories. -/
theorem apart_of_ne {other : String} (single : SingleName application)
    (otherSingle : SingleName other) (different : application ≠ other) (place : Location)
    (opens : w.files.Opens (w.settings.directoryOf application) place) :
    ¬ w.files.Opens (w.settings.directoryOf other) place := by
  intro also
  obtain ⟨archive, -, rfl⟩ := Settings.opens_of_directoryOf single opens
  obtain ⟨again, -, child⟩ := Settings.opens_of_directoryOf otherSingle also
  exact different (Location.child_inj.mp child).2

/-- Without locks it is only the latest round that counts. -/
theorem purgeRounds_of_latest (can : w.Purgeable application days) {rounds : List Round}
    (unlocked : ∀ r ∈ rounds, r.locked = []) (listed : b ∈ rounds)
    (latest : ∀ r ∈ rounds, r.millis ≤ b.millis) (place : Location) :
    (w.purgeRounds application rounds).files.nodeAt? place =
      (w.purgeRounds application [b]).files.nodeAt? place := by
  refine FileTree.Lost.agree (lost_purgeRounds can [b]) ((lost_purgeRounds can rounds).congr ?_) place
  intro there name file _
  constructor
  · rintro ⟨r, single, expired⟩
    rw [List.mem_singleton.mp single] at expired
    exact ⟨b, listed, expired⟩
  · rintro ⟨r, among, expired⟩
    refine ⟨b, List.mem_singleton_self b, fun spares => expired ?_⟩
    exact spares.earlier (unlocked b listed) (latest r among)

/-- Purges of two applications make no difference to one another. -/
theorem purgeRound_comm {other : String} (can : w.Purgeable application days)
    (otherCan : w.Purgeable other days) (single : SingleName application)
    (otherSingle : SingleName other) (different : application ≠ other) (a b : Round) :
    ∃ v x y z told otherTold,
      w.purgeRound application a = (v, .ok told) ∧ v.purgeRound other b = (x, .ok otherTold) ∧
      w.purgeRound other b = (y, .ok otherTold) ∧ y.purgeRound application a = (z, .ok told) ∧
      ∀ place, z.files.nodeAt? place = x.files.nodeAt? place := by
  have apart := w.apart_of_ne single otherSingle different
  have otherApart := w.apart_of_ne otherSingle single different.symm
  obtain ⟨v, first⟩ := exists_pass can a
  obtain ⟨x, second⟩ := exists_pass (otherCan.untouched first.untouched first.wellFormed) b
  obtain ⟨y, otherFirst⟩ := exists_pass otherCan b
  obtain ⟨z, otherSecond⟩ := exists_pass (can.untouched otherFirst.untouched otherFirst.wellFormed) a
  have ⟨outcome, _, wf, lost⟩ := second
  have ⟨otherOutcome, _, otherWf, otherLost⟩ := otherSecond
  rw [first.untouched.settings] at outcome lost
  rw [otherFirst.untouched.settings] at otherOutcome otherLost
  have told := otherFirst.lost.sizeOf_snapshots otherLost first.lost otherApart can.wellFormed
    otherFirst.wellFormed otherWf first.wellFormed
  have otherTold := first.lost.sizeOf_snapshots lost otherFirst.lost apart can.wellFormed
    first.wellFormed wf otherFirst.wellFormed
  rw [told] at otherOutcome
  rw [otherTold] at outcome
  exact ⟨v, x, y, z, _, _, first.outcome, outcome, otherFirst.outcome, otherOutcome,
    first.lost.comm apart lost otherFirst.lost otherLost⟩

/-- Purges make up one purge. Of two, each takes away what it does not spare, and the second one tells
the size of what both have spared; without locks they do what the later one does alone, and one that
is made again does nothing. A snapshot that could not be deleted is deleted by any later purge that
does not spare it. Purges of different applications have nothing to do with one another. -/
theorem purges_compose (can : w.Purgeable application days) :
    (∀ a b : Round, ∃ v x told left,
      w.purgeRound application a = (v, .ok told) ∧ v.purgeRound application b = (x, .ok left) ∧
      w.files.Lost (w.settings.directoryOf application)
        (fun name file => ¬ a.Spares days name file ∨ ¬ b.Spares days name file) x.files ∧
      (∀ name file, (name, file) ∈ x.files.snapshots (w.settings.directoryOf application) ↔
        (name, file) ∈ w.files.snapshots (w.settings.directoryOf application) ∧
          a.Spares days name file ∧ b.Spares days name file) ∧
      left = sizeOf (x.files.snapshots (w.settings.directoryOf application))) ∧
    (∀ a b : Round, a.locked = [] → b.locked = [] → a.millis ≤ b.millis → ∀ place,
      (w.purgeRounds application [a, b]).files.nodeAt? place =
        (w.purgeRounds application [b]).files.nodeAt? place ∧
      (w.purgeRounds application [b, a]).files.nodeAt? place =
        (w.purgeRounds application [b]).files.nodeAt? place) ∧
    (∀ r : Round, r.locked = [] → ∃ v told, w.purgeRound application r = (v, .ok told) ∧
      v.purgeRound application r = (v, .ok told)) ∧
    (∀ (earlier : List Round) (r : Round) there name file,
      w.files.SnapshotAt (w.settings.directoryOf application) there name file →
      ¬ r.Spares days name file →
      (w.purgeRounds application (earlier ++ [r])).files.nodeAt? there = none) ∧
    (∀ other, SingleName application → SingleName other → '\x00' ∉ other.toList →
      application ≠ other → ∀ a b : Round, ∃ v x y z told otherTold,
        w.purgeRound application a = (v, .ok told) ∧ v.purgeRound other b = (x, .ok otherTold) ∧
        w.purgeRound other b = (y, .ok otherTold) ∧ y.purgeRound application a = (z, .ok told) ∧
        ∀ place, z.files.nodeAt? place = x.files.nodeAt? place) := by
  refine ⟨?_, ?_, ?_, ?_, ?_⟩
  · intro a b
    obtain ⟨v, first⟩ := exists_pass can a
    obtain ⟨x, second⟩ := exists_pass (can.untouched first.untouched first.wellFormed) b
    have ⟨outcome, _, wf, lost⟩ := second
    rw [first.untouched.settings] at lost outcome
    have both := first.lost.trans lost
    refine ⟨v, x, _, _, first.outcome, outcome, both, fun name file => ?_, rfl⟩
    rw [both.mem_snapshots_iff can.wellFormed wf, not_or, not_not, not_not]
  · intro a b unlocked alsoUnlocked earlier place
    constructor
    · apply purgeRounds_of_latest can <;> simp [unlocked, alsoUnlocked, earlier]
    · apply purgeRounds_of_latest can <;> simp [unlocked, alsoUnlocked, earlier]
  · intro r unlocked
    obtain ⟨v, pass⟩ := exists_pass can r
    exact ⟨v, _, pass.outcome, purgeRound_again can unlocked pass⟩
  · intro earlier r there name file snapshot expired
    exact (lost_purgeRounds can (earlier ++ [r])).taken there name file snapshot
      ⟨r, List.mem_append_right _ (List.mem_singleton_self r), expired⟩
  · intro other single otherSingle noZero different
    exact purgeRound_comm can ⟨can.wellFormed, can.noZeroArchive, noZero, can.valid⟩ single otherSingle
      different

end World

def Round.instant (locked : List String) : Round :=
  ⟨.finite 100000000, 100000000000, World.scale_instant, locked⟩

/-- A snapshot of 1970 is locked at first, and deleted then. The purge after that finds nothing. -/
theorem World.purges_compose_visited : ∃ v there,
    World.initial.write .visited = (v, .ok (some (Snapshot.content .visited).length)) ∧
      v.files.nodeAt? there ≠ none ∧
      (v.purgeRounds "shop" [.instant ["http.ser.gz"], .instant []]).files.nodeAt? there = none ∧
      ∃ x told, v.purgeRound "shop" (.instant []) = (x, .ok told) ∧
        x.purgeRound "shop" (.instant []) = (x, .ok told) := by
  obtain ⟨v, place, file, wrote, settings, wf, snapshot, -, modified⟩ := exists_snapshot
  have can : v.Purgeable "shop" 365 := by
    refine ⟨wf, ?_, by decide, ?_⟩
    · rw [settings]
      decide
    · rw [settings]
      rfl
  obtain ⟨-, -, again, deleted, -⟩ := purges_compose can
  have expired : ¬ (Round.instant []).Spares 365 "http.ser.gz" file := by
    rw [Round.Spares, modified, not_or, Int.not_le]
    exact ⟨expired_instant, List.not_mem_nil⟩
  rw [settings] at deleted
  exact ⟨v, place.child "http.ser.gz", wrote, by simp [snapshot.node],
    deleted [.instant ["http.ser.gz"]] (.instant []) _ _ _ snapshot expired, again (.instant []) rfl⟩

end CounterArchive
