import CounterArchive.Proofs.FileTree.Losses
import Mathlib.Algebra.Ring.Nat

/-! What a purge does to the files, whatever they are. Of the snapshots in the directory of an
application those vanish and are deleted that it is told, and nothing else is changed anywhere. What is
told in the end is the size of all snapshots that are left. -/
namespace CounterArchive

open CounterArchive.Path

/-- The milliseconds of a time in seconds, if the product is finite. -/
theorem Retention.millis_of_finite {now : Binary64} {product : Rat}
    (finite : now.scale 1000 = .finite product) :
    millis now = .ok (Binary64.truncateRat product) := by
  rw [millis, finite]
  rfl

def sizeOf (entries : List (String × File)) : Nat :=
  (entries.map fun entry => entry.2.content.length).sum

namespace Sweep

def deletes (locked : List String) (cutoff : Int) (entry : String × File) : Bool :=
  Retention.isObsolete cutoff entry.2.modified && !locked.contains entry.1

def sticks (locked : List String) (cutoff : Int) (entry : String × File) : Bool :=
  Retention.isObsolete cutoff entry.2.modified && locked.contains entry.1

def complaints (locked : List String) (path : String) (cutoff : Int)
    (entries : List (String × File)) : List Event :=
  (entries.filter (sticks locked cutoff)).map fun entry =>
    .snapshotNotDeleted (join path entry.1) lockedReason

def account (s : Sweep) (locked : List String) (path : String) (cutoff : Int) (files : FileTree)
    (entries : List (String × File)) : Sweep where
  files := files
  deleted := s.deleted + (entries.filter (deletes locked cutoff)).length
  retained := s.retained + sizeOf (entries.filter fun entry => !deletes locked cutoff entry)
  events := s.events ++ complaints locked path cutoff entries

theorem account_nil (s : Sweep) (locked : List String) (path : String) (cutoff : Int) :
    s.account locked path cutoff s.files [] = s := by
  simp [account, sizeOf, complaints]

theorem account_account (s : Sweep) (locked : List String) (path : String) (cutoff : Int)
    (between files : FileTree) (first second : List (String × File)) :
    (s.account locked path cutoff between first).account locked path cutoff files second =
      s.account locked path cutoff files (first ++ second) := by
  simp [account, sizeOf, complaints, Nat.add_assoc]

section Visit

variable {s : Sweep} {locked : List String} {path name : String} {cutoff : Int} {place : Location}

def gone (locked : List String) (cutoff : Int) (entries : List (String × File)) (name : String) :
    Bool :=
  entries.any fun entry => deletes locked cutoff entry && name == entry.1

theorem gone_of_mem {entries : List (String × File)} {entry : String × File}
    (distinct : (entries.map Prod.fst).Nodup) (listed : entry ∈ entries) :
    gone locked cutoff entries entry.1 = deletes locked cutoff entry := by
  rw [Bool.eq_iff_iff]
  simp only [gone, List.any_eq_true, Bool.and_eq_true, beq_iff_eq]
  constructor
  · rintro ⟨other, also, deleted, same⟩
    have found := (lookup_eq_some_iff distinct).mpr listed
    rw [same, (lookup_eq_some_iff distinct).mpr also] at found
    rwa [show entry = other from Prod.ext same (Option.some.inj found).symm]
  · exact fun deleted => ⟨entry, listed, deleted, rfl⟩

/-- One visit. -/
theorem visit_eq (locked : List String) (cutoff : Int) (opens : s.files.Opens path place)
    (plain : PlainApplication name) :
    ∃ files, s.visit locked path cutoff name =
        s.account locked path cutoff files (s.files.filesAmong path [name]) ∧
      s.files.Thinned files place (gone locked cutoff (s.files.filesAmong path [name])) := by
  rcases found : s.files.file? (join path name) with fault | file
  · have none : s.files.filesAmong path [name] = [] := by
      simp only [FileTree.filesAmong_cons, found]
      rfl
    refine ⟨s.files, ?_, ?_⟩
    · rw [none, account_nil]
      unfold visit
      simp only [found]
    · rw [none]
      exact .refl s.files place
  · obtain ⟨sound, node⟩ := (opens.file?_join_iff plain).mp found
    have single : s.files.filesAmong path [name] = [(name, file)] := by
      simp only [FileTree.filesAmong_cons, found]
      rfl
    rw [single]
    unfold visit
    simp only [found]
    by_cases old : Retention.isObsolete cutoff file.modified = true
    · by_cases held : name ∈ locked
      · refine ⟨s.files, ?_, ?_⟩
        · simp [old, held, account, sizeOf, complaints, deletes, sticks, keepUndeleted, keep]
        · exact (FileTree.Thinned.refl s.files place).congr (by simp [gone, deletes, held])
      · have removed := FileTree.remove_of_locate (opens.locate_join plain sound) node
        have free : s.files.nodeAt? (place.child name) ≠ some .directory := by simp [node]
        refine ⟨_, ?_, (FileTree.thinned_erase free).congr ?_⟩
        · simp [old, held, removed, account, sizeOf, complaints, deletes, sticks]
        · simp [gone, deletes, old, held]
    · refine ⟨s.files, ?_, ?_⟩
      · simp [old, account, sizeOf, complaints, deletes, sticks, keep]
      · exact (FileTree.Thinned.refl s.files place).congr (by simp [gone, deletes, old])

/-- All visits together. -/
theorem foldl_visit_eq (locked : List String) (cutoff : Int) (opens : s.files.Opens path place)
    {names : List String} (plain : ∀ name ∈ names, PlainApplication name) (distinct : names.Nodup) :
    ∃ files, names.foldl (visit locked path cutoff) s =
        s.account locked path cutoff files (s.files.filesAmong path names) ∧
      s.files.Thinned files place (gone locked cutoff (s.files.filesAmong path names)) := by
  induction names generalizing s with
  | nil => exact ⟨s.files, (account_nil s locked path cutoff).symm, .refl s.files place⟩
  | cons name rest ih =>
    obtain ⟨between, one, thinned⟩ := visit_eq locked cutoff opens (plain name (List.mem_cons_self ..))
    have plainRest : ∀ other ∈ rest, PlainApplication other :=
      fun other listed => plain other (List.mem_cons_of_mem _ listed)
    rw [List.nodup_cons] at distinct
    obtain ⟨files, others, more⟩ := ih
      (s := s.account locked path cutoff between (s.files.filesAmong path [name]))
      (thinned.opens_iff.mpr opens) plainRest distinct.2
    have same : between.filesAmong path rest = s.files.filesAmong path rest := by
      rw [thinned.filesAmong_eq opens plainRest, List.filter_eq_self]
      intro entry listed
      have later := FileTree.fst_mem_of_mem_filesAmong listed
      simp only [gone, Bool.not_eq_true', List.any_eq_false, Bool.and_eq_true, beq_iff_eq, not_and]
      intro first member _ here
      have first := List.mem_singleton.mp (FileTree.fst_mem_of_mem_filesAmong member)
      rw [here, first] at later
      exact distinct.1 later
    change _ = Sweep.account _ _ _ _ _ (between.filesAmong path rest) at others
    change between.Thinned files place (gone locked cutoff (between.filesAmong path rest)) at more
    rw [same] at others more
    have whole := s.files.filesAmong_append path [name] rest
    rw [List.singleton_append] at whole
    refine ⟨files, ?_, ?_⟩
    · rw [List.foldl_cons, one, others, account_account, whole]
    · rw [whole]
      exact (thinned.trans more).congr fun other => by simp only [gone, List.any_append]

end Visit

end Sweep

def Disturbance.spares (d : Disturbance) (cutoff : Int) (entry : String × File) : Bool :=
  !d.vanishing.contains entry.1 && !Sweep.deletes d.locked cutoff entry

/-- What a purge of the snapshots in a directory leaves of some files. -/
structure Purged (d : Disturbance) (path : String) (cutoff : Int) (t u : FileTree) : Prop where
  snapshots : u.snapshots path = (t.snapshots path).filter (d.spares cutoff)
  thinned : ∃ place gone, t.Thinned u place gone ∧ ∀ name, gone name = true → t.Opens path place ∧
    ∃ file, (name, file) ∈ t.snapshots path ∧ d.spares cutoff (name, file) = false

namespace Purged

variable {d : Disturbance} {path : String} {cutoff : Int} {t u : FileTree}

theorem wellFormed (purged : Purged d path cutoff t u) (wf : t.WellFormed) : u.WellFormed := by
  obtain ⟨place, gone, thinned, -⟩ := purged.thinned
  exact thinned.wellFormed wf

/-- A purge takes away the snapshots that it does not spare. -/
theorem lost (purged : Purged d path cutoff t u) (wf : t.WellFormed) :
    t.Lost path (fun name file => d.spares cutoff (name, file) = false) u := by
  obtain ⟨place, gone, thinned, only⟩ := purged.thinned
  constructor
  case taken =>
    intro there name file snapshot deleted
    by_cases taken : ∃ gap, gone gap = true ∧ there = place.child gap
    · obtain ⟨gap, yes, rfl⟩ := taken
      exact thinned.taken gap yes
    · exfalso
      have same := thinned.kept there fun gap yes child => taken ⟨gap, yes, child⟩
      obtain ⟨above, opens, child⟩ := snapshot.inside
      have still : u.SnapshotAt path there name file :=
        ⟨⟨above, thinned.opens_iff.mpr opens, child⟩, snapshot.named, snapshot.short,
          same.trans snapshot.node⟩
      have listed := (purged.wellFormed wf).mem_snapshots_iff_at.mpr ⟨there, still⟩
      rw [purged.snapshots, List.mem_filter, deleted] at listed
      cases listed.2
  case kept =>
    intro there none
    apply thinned.kept
    rintro name taken rfl
    obtain ⟨opens, file, listed, deleted⟩ := only name taken
    obtain ⟨named, sound, node⟩ := (wf.mem_snapshots_iff opens).mp listed
    exact none name file ⟨⟨place, opens, rfl⟩, named, sound.short, node⟩ deleted

end Purged

namespace World

variable {path : String} {place : Location} {t : FileTree}

/-- What vanishes is gone. -/
theorem thinned_vanish (opens : t.Opens path place) {names : List String}
    (removable : ∀ name ∈ names, PlainApplication name ∧ Sound (join path name) ∧
      t.nodeAt? (place.child name) ≠ some .directory) :
    t.Thinned (vanish t path names) place names.contains := by
  induction names generalizing t with
  | nil => exact .refl t place
  | cons name rest ih =>
    obtain ⟨plain, sound, free⟩ := removable name (List.mem_cons_self ..)
    have thinned := opens.thinned_remove plain sound free
    have others := ih (thinned.opens_iff.mpr opens) fun other listed => by
      obtain ⟨plain, sound, free⟩ := removable other (List.mem_cons_of_mem _ listed)
      refine ⟨plain, sound, fun directory => free ?_⟩
      exact (thinned.directory_iff _).mp directory
    rw [vanish, List.foldl_cons]
    exact (thinned.trans others).congr fun other => List.elem_cons

/-- The names that a purge looks at are those of the snapshots, if the directory has a path at all. -/
theorem snapshotNames_cases (w : World) (path : String) :
    ((∃ failure, w.snapshotNames path = .error failure) ∧ ∀ place, ¬ w.files.Opens path place) ∨
      w.snapshotNames path = .ok ((w.files.snapshots path).map Prod.fst) := by
  unfold snapshotNames FileTree.snapshots
  rcases listed : w.files.list path with fault | names
  · cases fault with
    | zeroCharacter =>
      refine .inl ⟨⟨_, rfl⟩, fun place opens => ?_⟩
      rw [FileTree.list_of_directory opens.located opens.directory] at listed
      cases listed
    | _ => exact .inr rfl
  · right
    simp only [FileTree.map_fst_filesAmong, List.filter_filter, Bool.and_comm]

theorem purged_of_closed {d : Disturbance} {cutoff : Int} (closed : ∀ place, ¬ t.Opens path place) :
    Purged d path cutoff t t := by
  refine ⟨?_, .root, _, .refl t .root, fun _ no => nomatch no⟩
  rw [FileTree.snapshots_of_not_opens closed]
  rfl

def vanishingNames (d : Disturbance) (t : FileTree) (path : String) : List String :=
  ((t.snapshots path).map Prod.fst).filter d.vanishing.contains

/-- A purge of a directory, from which some files have vanished already. -/
theorem purged_of_thinned {u : FileTree} (wf : t.WellFormed) (opens : t.Opens path place)
    {d : Disturbance} (vanished : t.Thinned u place (vanishingNames d t path).contains)
    (cutoff : Int) :
    ∃ swept, ((t.snapshots path).map Prod.fst).foldl (Sweep.visit d.locked path cutoff)
        { files := u } = swept ∧ swept.retained = sizeOf (swept.files.snapshots path) ∧
      Purged d path cutoff t swept.files := by
  let there := (t.snapshots path).filter fun entry => !d.vanishing.contains entry.1
  have distinct := t.nodup_snapshots path
  have plain : ∀ name ∈ (t.snapshots path).map Prod.fst, PlainApplication name := by
    intro name listed
    obtain ⟨⟨name, file⟩, member, rfl⟩ := List.mem_map.mp listed
    obtain ⟨-, -, node⟩ := (wf.mem_snapshots_iff opens).mp member
    exact wf.named place name (by simp [node])
  have seen : ∀ entry ∈ t.snapshots path,
      (vanishingNames d t path).contains entry.1 = d.vanishing.contains entry.1 := by
    intro entry listed
    have member : entry.1 ∈ (t.snapshots path).map Prod.fst := List.mem_map_of_mem listed
    simp [vanishingNames, member]
  have left : u.filesAmong path ((t.snapshots path).map Prod.fst) = there := by
    have again : t.filesAmong path ((t.snapshots path).map Prod.fst) = t.snapshots path := by
      simp only [opens.snapshots_eq, FileTree.filesAmong_names]
    rw [vanished.filesAmong_eq opens plain, again]
    exact List.filter_congr fun entry listed => by rw [seen entry listed]
  have distinctThere : (there.map Prod.fst).Nodup :=
    distinct.sublist (List.filter_sublist.map Prod.fst)
  obtain ⟨files, visits, deleted⟩ := Sweep.foldl_visit_eq (s := { files := u }) d.locked cutoff
    (vanished.opens_iff.mpr opens) plain distinct
  simp only [left] at visits deleted
  have thinned := vanished.trans deleted
  have snapshots : files.snapshots path = (t.snapshots path).filter (d.spares cutoff) := by
    rw [thinned.snapshots_eq wf opens]
    apply List.filter_congr
    intro entry listed
    rw [seen entry listed, Disturbance.spares]
    cases vanishing : d.vanishing.contains entry.1 with
    | true => rfl
    | false =>
      have member : entry ∈ there := List.mem_filter.mpr ⟨listed, by rw [vanishing]; rfl⟩
      rw [Sweep.gone_of_mem distinctThere member]
      rfl
  refine ⟨_, visits, ?_, snapshots, place, _, thinned, ?_⟩
  · change 0 + sizeOf _ = sizeOf (files.snapshots path)
    rw [snapshots, List.filter_filter, Nat.zero_add]
    congr 2
    funext entry
    rw [Disturbance.spares, Bool.and_comm]
  · intro name taken
    refine ⟨opens, ?_⟩
    rcases Bool.or_eq_true_iff.mp taken with vanishing | taken
    · have member := List.mem_filter.mp (List.contains_iff_mem.mp vanishing)
      obtain ⟨entry, listed, rfl⟩ := List.mem_map.mp member.1
      have gone := List.contains_iff_mem.mp member.2
      exact ⟨entry.2, listed, by simp [Disturbance.spares, gone]⟩
    · obtain ⟨entry, listed, both⟩ := List.any_eq_true.mp taken
      rw [Bool.and_eq_true, beq_iff_eq] at both
      obtain ⟨gone, rfl⟩ := both
      exact ⟨entry.2, (List.mem_filter.mp listed).1, by simp [Disturbance.spares, gone]⟩

theorem thinned_vanishingNames (wf : t.WellFormed) (opens : t.Opens path place) (d : Disturbance) :
    t.Thinned (vanish t path (vanishingNames d t path)) place (vanishingNames d t path).contains := by
  refine thinned_vanish opens fun name listed => ?_
  obtain ⟨⟨name, file⟩, member, rfl⟩ := List.mem_map.mp (List.mem_filter.mp listed).1
  obtain ⟨-, sound, node⟩ := (wf.mem_snapshots_iff opens).mp member
  exact ⟨wf.named place name (by simp [node]), sound, by simp [node]⟩

/-- Of the snapshots in a directory those are gone that have vanished. -/
theorem lost_vanish (wf : t.WellFormed) (opens : t.Opens path place) (d : Disturbance) :
    t.Lost path (fun name _ => name ∈ d.vanishing)
      (vanish t path (vanishingNames d t path)) := by
  have thinned := thinned_vanishingNames wf opens d
  constructor
  case taken =>
    rintro there name file snapshot vanishing
    obtain ⟨above, same, rfl⟩ := snapshot.inside
    obtain rfl : above = place := Except.ok.inj (same.located.symm.trans opens.located)
    apply thinned.taken
    have listed := List.mem_map_of_mem (f := Prod.fst) (wf.mem_snapshots_iff_at.mpr ⟨_, snapshot⟩)
    simp [vanishingNames, vanishing, List.mem_map.mp listed]
  case kept =>
    intro there none
    apply thinned.kept
    rintro name yes rfl
    obtain ⟨listed, vanishing⟩ := List.mem_filter.mp (List.contains_iff_mem.mp yes)
    obtain ⟨⟨name, file⟩, member, rfl⟩ := List.mem_map.mp listed
    obtain ⟨named, sound, node⟩ := (wf.mem_snapshots_iff opens).mp member
    exact none name file ⟨⟨place, opens, rfl⟩, named, sound.short, node⟩
      (List.contains_iff_mem.mp vanishing)

/-- A purge fails where there is no directory, and leaves all as it was; or it takes some snapshots away
and tells the size of those that are left. -/
theorem purgeAt_cases {w : World} (wf : w.files.WellFormed) (d : Disturbance) (application : String)
    (millis days : Int) :
    ((∃ failure, w.purgeAt d application millis days = (w, .error failure)) ∧
      ∀ place, ¬ w.files.Opens (w.settings.directoryOf application) place) ∨
    ∃ files events, w.purgeAt d application millis days =
        ({ w with files }.record events,
          .ok (sizeOf (files.snapshots (w.settings.directoryOf application)))) ∧
      Purged d (w.settings.directoryOf application) (Retention.cutoff millis days) w.files files := by
  unfold purgeAt
  dsimp only
  generalize w.settings.directoryOf application = path
  generalize Retention.cutoff millis days = cutoff
  rcases w.snapshotNames_cases path with ⟨⟨failure, failed⟩, closed⟩ | listed
  · rw [failed]
    exact .inl ⟨⟨failure, rfl⟩, closed⟩
  · right
    rw [listed]
    by_cases open? : ∃ place, w.files.Opens path place
    · obtain ⟨place, opens⟩ := open?
      obtain ⟨swept, visits, told, purged⟩ :=
        purged_of_thinned wf opens (thinned_vanishingNames wf opens d) cutoff
      rw [vanishingNames] at visits
      simp only [visits, told]
      exact ⟨swept.files, _, rfl, purged⟩
    · have closed : ∀ place, ¬ w.files.Opens path place := fun place opens => open? ⟨place, opens⟩
      have none := FileTree.snapshots_of_not_opens closed
      refine ⟨w.files, [], ?_, purged_of_closed closed⟩
      simp only [none]
      rfl

/-- What a purge makes of the files, whatever it tells. -/
theorem purged_purge {w : World} (wf : w.files.WellFormed) (d : Disturbance) (application : String)
    (now : Binary64) :
    (w.purge d application now).1.files = w.files ∨ ∃ cutoff,
      Purged d (w.settings.directoryOf application) cutoff w.files
        (w.purge d application now).1.files := by
  unfold purge
  split
  · exact .inl rfl
  · rename_i millis _
    split
    · exact .inl rfl
    · rename_i days _
      rcases purgeAt_cases wf d application millis days with
        ⟨⟨failure, failed⟩, -⟩ | ⟨files, events, whole, purged⟩
      · rw [failed]
        exact .inl rfl
      · rw [whole]
        exact .inr ⟨_, purged⟩

end World

end CounterArchive
