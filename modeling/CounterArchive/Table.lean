/-! Finite maps that remember in which order their keys came. Putting a value under a known
key replaces it in its place; a new key goes to the end. No key occurs twice. -/
namespace CounterArchive

/-- The list behind a table, with a value put in its key's place or at the end. -/
def putEntry {κ α : Type} [DecidableEq κ] (key : κ) (value : α) : List (κ × α) → List (κ × α)
  | [] => [(key, value)]
  | (k, v) :: rest => if k = key then (k, value) :: rest else (k, v) :: putEntry key value rest

/-- Known keys keep their order, and a new one comes last. -/
theorem keys_putEntry {κ α : Type} [DecidableEq κ] (key : κ) (value : α) (l : List (κ × α)) :
    (putEntry key value l).map Prod.fst =
      if key ∈ l.map Prod.fst then l.map Prod.fst else l.map Prod.fst ++ [key] := by
  induction l with
  | nil => simp [putEntry]
  | cons entry rest ih =>
    obtain ⟨k, v⟩ := entry
    by_cases same : k = key
    · simp [putEntry, same]
    · have other : ¬ key = k := fun h => same h.symm
      by_cases known : key ∈ rest.map Prod.fst
      · simp only [putEntry, same, if_false, List.map_cons, ih, known, if_true, List.mem_cons,
          other, false_or]
      · simp only [putEntry, same, if_false, List.map_cons, ih, known, List.mem_cons, other,
          false_or, List.cons_append]

theorem nodup_putEntry {κ α : Type} [DecidableEq κ] (key : κ) (value : α) {l : List (κ × α)}
    (distinct : (l.map Prod.fst).Nodup) : ((putEntry key value l).map Prod.fst).Nodup := by
  rw [keys_putEntry]
  split
  · exact distinct
  · rename_i fresh
    exact List.nodup_append.mpr ⟨distinct, by simp, by
      intro a ha b hb
      obtain rfl : b = key := by simpa using hb
      exact fun h => fresh (h ▸ ha)⟩

theorem nodup_filter_keys {κ α : Type} (p : κ × α → Bool) {l : List (κ × α)}
    (distinct : (l.map Prod.fst).Nodup) : ((l.filter p).map Prod.fst).Nodup :=
  distinct.sublist (List.Sublist.map _ List.filter_sublist)

structure Table (κ α : Type) where
  entries : List (κ × α)
  distinct : (entries.map Prod.fst).Nodup
deriving DecidableEq

namespace Table

variable {κ α : Type}

theorem ext {s t : Table κ α} (h : s.entries = t.entries) : s = t := by
  cases s; cases t; simp_all

def empty : Table κ α := ⟨[], by simp⟩

instance : Inhabited (Table κ α) := ⟨empty⟩

def keys (t : Table κ α) : List κ := t.entries.map Prod.fst

def values (t : Table κ α) : List α := t.entries.map Prod.snd

def size (t : Table κ α) : Nat := t.entries.length

variable [DecidableEq κ]

def get? (t : Table κ α) (key : κ) : Option α := t.entries.lookup key

def insert (t : Table κ α) (key : κ) (value : α) : Table κ α :=
  ⟨putEntry key value t.entries, nodup_putEntry key value t.distinct⟩

def erase (t : Table κ α) (key : κ) : Table κ α :=
  ⟨t.entries.filter (fun entry => entry.1 ≠ key), nodup_filter_keys _ t.distinct⟩

/-- The last of several values for one key wins, in the place of the first. -/
def ofList (l : List (κ × α)) : Table κ α :=
  l.foldl (fun t entry => t.insert entry.1 entry.2) empty

end Table

end CounterArchive
