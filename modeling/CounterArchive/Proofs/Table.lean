import CounterArchive.Table
import Mathlib.Data.List.Basic

/-! Tables as maps: what a key leads to after an insertion or a removal, the list that a table is made
of, and the order in which its keys come. -/
namespace CounterArchive

variable {κ α : Type} [DecidableEq κ]

theorem lookup_putEntry (key other : κ) (value : α) (l : List (κ × α)) :
    (putEntry key value l).lookup other =
      if other = key then some value else l.lookup other := by
  induction l with
  | nil =>
    by_cases same : other = key
    · simp [putEntry, same]
    · simp [putEntry, List.lookup_cons, same, beq_eq_false_iff_ne.mpr same]
  | cons entry rest ih =>
    obtain ⟨k, v⟩ := entry
    by_cases known : k = key
    · subst known
      by_cases same : other = k
      · simp [putEntry, same]
      · simp [putEntry, List.lookup_cons, same, beq_eq_false_iff_ne.mpr same]
    · by_cases here : other = k
      · subst here
        simp [putEntry, known]
      · simp [putEntry, known, List.lookup_cons, beq_eq_false_iff_ne.mpr here, ih]

theorem lookup_filter_ne (key other : κ) (l : List (κ × α)) :
    (l.filter fun entry => entry.1 ≠ key).lookup other =
      if other = key then none else l.lookup other := by
  induction l with
  | nil => simp
  | cons entry rest ih =>
    obtain ⟨k, v⟩ := entry
    by_cases dropped : k = key
    · subst dropped
      rw [List.filter_cons_of_neg (by simp), ih]
      by_cases same : other = k
      · simp [same]
      · simp [List.lookup_cons, same, beq_eq_false_iff_ne.mpr same]
    · rw [List.filter_cons_of_pos (by simpa using dropped)]
      by_cases here : other = k
      · subst here
        simp [dropped]
      · simpa [List.lookup_cons, beq_eq_false_iff_ne.mpr here] using ih

theorem putEntry_of_notMem {key : κ} (value : α) {l : List (κ × α)}
    (fresh : key ∉ l.map Prod.fst) : putEntry key value l = l ++ [(key, value)] := by
  induction l with
  | nil => rfl
  | cons entry rest ih =>
    rw [List.map_cons, List.mem_cons, not_or] at fresh
    rw [putEntry, if_neg fun same => fresh.1 same.symm, ih fresh.2, List.cons_append]

/-- A known key gets its new value in its place. -/
theorem putEntry_append {key : κ} (value old : α) {front : List (κ × α)} (rest : List (κ × α))
    (fresh : key ∉ front.map Prod.fst) :
    putEntry key value (front ++ (key, old) :: rest) = front ++ (key, value) :: rest := by
  induction front with
  | nil => simp [putEntry]
  | cons entry front ih =>
    rw [List.map_cons, List.mem_cons, not_or] at fresh
    rw [List.cons_append, putEntry, if_neg fun same => fresh.1 same.symm, ih fresh.2,
      List.cons_append]

theorem mem_putEntry {key : κ} {value : α} {l : List (κ × α)}
    {entry : κ × α} (listed : entry ∈ putEntry key value l) : entry = (key, value) ∨ entry ∈ l := by
  induction l with
  | nil => simpa [putEntry] using listed
  | cons first rest ih =>
    obtain ⟨k, v⟩ := first
    by_cases same : k = key
    · subst same
      simp only [putEntry, if_true, List.mem_cons] at listed ⊢
      rcases listed with here | later
      · exact .inl here
      · exact .inr (.inr later)
    · simp only [putEntry, if_neg same, List.mem_cons] at listed ⊢
      rcases listed with here | later
      · exact .inr (.inl here)
      · exact (ih later).imp_right .inr

theorem lookup_ne_none_iff (key : κ) (l : List (κ × α)) :
    l.lookup key ≠ none ↔ key ∈ l.map Prod.fst := by
  induction l with
  | nil => simp
  | cons entry rest ih =>
    obtain ⟨k, v⟩ := entry
    by_cases same : key = k
    · simp [same]
    · simp [List.lookup_cons, beq_eq_false_iff_ne.mpr same, same, ih]

theorem lookup_eq_some_iff {key : κ} {value : α} {l : List (κ × α)}
    (distinct : (l.map Prod.fst).Nodup) : l.lookup key = some value ↔ (key, value) ∈ l := by
  induction l with
  | nil => simp
  | cons entry rest ih =>
    obtain ⟨k, v⟩ := entry
    rw [List.map_cons, List.nodup_cons] at distinct
    by_cases same : key = k
    · subst same
      have absent : (key, value) ∉ rest := fun listed =>
        distinct.1 (List.mem_map.mpr ⟨(key, value), listed, rfl⟩)
      simp [absent, eq_comm]
    · simp [List.lookup_cons, beq_eq_false_iff_ne.mpr same, same, ih distinct.2]

namespace Table

theorem mem_entries {t : Table κ α} {key : κ} {value : α} :
    (key, value) ∈ t.entries ↔ t.get? key = some value := (lookup_eq_some_iff t.distinct).symm

theorem get?_ne_none_iff (t : Table κ α) (key : κ) : t.get? key ≠ none ↔ key ∈ t.keys :=
  lookup_ne_none_iff key t.entries

@[simp] theorem get?_empty (key : κ) : (empty : Table κ α).get? key = none := rfl

theorem get?_insert (t : Table κ α) (key other : κ) (value : α) :
    (t.insert key value).get? other = if other = key then some value else t.get? other :=
  lookup_putEntry key other value t.entries

@[simp] theorem get?_insert_self (t : Table κ α) (key : κ) (value : α) :
    (t.insert key value).get? key = some value := by
  rw [get?_insert, if_pos rfl]

theorem get?_insert_of_ne {key other : κ} (t : Table κ α) (value : α) (different : other ≠ key) :
    (t.insert key value).get? other = t.get? other := by
  rw [get?_insert, if_neg different]

theorem get?_erase (t : Table κ α) (key other : κ) :
    (t.erase key).get? other = if other = key then none else t.get? other :=
  lookup_filter_ne key other t.entries

/-- Of a list without repeated keys, a table has the entries in order. -/
theorem entries_ofList {l : List (κ × α)} (distinct : (l.map Prod.fst).Nodup) :
    (ofList l).entries = l := by
  have general : ∀ (rest : List (κ × α)) (t : Table κ α),
      ((t.entries ++ rest).map Prod.fst).Nodup →
        (rest.foldl (fun t entry => t.insert entry.1 entry.2) t).entries = t.entries ++ rest := by
    intro rest
    induction rest with
    | nil =>
      intro t _
      rw [List.foldl_nil, List.append_nil]
    | cons entry rest ih =>
      intro t distinct
      have fresh : entry.1 ∉ t.entries.map Prod.fst := by
        intro known
        rw [List.map_append, List.nodup_append] at distinct
        exact distinct.2.2 _ known _ (List.mem_cons_self ..) rfl
      have inserted : (t.insert entry.1 entry.2).entries = t.entries ++ [entry] :=
        putEntry_of_notMem entry.2 fresh
      rw [List.foldl_cons, ih, inserted, List.append_assoc, List.singleton_append]
      rw [inserted, List.append_assoc]
      exact distinct
  exact general l empty distinct

/-- A table has no entries but those of the list that it is made of. -/
theorem mem_of_mem_ofList {l : List (κ × α)} {entry : κ × α}
    (listed : entry ∈ (ofList l).entries) : entry ∈ l := by
  have general : ∀ (rest : List (κ × α)) (t : Table κ α),
      entry ∈ (rest.foldl (fun t entry => t.insert entry.1 entry.2) t).entries →
        entry ∈ t.entries ∨ entry ∈ rest := by
    intro rest
    induction rest with
    | nil => exact fun t found => .inl found
    | cons first rest ih =>
      intro t found
      rcases ih _ found with before | later
      · rcases mem_putEntry before with rfl | old
        · exact .inr (List.mem_cons_self ..)
        · exact .inl old
      · exact .inr (List.mem_cons_of_mem _ later)
  exact (general l empty listed).resolve_left List.not_mem_nil

theorem ofList_entries (t : Table κ α) : ofList t.entries = t := ext (entries_ofList t.distinct)

/-- The keys of a table come in the order of the values. -/
theorem get?_of_getElem?_keys (t : Table κ α) {i : Nat} {key : κ} (there : t.keys[i]? = some key) :
    t.get? key = t.values[i]? := by
  rw [keys, List.getElem?_map, Option.map_eq_some_iff] at there
  obtain ⟨⟨_, value⟩, entry, rfl⟩ := there
  rw [mem_entries.mp (List.mem_of_getElem? entry), values, List.getElem?_map, entry]
  rfl

/-- Of several values for one key, a table has the last. -/
theorem exists_last_of_get?_ofList {l : List (κ × α)} {key : κ} {value : α}
    (found : (ofList l).get? key = some value) :
    ∃ before after, l = before ++ (key, value) :: after ∧ key ∉ after.map Prod.fst := by
  have general : ∀ (rest : List (κ × α)) (t : Table κ α),
      (rest.foldl (fun t entry => t.insert entry.1 entry.2) t).get? key = some value →
        t.get? key = some value ∧ key ∉ rest.map Prod.fst ∨
          ∃ before after, rest = before ++ (key, value) :: after ∧ key ∉ after.map Prod.fst := by
    intro rest
    induction rest with
    | nil => exact fun t found => .inl ⟨found, List.not_mem_nil⟩
    | cons entry rest ih =>
      intro t found
      rcases ih _ found with ⟨inserted, absent⟩ | ⟨before, after, rfl, absent⟩
      · rw [get?_insert] at inserted
        split at inserted
        · rename_i same
          cases inserted
          exact .inr ⟨[], rest, by rw [same]; rfl, absent⟩
        · rename_i different
          exact .inl ⟨inserted, by simpa [different] using absent⟩
      · exact .inr ⟨entry :: before, after, rfl, absent⟩
  exact (general l empty found).resolve_left fun none => nomatch none.1

end Table

/-- Names in the order in which they first occur among others, without those that are known. -/
structure FirstOf (known all fresh : List String) : Prop where
  mem_iff : ∀ name, name ∈ fresh ↔ name ∈ all ∧ name ∉ known
  inOrder : fresh.Pairwise fun a b => all.idxOf a < all.idxOf b

namespace FirstOf

variable {known all fresh : List String} {name : String}

theorem nil (known : List String) : FirstOf known [] [] := ⟨by simp, .nil⟩

/-- Names that differ from the first one come one place later. -/
theorem pairwise_cons (first : FirstOf known all fresh) (other : ∀ later ∈ fresh, later ≠ name) :
    fresh.Pairwise fun a b => (name :: all).idxOf a < (name :: all).idxOf b := by
  refine first.inOrder.imp_of_mem fun here there earlier => ?_
  rw [List.idxOf_cons_ne _ (other _ here).symm, List.idxOf_cons_ne _ (other _ there).symm]
  omega

theorem cons_known (first : FirstOf known all fresh) (old : name ∈ known) :
    FirstOf known (name :: all) fresh := by
  refine ⟨fun other => ?_, first.pairwise_cons ?_⟩
  · rw [first.mem_iff, List.mem_cons]
    constructor
    · exact fun ⟨listed, new⟩ => ⟨.inr listed, new⟩
    · rintro ⟨rfl | listed, new⟩
      · exact absurd old new
      · exact ⟨listed, new⟩
  · rintro _ listed rfl
    exact ((first.mem_iff _).mp listed).2 old

theorem cons_new (first : FirstOf (known ++ [name]) all fresh) (new : name ∉ known) :
    FirstOf known (name :: all) (name :: fresh) := by
  have other : ∀ later ∈ fresh, later ≠ name := by
    rintro _ listed rfl
    exact ((first.mem_iff _).mp listed).2 (List.mem_append_right _ (List.mem_singleton_self _))
  refine ⟨fun later => ?_, List.pairwise_cons.mpr ⟨?_, first.pairwise_cons other⟩⟩
  · rw [List.mem_cons, List.mem_cons, first.mem_iff, List.mem_append, List.mem_singleton]
    by_cases same : later = name
    · simp [same, new]
    · simp [same]
  · intro later listed
    rw [List.idxOf_cons_self, List.idxOf_cons_ne _ (other later listed).symm]
    exact Nat.succ_pos _

end FirstOf

namespace Table

variable (t : Table String α) (l : List (String × α))

/-- Keys that are known stay where they are, and after them come the others, as they first occur. -/
theorem keys_insertAll : ∃ fresh,
    (l.foldl (fun t entry => t.insert entry.1 entry.2) t).keys = t.keys ++ fresh ∧
      FirstOf t.keys (l.map Prod.fst) fresh := by
  induction l generalizing t with
  | nil => exact ⟨[], (List.append_nil _).symm, .nil _⟩
  | cons entry rest ih =>
    obtain ⟨fresh, keys, firstOf⟩ := ih (t.insert entry.1 entry.2)
    have inserted : (t.insert entry.1 entry.2).keys =
        if entry.1 ∈ t.keys then t.keys else t.keys ++ [entry.1] := keys_putEntry ..
    rw [inserted] at keys firstOf
    split at keys
    · rename_i old
      rw [if_pos old] at firstOf
      exact ⟨fresh, keys, firstOf.cons_known old⟩
    · rename_i new
      rw [if_neg new] at firstOf
      exact ⟨entry.1 :: fresh, keys.trans (List.append_assoc ..), firstOf.cons_new new⟩

theorem firstOf_keys_ofList : FirstOf [] (l.map Prod.fst) (ofList l).keys := by
  obtain ⟨fresh, keys, firstOf⟩ := keys_insertAll empty l
  have same : (ofList l).keys = fresh := keys
  exact same ▸ firstOf

end Table

end CounterArchive
