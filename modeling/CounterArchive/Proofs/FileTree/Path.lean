import CounterArchive.FileTree.Path
import CounterArchive.Text.Utf8

/-! The names in joined paths, and the directory of a joined path. -/
namespace CounterArchive.Path

/-! Cutting at slashes -/

theorem pieces_ne_nil (text : List Char) : pieces text ≠ [] := by
  cases text with
  | nil => exact List.cons_ne_nil _ _
  | cons c rest =>
    rw [pieces]
    split
    · exact List.cons_ne_nil _ _
    · split <;> exact List.cons_ne_nil _ _

theorem pieces_of_notMem {text : List Char} (noSlash : '/' ∉ text) : pieces text = [text] := by
  induction text with
  | nil => rfl
  | cons c rest ih =>
    rw [List.mem_cons, not_or] at noSlash
    rw [pieces, if_neg fun same => noSlash.1 same.symm, ih noSlash.2]

theorem pieces_append_slash (first second : List Char) :
    pieces (first ++ '/' :: second) = pieces first ++ pieces second := by
  induction first with
  | nil => rfl
  | cons c rest ih =>
    rw [List.cons_append, pieces, pieces]
    by_cases slash : c = '/'
    · rw [if_pos slash, if_pos slash, ih, List.cons_append]
    · obtain ⟨piece, more, split⟩ := List.exists_cons_of_ne_nil (pieces_ne_nil rest)
      rw [if_neg slash, if_neg slash, ih, split]
      rfl

def namesIn (text : List Char) : List String :=
  ((pieces text).filter (· ≠ [])).map String.ofList

theorem names_eq (path : String) : names path = namesIn path.toList := rfl

theorem namesIn_append_slash (first second : List Char) :
    namesIn (first ++ '/' :: second) = namesIn first ++ namesIn second := by
  rw [namesIn, pieces_append_slash, List.filter_append, List.map_append]
  rfl

theorem namesIn_of_notMem {text : List Char} (noSlash : '/' ∉ text) (present : text ≠ []) :
    namesIn text = [String.ofList text] := by
  rw [namesIn, pieces_of_notMem noSlash, List.filter_cons_of_pos (by simpa using present)]
  rfl

theorem names_of_notMem {name : String} (noSlash : '/' ∉ name.toList) (present : name ≠ "") :
    names name = [name] := by
  have some : name.toList ≠ [] := by simpa using present
  rw [names_eq, namesIn_of_notMem noSlash some, String.ofList_toList]

theorem mem_pieces {text piece : List Char} (listed : piece ∈ pieces text) :
    '/' ∉ piece ∧ ∀ c ∈ piece, c ∈ text := by
  induction text generalizing piece with
  | nil =>
    obtain rfl := List.mem_singleton.mp listed
    simp
  | cons c rest ih =>
    rw [pieces] at listed
    by_cases slash : c = '/'
    · rw [if_pos slash] at listed
      rcases List.mem_cons.mp listed with rfl | later
      · simp
      · exact (ih later).imp_right fun inside x member => List.mem_cons_of_mem _ (inside x member)
    · obtain ⟨first, more, split⟩ := List.exists_cons_of_ne_nil (pieces_ne_nil rest)
      rw [if_neg slash, split] at listed
      rcases List.mem_cons.mp listed with rfl | later
      · obtain ⟨noSlash, inside⟩ := ih (split ▸ List.mem_cons_self ..)
        simp only [List.mem_cons, not_or, forall_eq_or_imp, true_or, true_and]
        exact ⟨⟨Ne.symm slash, noSlash⟩, fun x member => .inr (inside x member)⟩
      · obtain ⟨noSlash, inside⟩ := ih (split ▸ List.mem_cons_of_mem _ later)
        exact ⟨noSlash, fun x member => List.mem_cons_of_mem _ (inside x member)⟩

/-- The names in a path are not empty, and they are cut out of it. -/
theorem mem_names {path name : String} (listed : name ∈ names path) :
    name ≠ "" ∧ '/' ∉ name.toList ∧ ∀ c ∈ name.toList, c ∈ path.toList := by
  obtain ⟨piece, kept, rfl⟩ := List.mem_map.mp listed
  obtain ⟨cut, present⟩ := List.mem_filter.mp kept
  obtain ⟨noSlash, inside⟩ := mem_pieces cut
  rw [String.toList_ofList]
  refine ⟨fun none => ?_, noSlash, inside⟩
  have : piece = [] := by simpa using congrArg String.toList none
  simp [this] at present

/-- Slashes at the end of a path are not counted. -/
theorem namesIn_dropSlashes (reversed : List Char) :
    namesIn (reversed.dropWhile (· = '/')).reverse = namesIn reversed.reverse := by
  induction reversed with
  | nil => rfl
  | cons c rest ih =>
    by_cases slash : c = '/'
    · have trailing := namesIn_append_slash rest.reverse []
      rw [List.dropWhile_cons_of_pos (by simpa using slash), ih, List.reverse_cons, slash, trailing]
      exact (List.append_nil _).symm
    · rw [List.dropWhile_cons_of_neg (by simpa using slash)]

theorem namesIn_append_slashes (text : List Char) (n : Nat) :
    namesIn (text ++ List.replicate n '/') = namesIn text := by
  have dropped := namesIn_dropSlashes (List.replicate n '/' ++ text.reverse)
  rw [List.dropWhile_append_of_pos (by simp [List.mem_replicate]), namesIn_dropSlashes,
    List.reverse_append, List.reverse_replicate, List.reverse_reverse] at dropped
  exact dropped.symm

/-! Joining -/

/-- A joined path is the two parts with a slash between them; a slash at the end of the first part
serves for it. -/
theorem toList_join {directory path : String} (relative : isAbsolute path = false)
    (present : directory ≠ "") :
    ∃ front, (join directory path).toList = front ++ '/' :: path.toList ∧
      namesIn front = names directory ∧
      (directory.toList = front ∨ directory.toList = front ++ ['/']) := by
  have notAbsolute : ¬ isAbsolute path = true := by rw [relative]; exact Bool.false_ne_true
  rw [join, if_neg notAbsolute]
  by_cases trailing : directory.toList.getLast? = some '/'
  · obtain ⟨front, split⟩ := List.getLast?_eq_some_iff.mp trailing
    refine ⟨front, ?_, ?_, .inr split⟩
    · rw [if_pos (.inr trailing), String.toList_append, split, List.append_assoc]
      rfl
    · rw [names_eq, split, namesIn_append_slash]
      exact (List.append_nil _).symm
  · refine ⟨directory.toList, ?_, rfl, .inl rfl⟩
    rw [if_neg (not_or.mpr ⟨present, trailing⟩), String.toList_append, String.toList_append,
      List.append_assoc]
    rfl

theorem names_join {directory path : String} (relative : isAbsolute path = false)
    (present : directory ≠ "") : names (join directory path) = names directory ++ names path := by
  obtain ⟨front, text, same, -⟩ := toList_join relative present
  rw [names_eq, text, namesIn_append_slash, same]
  rfl

theorem isAbsolute_join {directory : String} (path : String)
    (absolute : isAbsolute directory = true) : isAbsolute (join directory path) = true := by
  rw [join]
  split
  · assumption
  · have head : directory.toList.head? = some '/' := of_decide_eq_true absolute
    have front (more : String) : isAbsolute (directory ++ more) = true := by
      rw [isAbsolute, String.toList_append, List.head?_append, head]
      rfl
    split
    · exact front path
    · rw [String.append_assoc]
      exact front ("/" ++ path)

theorem ne_empty_of_isAbsolute {path : String} (absolute : isAbsolute path = true) : path ≠ "" := by
  rintro rfl
  cases absolute

/-- A name is no absolute path. -/
theorem isAbsolute_of_notMem {name : String} (noSlash : '/' ∉ name.toList) :
    isAbsolute name = false := by
  rw [isAbsolute, decide_eq_false_iff_not]
  intro head
  exact noSlash (List.mem_of_head? head)

/-- A path in a directory has one name more. -/
theorem names_join_name {name : String} (directory : String) (noSlash : '/' ∉ name.toList)
    (named : name ≠ "") : names (join directory name) = names directory ++ [name] := by
  have relative := isAbsolute_of_notMem noSlash
  rw [← names_of_notMem noSlash named]
  by_cases present : directory = ""
  · have same : join "" name = name := by simp [join, relative]
    have none : names "" = [] := rfl
    rw [present, same, none, List.nil_append]
  · exact names_join relative present

theorem mem_join {c : Char} {directory path : String} (listed : c ∈ (join directory path).toList) :
    c ∈ directory.toList ∨ c = '/' ∨ c ∈ path.toList := by
  unfold join at listed
  split at listed
  · exact .inr (.inr listed)
  · split at listed
    · rw [String.toList_append, List.mem_append] at listed
      exact listed.imp_right .inr
    · rw [String.toList_append, String.toList_append, List.mem_append, List.mem_append] at listed
      rcases listed with (first | slash) | second
      · exact .inl first
      · exact .inr (.inl (List.mem_singleton.mp slash))
      · exact .inr (.inr second)

theorem size_append (first second : List Char) :
    Utf8.size (first ++ second) = Utf8.size first + Utf8.size second := by
  rw [Utf8.size, Utf8.encode, List.flatMap_append, List.length_append]
  rfl

theorem size_join_le (directory path : String) :
    Utf8.size (join directory path).toList ≤
      Utf8.size directory.toList + 1 + Utf8.size path.toList := by
  unfold join
  split
  · omega
  · split
    · rw [String.toList_append, size_append]
      omega
    · rw [String.toList_append, String.toList_append, size_append, size_append]
      exact Nat.le_refl _

/-- A path ends like its last name, which is not with a slash. -/
theorem getLast?_join {directory name : String} (noSlash : '/' ∉ name.toList)
    (named : name ≠ "") (present : directory ≠ "") :
    (join directory name).toList.getLast? ≠ some '/' := by
  obtain ⟨front, text, -, -⟩ := toList_join (isAbsolute_of_notMem noSlash) present
  have some : name.toList ≠ [] := by simpa using named
  obtain ⟨rest, c, split⟩ := (List.eq_nil_or_concat name.toList).resolve_left some
  rw [List.concat_eq_append] at split
  have whole : front ++ '/' :: name.toList = (front ++ '/' :: rest) ++ [c] := by
    rw [split, List.append_assoc, List.cons_append]
  rw [text, whole, List.getLast?_concat]
  rintro same
  cases same
  exact noSlash (split ▸ List.mem_append_right rest (List.mem_singleton_self '/'))

/-! The directory of a joined path -/

/-- The directory of a path in a directory, as it is computed from the characters in front of the
last slash. -/
theorem directoryOf_eq {path : String} {front name : List Char} (noSlash : '/' ∉ name)
    (split : path.toList = front ++ '/' :: name) :
    directoryOf path =
      String.ofList (if front.reverse.dropWhile (· = '/') = [] then front ++ ['/']
        else (front.reverse.dropWhile (· = '/')).reverse) := by
  have cut : path.toList.reverse.dropWhile (· ≠ '/') = '/' :: front.reverse := by
    rw [split, List.reverse_append, List.reverse_cons, List.append_assoc,
      List.dropWhile_append_of_pos]
    · rfl
    · intro c listed
      rw [List.mem_reverse] at listed
      exact decide_eq_true fun (same : c = '/') => noSlash (same ▸ listed)
  have slashes : ('/' :: front.reverse).dropWhile (· = '/') =
      front.reverse.dropWhile (· = '/') := List.dropWhile_cons_of_pos (decide_eq_true rfl)
  rw [directoryOf, cut]
  simp only [slashes]
  by_cases none : front.reverse.dropWhile (· = '/') = []
  · rw [if_pos none, if_pos none, List.reverse_cons, List.reverse_reverse]
  · rw [if_neg none, if_neg none]

/-- A directory whose path does not end with a slash is the directory of what is in it. -/
theorem directoryOf_join {directory name : String} (noSlash : '/' ∉ name.toList)
    (present : directory ≠ "") (unclosed : directory.toList.getLast? ≠ some '/') :
    directoryOf (join directory name) = directory := by
  obtain ⟨front, text, -, same⟩ := toList_join (isAbsolute_of_notMem noSlash) present
  have whole : directory.toList = front := by
    rcases same with same | trailing
    · exact same
    · rw [trailing, List.getLast?_append] at unclosed
      exact absurd rfl unclosed
  have some : front.reverse ≠ [] := by
    rw [← whole]
    simpa using present
  have kept : front.reverse.dropWhile (· = '/') = front.reverse := by
    obtain ⟨c, rest, split⟩ := List.exists_cons_of_ne_nil some
    have last : c ≠ '/' := by
      rintro rfl
      rw [whole, ← List.head?_reverse, split] at unclosed
      exact unclosed rfl
    rw [split, List.dropWhile_cons_of_neg (by simpa using last)]
  rw [directoryOf_eq noSlash text, kept, if_neg some, List.reverse_reverse, ← whole,
    String.ofList_toList]

/-- The directory of a path in any directory is named like that directory. -/
theorem names_directoryOf_join {directory name : String} (noSlash : '/' ∉ name.toList)
    (present : directory ≠ "") : names (directoryOf (join directory name)) = names directory := by
  obtain ⟨front, text, same, -⟩ := toList_join (isAbsolute_of_notMem noSlash) present
  have dropped := namesIn_dropSlashes front.reverse
  rw [List.reverse_reverse, same] at dropped
  rw [directoryOf_eq noSlash text, names_eq, String.toList_ofList]
  split
  · rw [namesIn_append_slash, same]
    exact List.append_nil _
  · exact dropped

/-- The directory of a path begins like the path, and is not longer than the path without its last
name. -/
theorem directoryOf_join_begins {directory name : String} (noSlash : '/' ∉ name.toList)
    (present : directory ≠ "") :
    ∃ rest, (join directory name).toList = (directoryOf (join directory name)).toList ++ rest ∧
      name.toList.length ≤ rest.length := by
  obtain ⟨front, text, -, -⟩ := toList_join (isAbsolute_of_notMem noSlash) present
  obtain ⟨slashes, cut⟩ := List.dropWhile_suffix (· = '/') (l := front.reverse)
  rw [directoryOf_eq noSlash text, String.toList_ofList, text]
  split
  · exact ⟨name.toList, by rw [List.append_assoc]; rfl, Nat.le_refl _⟩
  · refine ⟨slashes.reverse ++ '/' :: name.toList, ?_, ?_⟩
    · rw [← List.append_assoc, ← List.reverse_append, cut, List.reverse_reverse]
    · rw [List.length_append, List.length_cons]
      omega

theorem length_directoryOf_join {directory name : String} (noSlash : '/' ∉ name.toList)
    (named : name ≠ "") (present : directory ≠ "") :
    (directoryOf (join directory name)).length < (join directory name).length := by
  obtain ⟨rest, begins, enough⟩ := directoryOf_join_begins noSlash present
  have some : name.toList ≠ [] := by simpa using named
  have positive := List.length_pos_iff.mpr some
  rw [← String.length_toList, ← String.length_toList, begins, List.length_append]
  omega

theorem lastName_join {directory name : String} (noSlash : '/' ∉ name.toList)
    (present : directory ≠ "") : lastName (join directory name) = name := by
  obtain ⟨front, text, -, -⟩ := toList_join (isAbsolute_of_notMem noSlash) present
  rw [lastName, text, List.reverse_append, List.reverse_cons, List.append_assoc,
    List.takeWhile_append_of_pos]
  · simp
  · intro c listed
    rw [List.mem_reverse] at listed
    exact decide_eq_true fun (same : c = '/') => noSlash (same ▸ listed)

/-- The names in the directory of a path are the first ones in the path. -/
theorem names_directoryOf_prefix (path : String) : names (directoryOf path) <+: names path := by
  by_cases slash : '/' ∈ path.toList.reverse
  · obtain ⟨last, front, split, noSlash⟩ := List.eq_append_cons_of_mem slash
    have whole : path.toList = front.reverse ++ '/' :: last.reverse := by
      have := congrArg List.reverse split
      simpa using this
    have dropped := namesIn_dropSlashes front
    rw [directoryOf_eq (by simpa using noSlash) whole, List.reverse_reverse, names_eq,
      String.toList_ofList, names_eq path, whole, namesIn_append_slash]
    split
    · rw [namesIn_append_slash]
      exact List.prefix_append_right_inj _ |>.mpr (List.nil_prefix)
    · rw [dropped]
      exact List.prefix_append _ _
  · have all : ∀ c ∈ path.toList.reverse, decide (c ≠ '/') = true :=
      fun c listed => decide_eq_true fun same => slash (same ▸ listed)
    have none : (path.toList.reverse ++ []).dropWhile (fun c => decide (c ≠ '/')) = [] :=
      List.dropWhile_append_of_pos all
    rw [List.append_nil] at none
    have empty : directoryOf path = "" := by
      rw [directoryOf, none]
      rfl
    rw [empty]
    exact List.nil_prefix

end CounterArchive.Path
