import CounterArchive.Proofs.Archive.Activity
import CounterArchive.Proofs.Collector

/-! What becomes of counters, collectors and settings in an activity. Counters are changed in their
places and new ones are added, but none is lost; the settings stay, and so does the switch that
disables the storage. -/
namespace CounterArchive

namespace Registry

variable {α : Type} {rel : α → α → Prop} {r s t : Registry α}

/-- All values that were known still are, and each has become one that is related to it. -/
def Becomes (rel : α → α → Prop) (r s : Registry α) : Prop :=
  ∀ id old, r.get? id = some old → ∃ new, s.get? id = some new ∧ rel old new

namespace Becomes

theorem refl (same : ∀ value, rel value value) (r : Registry α) : r.Becomes rel r :=
  fun _ old known => ⟨old, known, same old⟩

theorem register (same : ∀ value, rel value value) (r : Registry α) (value : α) :
    r.Becomes rel (r.register value).1 :=
  fun _ old known => ⟨old, get?_register_of_some value known, same old⟩

theorem registerAll (same : ∀ value, rel value value) (r : Registry α) (values : List α) :
    r.Becomes rel (r.registerAll values).1 :=
  fun id old known => ⟨old, (registerAll_spec r values).2.2 id old known, same old⟩

theorem update (same : ∀ value, rel value value) (r : Registry α) (id : Id α) {change : α → α}
    (changed : ∀ value, rel value (change value)) : r.Becomes rel (r.update id change) := by
  intro other old known
  by_cases here : id = other
  · subst here
    exact ⟨change old, by rw [get?_update_self, known, Option.map_some], changed old⟩
  · exact ⟨old, by rw [get?_update_of_ne r change here, known], same old⟩

theorem trans (first : r.Becomes Eq s) (second : s.Becomes rel t) : r.Becomes rel t := by
  intro id old known
  obtain ⟨value, kept, rfl⟩ := first id old known
  exact second id old kept

theorem weaken (same : ∀ value, rel value value) (kept : r.Becomes Eq s) : r.Becomes rel s := by
  intro id old known
  obtain ⟨value, found, rfl⟩ := kept id old known
  exact ⟨old, found, same old⟩

theorem kept (same : r.Becomes Eq s) {id : Id α} {value : α} (known : r.get? id = some value) :
    s.get? id = some value := by
  obtain ⟨other, found, rfl⟩ := same id value known
  exact found

end Becomes

end Registry

namespace Collector

variable {c : Collector} {r s : Registry Counter} {rel : Counter → Counter → Prop}

theorem Registered.becomes (registered : c.Registered r) (grown : r.Becomes rel s) :
    c.Registered s := by
  intro id listed
  obtain ⟨counter, known⟩ := registered id listed
  obtain ⟨now, kept, -⟩ := grown id counter known
  exact ⟨now, kept⟩

theorem Registered.insert (registered : c.Registered r) (name : String) (counter : Counter) :
    Registered { c with entries := c.entries.insert name (r.register counter).2 }
      (r.register counter).1 := by
  intro id listed
  obtain ⟨entry, member, rfl⟩ := List.mem_map.mp listed
  rcases mem_putEntry member with rfl | old
  · exact ⟨counter, Registry.get?_register_self r counter⟩
  · obtain ⟨value, known⟩ := registered entry.2 (List.mem_map_of_mem old)
    exact ⟨value, Registry.get?_register_of_some counter known⟩

end Collector

namespace World

def Closed (w : World) : Prop :=
  ∀ k c, w.collectors.get? k = some c → c.Registered w.counters

theorem Closed.becomes {w v : World} {rel : Counter → Counter → Prop} (closed : w.Closed)
    (grown : w.counters.Becomes rel v.counters)
    (new : ∀ k c, v.collectors.get? k = some c →
      w.collectors.get? k = some c ∨ c.Registered v.counters) : v.Closed := by
  intro k c known
  rcases new k c known with old | registered
  · exact (closed k c old).becomes grown
  · exact registered

variable (w : World)

/-- Restoring adds counters and tells of it. -/
theorem restoreEntries_adds (c : Collector) (count : Nat)
    (entries : List (String × Registry.Id Counter)) :
    ∃ counters, (Collector.restoreEntries w c count entries).1 = { w with counters } ∧
      w.counters.Becomes Eq counters ∧ (c.Registered w.counters →
        (Collector.restoreEntries w c count entries).2.1.Registered counters) := by
  induction entries generalizing w c count with
  | nil => exact ⟨w.counters, rfl, .refl (fun _ => rfl) _, id⟩
  | cons entry rest ih =>
    unfold Collector.restoreEntries
    split
    · exact ⟨w.counters, rfl, .refl (fun _ => rfl) _, id⟩
    · split
      · exact ⟨w.counters, rfl, .refl (fun _ => rfl) _, id⟩
      · exact ih w c count
      · rename_i stored _
        obtain ⟨counters, same, grown, known⟩ :=
          ih { w with counters := (w.counters.register stored).1 }
            { c with entries := c.entries.insert entry.1 (w.counters.register stored).2 } (count + 1)
        exact ⟨counters, same, (Registry.Becomes.register (fun _ => rfl) _ stored).trans grown,
          fun registered => known (registered.insert entry.1 stored)⟩

theorem restore_adds (c : Collector) :
    ∃ counters log, (c.restore w).1 = { w with counters, log } ∧
      w.counters.Becomes Eq counters ∧
      (c.Registered w.counters → (c.restore w).2.1.Registered counters) := by
  obtain ⟨counters, same, grown, known⟩ := restoreEntries_adds w c 0 c.entries.entries
  unfold Collector.restore
  split
  · rename_i restored
    rw [restored] at same known
    change _ = _ at same
    subst same
    split
    · exact ⟨counters, w.log, rfl, grown, known⟩
    · exact ⟨counters, _, rfl, grown, known⟩
  · exact ⟨counters, w.log, same, grown, known⟩

theorem restoreNew_adds (c : Collector) :
    ∃ counters log, (w.restoreNew c).1 = { w with counters, log } ∧
      w.counters.Becomes Eq counters ∧
      (c.Registered w.counters → (w.restoreNew c).2.1.Registered counters) := by
  unfold restoreNew
  split
  · exact ⟨w.counters, _, rfl, .refl (fun _ => rfl) _, id⟩
  · exact restore_adds w c

theorem counterIds_adds {w v : World} {application : String}
    {given : Option (List (Registry.Id Counter))} {ids : List (Registry.Id Counter)}
    (taken : w.counterIds application given = .ok (v, ids)) :
    ∃ counters, v = { w with counters } ∧ w.counters.Becomes Eq counters := by
  unfold counterIds at taken
  split at taken
  · cases taken
    exact ⟨w.counters, rfl, .refl (fun _ => rfl) _⟩
  · split at taken
    · cases taken
    · rename_i now _
      cases taken
      exact ⟨_, rfl, .registerAll (fun _ => rfl) w.counters
        (defaultCounters.map fun name => Counter.fresh name application now)⟩

/-- The start of an agent adds counters and a collector and tells of it. -/
theorem startAgent_adds (application : Option String)
    (given : Option (List (Registry.Id Counter))) :
    ∃ counters collectors log,
      (w.startAgent application given).1 = { w with counters, collectors, log } ∧
        w.counters.Becomes Eq counters ∧ w.collectors.Becomes Eq collectors ∧
        ∀ k c, collectors.get? k = some c →
          w.collectors.get? k = some c ∨ c.Registered counters := by
  have unchanged := Registry.Becomes.refl (fun _ => rfl) w.counters
  have uncollected := Registry.Becomes.refl (fun _ => rfl) w.collectors
  unfold startAgent
  dsimp only
  split
  · exact ⟨w.counters, w.collectors, w.log, rfl, unchanged, uncollected, fun _ _ => .inl⟩
  · split
    · exact ⟨w.counters, w.collectors, w.log, rfl, unchanged, uncollected, fun _ _ => .inl⟩
    · rename_i taken
      obtain ⟨counters, rfl, grown⟩ := counterIds_adds taken
      split
      · exact ⟨counters, w.collectors, w.log, rfl, grown, uncollected, fun _ _ => .inl⟩
      · rename_i c made
        obtain ⟨more, log, same, grownMore, known⟩ := restoreNew_adds { w with counters } c
        have registered := known (Collector.registered_of made)
        split
        · rename_i failed
          rw [failed] at same
          exact ⟨more, w.collectors, log, same, grown.trans grownMore, uncollected,
            fun _ _ => .inl⟩
        · rename_i held _ restored
          rw [restored] at same registered
          change _ = _ at same
          subst same
          have kept := Registry.Becomes.register (fun _ => rfl) w.collectors held
          have new : ∀ k c, (w.collectors.register held).1.get? k = some c →
              w.collectors.get? k = some c ∨ c.Registered more := by
            intro k other found
            rcases Registry.eq_of_get?_register found with old | rfl
            · exact .inl old
            · exact .inr registered
          split
          · exact ⟨more, _, log, rfl, grown.trans grownMore, kept, new⟩
          · exact ⟨more, _, _, rfl, grown.trans grownMore, kept, new⟩

structure Uses (rel : Counter → Counter → Prop) : Prop where
  same : ∀ c, rel c c
  addHits : ∀ c request duration systemError, rel c (c.addHits request duration systemError)
  addError : ∀ c incident, rel c (c.addError incident)
  forget : ∀ c, rel c c.forget
  clear : ∀ c now, rel c (c.clear now)

def Assigns (rel : Counter → Counter → Prop) : Activity → Prop
  | .operate (.assign _ change) => ∀ c, rel c (change c)
  | _ => True

def IsCounted : Activity → Prop
  | .operate (.writeAll _) => True
  | .purgeAll .. => True
  | .runJob .. => True
  | _ => False

theorem uses_any : Uses fun _ _ => True :=
  ⟨fun _ => trivial, fun _ _ _ _ => trivial, fun _ _ => trivial, fun _ => trivial,
    fun _ _ => trivial⟩

theorem assigns_any (a : Activity) : Assigns (fun _ _ => True) a := by
  unfold Assigns
  split
  · exact fun _ => trivial
  · trivial

/-- What an activity makes of a world: the settings stay, and what is disabled remains so; no
counter is lost, and those in collectors are known; a collector changes when it is restored, and
figures when something is counted. -/
structure Effect (a : Activity) (w v : World) : Prop where
  settings : v.settings = w.settings
  disabled : w.disabled = true → v.disabled = true
  counters : ∀ {rel}, Uses rel → Assigns rel a → w.counters.Becomes rel v.counters
  collectors : ∀ {k c}, w.collectors.get? k = some c → a ≠ .operate (.restore k) →
    v.collectors.get? k = some c
  closed : w.Closed → v.Closed
  metrics : ¬ IsCounted a → v.metrics = w.metrics

namespace Effect

variable {w v : World} {a : Activity}

theorem none (a : Activity) (w : World) : Effect a w w where
  settings := rfl
  disabled off := off
  counters uses _ := .refl uses.same _
  collectors known _ := known
  closed before := before
  metrics _ := rfl

theorem of_untouched (untouched : w.Untouched v) : Effect a w v where
  settings := untouched.settings
  disabled off := by rw [untouched.disabled, off]
  counters uses _ := by
    rw [untouched.counters]
    exact .refl uses.same _
  collectors known _ := by rw [untouched.collectors, known]
  closed before := by
    rw [Closed, untouched.counters, untouched.collectors]
    exact before
  metrics _ := untouched.metrics

theorem of_counted (same : w.SameBesidesFiles v) (counted : IsCounted a) : Effect a w v where
  settings := same.settings
  disabled off := by rw [same.disabled, off]
  counters uses _ := by
    rw [same.counters]
    exact .refl uses.same _
  collectors known _ := by rw [same.collectors, known]
  closed before := by
    rw [Closed, same.counters, same.collectors]
    exact before
  metrics uncounted := absurd counted uncounted

theorem of_counters {counters : Registry Counter}
    (become : ∀ {rel}, Uses rel → Assigns rel a → w.counters.Becomes rel counters) :
    Effect a w { w with counters } where
  settings := rfl
  disabled off := off
  counters := become
  collectors known _ := known
  closed before := before.becomes (become uses_any (assigns_any a)) fun _ _ => .inl
  metrics _ := rfl

theorem of_adds {counters : Registry Counter} {collectors : Registry Collector} {log : List Event}
    (grown : w.counters.Becomes Eq counters) (more : w.collectors.Becomes Eq collectors)
    (new : ∀ k c, collectors.get? k = some c →
      w.collectors.get? k = some c ∨ c.Registered counters) :
    Effect a w { w with counters, collectors, log } where
  settings := rfl
  disabled off := off
  counters uses _ := grown.weaken uses.same
  collectors known _ := more.kept known
  closed before := before.becomes grown new
  metrics _ := rfl

end Effect

theorem effect_operate (operation : Operation) :
    Effect (.operate operation) w (w.operate operation).1 := by
  cases operation with
  | make counter => exact .of_counters fun uses _ => .register uses.same _ counter
  | addHits id request duration systemError =>
    exact .of_counters fun uses _ =>
      .update uses.same _ id fun c => uses.addHits c request duration systemError
  | addError id message requestName remoteUser =>
    simp only [operate, addError]
    split
    · exact .none _ w
    · exact .of_counters fun uses _ => .update uses.same _ id fun c => uses.addError c _
  | clear id =>
    simp only [operate, clear]
    split
    · exact .of_counters fun uses _ => .update uses.same _ id uses.forget
    · exact .of_counters fun uses _ => .update uses.same _ id fun c => uses.clear c _
  | assign id change => exact .of_counters fun uses assigns => .update uses.same _ id assigns
  | write id =>
    rw [operate]
    split
    · exact .none _ w
    · exact .of_untouched (untouched_write w _)
  | readCounter id =>
    rw [operate]
    split <;> exact .none _ w
  | gather application ids metrics =>
    rw [operate]
    split
    · exact .none _ w
    · rename_i made
      refine .of_adds (.refl (fun _ => rfl) _) (.register (fun _ => rfl) _ _) ?_
      intro k c found
      rcases Registry.eq_of_get?_register found with old | rfl
      · exact .inl old
      · exact .inr (Collector.registered_of made)
  | restore k =>
    rw [operate]
    split
    · exact .none _ w
    · rename_i c known
      obtain ⟨counters, log, same, grown, registered⟩ := restore_adds w c
      simp only [same]
      refine ⟨rfl, fun off => off, fun uses _ => grown.weaken uses.same, ?_, ?_, fun _ => rfl⟩
      · intro j held found other
        have different : k ≠ j := fun same => other (by rw [same])
        rw [Registry.get?_update_of_ne _ _ different]
        exact found
      · intro before
        apply before.becomes grown
        intro j held found
        by_cases here : k = j
        · subst here
          rw [Registry.get?_update_self, known] at found
          cases found
          exact .inr (registered (before k c known))
        · rw [Registry.get?_update_of_ne _ _ here] at found
          exact .inl found
  | writeAll k =>
    rw [operate]
    split
    · exact .none _ w
    · exact .of_counted (sameBesidesFiles_writeAll w _) trivial
  | purge d application now => exact .of_untouched (untouched_purge w d application now)
  | touch application stored modified => exact .of_untouched (untouched_touch w _ modified)
  | read application stored => exact .none _ w
  | disable =>
    exact ⟨rfl, fun _ => rfl, fun uses _ => .refl uses.same _, fun known _ => known,
      fun before => before, fun _ => rfl⟩
  | setClock micros =>
    exact ⟨rfl, fun off => off, fun uses _ => .refl uses.same _, fun known _ => known,
      fun before => before, fun _ => rfl⟩

theorem effect_carryOut (a : Activity) : Effect a w (w.carryOut a).1 := by
  cases a with
  | operate operation => exact effect_operate w operation
  | find k stored => exact .none _ w
  | purgeAll k d => exact .of_counted (sameBesidesFiles_purgeAll w d k) trivial
  | startAgent application given =>
    obtain ⟨counters, collectors, log, same, grown, more, new⟩ := startAgent_adds w application given
    change Effect _ w (w.startAgent application given).1
    rw [same]
    exact .of_adds grown more new
  | startCleaner k channel => exact .none _ w
  | runJob s job d => exact .of_counted (sameBesidesFiles_runJob w d s job) trivial

/-! Whole runs -/

theorem settings_carryOutAll (w : World) (run : List Activity) :
    (w.carryOutAll run).1.settings = w.settings := by
  induction run generalizing w with
  | nil => rfl
  | cons a rest ih => exact (ih _).trans (effect_carryOut w a).settings

theorem disabled_carryOutAll {w : World} (disabled : w.disabled = true) (run : List Activity) :
    (w.carryOutAll run).1.disabled = true := by
  induction run generalizing w with
  | nil => exact disabled
  | cons a rest ih => exact ih ((effect_carryOut w a).disabled disabled)

theorem closed_carryOutAll {w : World} (closed : w.Closed) (run : List Activity) :
    (w.carryOutAll run).1.Closed := by
  induction run generalizing w with
  | nil => exact closed
  | cons a rest ih => exact ih ((effect_carryOut w a).closed closed)

/-- In all that becomes of a started world, the counters in collectors are known. -/
theorem closed_start (host : Host) (clock : Clock) (settings : Settings) (run : List Activity) :
    ((start host clock settings).carryOutAll run).1.Closed := by
  apply closed_carryOutAll
  intro k c known
  have nothing : (start host clock settings).collectors.get? k = none := rfl
  rw [nothing] at known
  cases known

end World

end CounterArchive
