import CounterArchive.Proofs.Archive.Restart
import CounterArchive.Proofs.Counter.Uses

/-! Restarts cannot be noticed. A session is played next to the same session without its restarts,
and under each name both hold counters that are alike at every moment. -/
namespace Option.Rel

variable {α β γ δ : Type} {x : Option α} {y : Option β} {z : Option γ} {r : α → β → Prop}

theorem mapBoth {f : α → γ} {g : β → δ} {s : γ → δ → Prop} (related : Rel r x y)
    (step : ∀ a b, r a b → s (f a) (g b)) : Rel s (x.map f) (y.map g) := by
  cases related with
  | none => exact .none
  | some one => exact .some (step _ _ one)

theorem through {q : β → γ → Prop} {s : α → γ → Prop} (first : Rel r x y) (second : Rel q y z)
    (step : ∀ a b c, b ∈ y → r a b → q b c → s a c) : Rel s x z := by
  cases first with
  | none =>
    cases second
    exact .none
  | some one =>
    cases second with
    | some other => exact .some (step _ _ _ (Option.mem_some_self _) one other)

end Option.Rel

namespace CounterArchive

namespace Counter

namespace Alike

variable {dated : Prop} {a b : Counter}

theorem refl (dated : Prop) (a : Counter) : Alike dated a a := ⟨rfl, rfl, fun _ => rfl⟩

theorem trans {c : Counter} (first : Alike dated a b) (second : Alike dated b c) :
    Alike dated a c :=
  ⟨first.requests.trans second.requests, first.errors.trans second.errors,
    fun known => (first.startDate known).trans (second.startDate known)⟩

/-- What came back is alike, at least if an unused counter was stored. -/
theorem of_returned {missing : Prop} (returned : Returned missing a b)
    (kept : dated → a.isUnused = false ∨ ¬ missing) : Alike dated a b := by
  rcases returned.same with rfl | ⟨idle, idleAgain, absent⟩
  · exact refl dated b
  · obtain ⟨requests, errors⟩ := a.isUnused_iff.mp idle
    obtain ⟨requestsAgain, errorsAgain⟩ := b.isUnused_iff.mp idleAgain
    refine ⟨requests.trans requestsAgain.symm, errors.trans errorsAgain.symm, ?_⟩
    intro known
    rcases kept known with used | present
    · rw [idle] at used
      cases used
    · exact absurd absent present

end Alike

/-- A change that leaves a counter in its place and does the same to counters that are alike. -/
structure Steady (change : Counter → Counter) : Prop where
  application : ∀ c, (change c).application = c.application
  storedAs : ∀ c, (change c).storedAs = c.storedAs
  alike : ∀ dated a b, Alike dated a b → Alike dated (change a) (change b)

theorem steady_addHits (request : String) (duration : Int) (systemError : Bool) :
    Steady (·.addHits request duration systemError) := by
  constructor
  case application => exact fun _ => rfl
  case storedAs => exact fun _ => rfl
  case alike =>
    intro dated a b alike
    refine ⟨?_, alike.errors, alike.startDate⟩
    simp only [addHits, alike.requests]

theorem steady_addErrorAt (now? : Option DateTime) (incident : DateTime → Incident) :
    Steady (·.addErrorAt now? incident) := by
  cases now? with
  | none => exact ⟨fun _ => rfl, fun _ => rfl, fun _ _ _ alike => alike⟩
  | some now =>
    constructor
    case application => exact fun _ => rfl
    case storedAs => exact fun _ => rfl
    case alike =>
      intro dated a b alike
      refine ⟨alike.requests, ?_, alike.startDate⟩
      simp only [addErrorAt, addError, alike.errors]

theorem steady_clearAt (now? : Option DateTime) : Steady (·.clearAt now?) := by
  cases now? with
  | none => exact ⟨fun _ => rfl, fun _ => rfl, fun _ _ _ alike => ⟨rfl, rfl, alike.startDate⟩⟩
  | some now => exact ⟨fun _ => rfl, fun _ => rfl, fun _ _ _ _ => ⟨rfl, rfl, fun _ => rfl⟩⟩

end Counter

/-- A counter is held under one name. -/
theorem Collector.Holds.name_eq {registry : Registry Counter} {c : Collector}
    (holds : c.Holds registry) {first second : String} {id : Registry.Id Counter}
    (one : c.get? first = some id) (other : c.get? second = some id) : first = second := by
  obtain ⟨a, known, -, named⟩ := holds first id one
  obtain ⟨b, knownToo, -, namedToo⟩ := holds second id other
  rw [known] at knownToo
  cases knownToo
  exact named.symm.trans namedToo

theorem Collector.FreshFor.of_names {c d : Collector} {fresh : List Counter}
    (suited : c.FreshFor fresh) (same : d.application = c.application)
    (names : ∀ stored, d.get? stored = none ↔ c.get? stored = none) : d.FreshFor fresh := by
  refine ⟨suited.unused, ?_, ?_⟩
  · rw [same]
    exact suited.own
  · intro stored
    rw [names stored]
    exact suited.names stored

theorem World.clock_changeHeld (w : World) (k : Registry.Id Collector) (stored : String)
    (change : Counter → Counter) : (w.changeHeld k stored change).clock = w.clock := by
  unfold changeHeld
  split <;> rfl

namespace InSession

variable {base : Location} {w : World} {l : Ledger} {k : Registry.Id Collector} {c : Collector}

theorem setClock (session : InSession base w l k c) (clock : Clock) :
    InSession base { w with clock } { l with clock } k c := by
  have refines := session.refines
  exact ⟨⟨rfl, refines.retention, refines.disabled, refines.counters, refines.collectors,
    refines.stock, refines.storable⟩, session.enabled, session.retention, session.found,
    session.holds, session.plain, session.plainNames⟩

/-- The counter under one name changes, and under other names nothing does. -/
theorem changeHeld (session : InSession base w l k c) (stored : String)
    {change : Counter → Counter} (steady : Counter.Steady change) :
    ∃ m, InSession base (w.changeHeld k stored change) m k c ∧
      ∀ s, (w.changeHeld k stored change).held? k s =
        if s = stored then (w.held? k s).map change else w.held? k s := by
  have found : (w.collectors.get? k).bind (·.get? stored) = c.get? stored := by
    rw [session.refines.collectors, session.found]
    rfl
  rw [World.changeHeld, found]
  cases held : c.get? stored with
  | none =>
    dsimp only
    refine ⟨l, session, ?_⟩
    intro s
    split
    · rename_i same
      rw [same, session.held?_eq, held]
      rfl
    · rfl
  | some id =>
    dsimp only
    have counters := congrArg (fun all => all.update id change) session.refines.counters
    have after : InSession base { w with counters := w.counters.update id change }
        { l with counters := l.counters.update id change } k c := by
      constructor
      case refines =>
        have refines := session.refines
        exact ⟨refines.clock, refines.retention, refines.disabled, counters, refines.collectors,
          refines.stock, refines.storable⟩
      case enabled => exact session.enabled
      case retention => exact session.retention
      case found => exact session.found
      case holds =>
        intro s other member
        obtain ⟨counter, known, own, named⟩ := session.holds s other member
        by_cases same : id = other
        · subst same
          refine ⟨change counter, ?_, (steady.application counter).trans own,
            (steady.storedAs counter).trans named⟩
          rw [Registry.get?_update_self, known]
          rfl
        · refine ⟨counter, ?_, own, named⟩
          rw [Registry.get?_update_of_ne l.counters change same]
          exact known
      case plain => exact session.plain
      case plainNames => exact session.plainNames
    refine ⟨_, after, ?_⟩
    intro s
    rw [after.held?_eq, session.held?_eq]
    by_cases here : s = stored
    · rw [if_pos here, here, held]
      exact Registry.get?_update_self l.counters id change
    · rw [if_neg here]
      cases member : c.get? s with
      | none => rfl
      | some other =>
        have different : id ≠ other := by
          rintro rfl
          exact here (session.holds.name_eq member held)
        exact Registry.get?_update_of_ne l.counters change different

theorem isPresent_eq (session : InSession base w l k c) {stored : String} {a : Counter}
    (held : w.held? k stored = some a) :
    w.files.isPresent (w.settings.snapshotPath a.application stored) =
      (l.shelf c.application stored).isSome := by
  rw [session.held?_eq] at held
  obtain ⟨id, member, known⟩ := Option.bind_eq_some_iff.mp held
  obtain ⟨counter, there, own, -⟩ := session.holds stored id member
  rw [known] at there
  cases there
  rw [own]
  exact session.refines.stock.isPresent_snapshotPath session.plain
    (session.plainNames stored id member)

end InSession

/-- Two sessions next to each other, of which the second one holds its counters in a collector that
may be another one after each restart. -/
structure Abreast (base : Location) (dated : String → Prop) (u w : World)
    (i k : Registry.Id Collector) (c : Collector) : Prop where
  through : ∃ l d, InSession base u l i d
  restarted : ∃ l, InSession base w l k c
  clock : u.clock = w.clock
  alike : ∀ stored,
    Option.Rel (Counter.Alike (dated stored)) (u.held? i stored) (w.held? k stored)

namespace Abreast

variable {base : Location} {dated : String → Prop} {u w : World} {i k : Registry.Id Collector}
  {c : Collector}

theorem changeHeld (abreast : Abreast base dated u w i k c) (stored : String)
    {change : Counter → Counter} (steady : Counter.Steady change) :
    Abreast base dated (u.changeHeld i stored change) (w.changeHeld k stored change) i k c := by
  obtain ⟨l, d, through⟩ := abreast.through
  obtain ⟨m, restarted⟩ := abreast.restarted
  obtain ⟨l, through, held⟩ := through.changeHeld stored steady
  obtain ⟨m, restarted, heldToo⟩ := restarted.changeHeld stored steady
  refine ⟨⟨l, d, through⟩, ⟨m, restarted⟩, ?_, ?_⟩
  · rw [u.clock_changeHeld, w.clock_changeHeld]
    exact abreast.clock
  · intro s
    rw [held s, heldToo s]
    split
    · exact (abreast.alike s).mapBoth (steady.alike (dated s))
    · exact abreast.alike s

theorem act (abreast : Abreast base dated u w i k c) {a : Act} (calm : a.isRestart = false) :
    ∃ u' w', u.act i a = .ok (u', i) ∧ w.act k a = .ok (w', k) ∧
      Abreast base dated u' w' i k c := by
  cases a with
  | setClock clock =>
    obtain ⟨l, d, through⟩ := abreast.through
    obtain ⟨m, restarted⟩ := abreast.restarted
    exact ⟨_, _, rfl, rfl, ⟨_, d, through.setClock clock⟩, ⟨_, restarted.setClock clock⟩, rfl,
      abreast.alike⟩
  | addHits stored request duration systemError =>
    exact ⟨_, _, rfl, rfl,
      abreast.changeHeld stored (Counter.steady_addHits request duration systemError)⟩
  | addError stored message requestName remoteUser =>
    refine ⟨_, _, rfl, rfl, ?_⟩
    rw [abreast.clock]
    exact abreast.changeHeld stored (Counter.steady_addErrorAt w.clock.now? _)
  | clear stored =>
    refine ⟨_, _, rfl, rfl, ?_⟩
    rw [abreast.clock]
    exact abreast.changeHeld stored (Counter.steady_clearAt w.clock.now?)
  | restart fresh => cases calm

/-- A restart of the second session keeps it abreast of the first one. -/
theorem restart (abreast : Abreast base dated u w i k c) (ready : w.Restartable k)
    (kept : ∀ stored, dated stored → w.HeldKept stored k) {fresh : List Counter}
    (suited : c.FreshFor fresh) :
    ∃ w' j d, w.restart k fresh = .ok (w', j) ∧ Abreast base dated u w' i j d ∧
      d.application = c.application ∧ ∀ stored, d.get? stored = none ↔ c.get? stored = none := by
  obtain ⟨l, session⟩ := abreast.restarted
  obtain ⟨w', m, j, d, restarted, after, clock, same, names, returned⟩ :=
    session.restart ready suited
  have still : w'.clock = w.clock := by
    rw [after.refines.clock, clock, session.refines.clock]
  refine ⟨w', j, d, restarted, ⟨abreast.through, ⟨m, after⟩, ?_, ?_⟩, same, names⟩
  · rw [still]
    exact abreast.clock
  · intro stored
    refine (abreast.alike stored).through (returned stored) ?_
    intro a b b' held alike back
    refine alike.trans (.of_returned back ?_)
    intro known
    rcases kept stored known b held with used | present
    · exact .inl used
    · right
      rw [session.isPresent_eq held] at present
      intro missing
      rw [missing] at present
      cases present

/-- The induction is on the acts. A restart is skipped on the one side, and carried out on the
other. -/
theorem play (abreast : Abreast base dated u w i k c) {acts : List Act}
    (ready : w.AtRestarts World.Restartable k acts)
    (kept : ∀ stored, dated stored → w.AtRestarts (World.HeldKept stored) k acts)
    (suited : ∀ fresh, .restart fresh ∈ acts → c.FreshFor fresh) :
    ∃ u' i' w' k', u.play i (acts.filter fun a => !a.isRestart) = .ok (u', i') ∧
      w.play k acts = .ok (w', k') ∧
      ∀ stored,
        Option.Rel (Counter.Alike (dated stored)) (u'.held? i' stored) (w'.held? k' stored) := by
  induction acts generalizing u w k c with
  | nil => exact ⟨u, i, w, k, rfl, rfl, abreast.alike⟩
  | cons a rest ih =>
    obtain ⟨readyFirst, readyRest⟩ := ready
    have suitedRest : ∀ fresh, .restart fresh ∈ rest → c.FreshFor fresh :=
      fun fresh listed => suited fresh (List.mem_cons_of_mem _ listed)
    cases calm : a.isRestart with
    | false =>
      obtain ⟨v, x, through, restarted, after⟩ := abreast.act calm
      rw [restarted] at readyRest
      have keptRest : ∀ stored, dated stored → x.AtRestarts (World.HeldKept stored) k rest := by
        intro stored known
        have later := (kept stored known).2
        rw [restarted] at later
        exact later
      obtain ⟨u', i', w', k', playedThrough, played, alike⟩ := ih after readyRest keptRest suitedRest
      refine ⟨u', i', w', k', ?_, ?_, alike⟩
      · rw [List.filter_cons_of_pos (by rw [calm]; rfl), World.play, through]
        exact playedThrough
      · rw [World.play, restarted]
        exact played
    | true =>
      obtain ⟨fresh, rfl⟩ : ∃ fresh, a = .restart fresh := by
        cases a with
        | restart fresh => exact ⟨fresh, rfl⟩
        | _ => cases calm
      obtain ⟨x, j, d, restarted, after, same, names⟩ :=
        abreast.restart (readyFirst calm) (fun stored known => (kept stored known).1 calm)
          (suited fresh (List.mem_cons_self ..))
      change w.act k (.restart fresh) = .ok (x, j) at restarted
      rw [restarted] at readyRest
      have keptRest : ∀ stored, dated stored → x.AtRestarts (World.HeldKept stored) j rest := by
        intro stored known
        have later := (kept stored known).2
        rw [restarted] at later
        exact later
      obtain ⟨u', i', w', k', playedThrough, played, alike⟩ := ih after readyRest keptRest
        fun fresh listed => (suitedRest fresh listed).of_names same names
      refine ⟨u', i', w', k', ?_, ?_, alike⟩
      · rw [List.filter_cons_of_neg (by rw [calm]; exact Bool.false_ne_true)]
        exact playedThrough
      · rw [World.play, restarted]
        exact played

end Abreast

/-- Whatever is done with the counters of an application, in a storage that was empty, restarts in
between make no difference: they go well, and in the end each counter has the requests and the
errors that it has without them. It also has the same date if it was used or stored at each
restart. -/
theorem play_restarts_transparent {base : Location} {w : World} {k : Registry.Id Collector}
    {c : Collector} (bare : Bare w.settings base w.files) (enabled : w.disabled = false)
    (retention : ∃ days, Retention.days w.settings.retention = .ok days)
    (found : w.collectors.get? k = some c) (holds : c.Holds w.counters)
    (plain : PlainApplication c.application)
    (plainNames : ∀ stored id, c.get? stored = some id → PlainStored stored) {acts : List Act}
    (suited : ∀ fresh, .restart fresh ∈ acts → c.FreshFor fresh)
    (ready : w.AtRestarts World.Restartable k acts) :
    ∃ u i v j, w.play k (acts.filter fun a => !a.isRestart) = .ok (u, i) ∧
      w.play k acts = .ok (v, j) ∧
      ∀ stored, Option.Rel (Counter.Alike (w.AtRestarts (World.HeldKept stored) k acts))
        (u.held? i stored) (v.held? j stored) := by
  have session : InSession base w (Ledger.of w) k c :=
    ⟨bare.refines, enabled, retention, found, holds, plain, plainNames⟩
  have abreast : Abreast base (fun stored => w.AtRestarts (World.HeldKept stored) k acts) w w k k
      c := by
    refine ⟨⟨_, c, session⟩, ⟨_, session⟩, rfl, ?_⟩
    intro stored
    cases w.held? k stored with
    | none => exact .none
    | some a => exact .some (.refl _ a)
  exact abreast.play ready (fun _ known => known) suited

def Collector.shop : Collector := ⟨"shop", none, Table.empty.insert "http" ⟨0⟩⟩

def World.serving : World :=
  { World.initial with
    counters := (World.initial.counters.register .idle).1
    collectors := (World.initial.collectors.register .shop).1 }

theorem Collector.get?_shop {stored : String} {id : Registry.Id Counter}
    (found : Collector.shop.get? stored = some id) : stored = "http" ∧ id = ⟨0⟩ := by
  change (Table.empty.insert "http" ⟨0⟩).get? stored = some id at found
  rw [Table.get?_insert] at found
  split at found
  · cases found
    exact ⟨‹_›, rfl⟩
  · cases found

theorem Collector.holds_shop : Collector.shop.Holds World.serving.counters := by
  intro stored id found
  obtain ⟨rfl, rfl⟩ := get?_shop found
  exact ⟨.idle, rfl, rfl, rfl⟩

theorem Collector.plainNames_shop (stored : String) (id : Registry.Id Counter)
    (found : Collector.shop.get? stored = some id) : PlainStored stored := by
  rw [(get?_shop found).1]
  exact plain_http

theorem Collector.freshFor_shop : Collector.shop.FreshFor [.idle] := by
  constructor
  case unused => simp [Counter.idle, Counter.fresh, Counter.isUnused, Table.empty]
  case own => simp [Counter.idle, Counter.fresh, Collector.shop]
  case names =>
    intro stored
    change (Table.empty.insert "http" _).get? stored = none ↔ _
    rw [Table.get?_insert]
    simp [Counter.idle, Counter.fresh, Counter.storedAs, eq_comm]

theorem World.held?_serving {change : Counter → Counter} {stored : String} {c : Counter}
    (found : (serving.changeHeld ⟨0⟩ "http" change).held? ⟨0⟩ stored = some c) :
    c = change .idle := by
  change (Collector.shop.get? stored).bind
    (serving.counters.update ⟨0⟩ change).get? = some c at found
  obtain ⟨id, listed, known⟩ := Option.bind_eq_some_iff.mp found
  obtain ⟨-, rfl⟩ := Collector.get?_shop listed
  cases known
  rfl

theorem World.atRestarts_of_calm {holds : World → Registry.Id Collector → Prop} {w : World}
    {k : Registry.Id Collector} {acts : List Act} (calm : ∀ a ∈ acts, a.isRestart = false) :
    w.AtRestarts holds k acts := by
  induction acts generalizing w k with
  | nil => trivial
  | cons a rest ih =>
    refine ⟨?_, ?_⟩
    · intro restart
      rw [calm a (List.mem_cons_self ..)] at restart
      cases restart
    · split
      · trivial
      · exact ih fun b listed => calm b (List.mem_cons_of_mem _ listed)

theorem World.atRestarts_restart {holds : World → Registry.Id Collector → Prop} {w : World}
    {k : Registry.Id Collector} {fresh : List Counter} {rest : List Act} (before : holds w k)
    (calm : ∀ a ∈ rest, a.isRestart = false) : w.AtRestarts holds k (.restart fresh :: rest) := by
  refine ⟨fun _ => before, ?_⟩
  split
  · trivial
  · exact atRestarts_of_calm calm

/-- Hits before and after a restart are counted together. -/
theorem play_restarts_transparent_serving :
    ∃ v j c, World.serving.play ⟨0⟩ [.addHits "http" "GET /cart" 12 false, .restart [.idle],
        .addHits "http" "GET /cart" 30 true] = .ok (v, j) ∧ v.held? j "http" = some c ∧
      c.requests = (Counter.visited.addHits "GET /cart" 30 true).requests := by
  have suited : ∀ fresh, Act.restart fresh ∈ [Act.addHits "http" "GET /cart" 12 false,
      .restart [.idle], .addHits "http" "GET /cart" 30 true] → Collector.shop.FreshFor fresh := by
    intro fresh listed
    simp only [List.mem_cons, Act.restart.injEq, reduceCtorEq, List.not_mem_nil, false_or,
      or_false] at listed
    rw [listed]
    exact Collector.freshFor_shop
  have ready : World.serving.AtRestarts World.Restartable ⟨0⟩
      [.addHits "http" "GET /cart" 12 false, .restart [.idle],
        .addHits "http" "GET /cart" 30 true] := by
    refine And.intro (by rintro ⟨⟩) (World.atRestarts_restart ?_ (by decide))
    constructor
    case stamps => decide
    case fits =>
      intro stored c found
      rw [World.held?_serving found]
      exact fitsDigits_visited
    case whole =>
      intro stored c found
      rw [World.held?_serving found]
      exact whole_visited
    case jobs => exact fun _ => rfl
  obtain ⟨u, i, v, j, through, restarted, alike⟩ :=
    play_restarts_transparent (w := .serving) bare_initial rfl ⟨365, rfl⟩ rfl
      Collector.holds_shop plain_shop Collector.plainNames_shop suited ready
  cases through
  have pair := alike "http"
  cases after : v.held? j "http" with
  | none =>
    rw [after] at pair
    cases pair
  | some c =>
    rw [after] at pair
    cases pair with
    | some same => exact ⟨v, j, c, restarted, after, same.requests.symm⟩

theorem Counter.not_fitsDigits_addHits :
    ¬ (Counter.idle.addHits "GET /cart" (10 ^ Numeral.digitLimit) false).FitsDigits := by
  intro fits
  have integers (n : Int) :
      (Counter.idle.addHits "GET /cart" n false).integers = [0 + 1, 0 + n, 0 + 0] := rfl
  have sum := fits (0 + 10 ^ Numeral.digitLimit) (by simp [integers])
  have size (count : Nat) : ((10 : Int) ^ count).natAbs = 10 ^ count := Int.natAbs_pow 10 count
  rw [CounterArchive.FitsDigits, Int.zero_add, size] at sum
  exact Nat.lt_irrefl _ sum

theorem World.play_of_failed {w v : World} {k j : Registry.Id Collector} {a : Act}
    {fresh : List Counter} {failure : Failure} (acted : w.act k a = .ok (v, j))
    (failed : v.restart j fresh = .error failure) :
    w.play k [a, .restart fresh] = .error failure := by
  rw [play, acted]
  simp only [play, act, failed]

theorem World.startAgent_damaged {x : World} {id : Registry.Id Counter} {days : Int}
    {failure : Failure} (fresh : x.counters.get? id = some .idle) (enabled : x.disabled = false)
    (valid : Retention.days x.settings.retention = .ok days)
    (damaged : x.read "shop" "http" = .error failure) :
    ∃ w, x.startAgent (some "shop") (some [id]) = (w, .error failure) := by
  have taken : Collector.of x.counters "shop" [id] (some x.processMetrics) =
      .ok ⟨"shop", some x.processMetrics, Table.empty.insert "http" id⟩ := by
    rw [Collector.of, Collector.addAll, fresh]
    rfl
  have read : x.readCounter .idle = .error failure := damaged
  have entries : (Table.empty.insert "http" id).entries = [("http", id)] := rfl
  have on : ¬ x.disabled = true := by
    rw [enabled]
    exact Bool.false_ne_true
  refine ⟨x, ?_⟩
  simp only [startAgent, Option.getD_some, valid, counterIds, taken, restoreNew, if_neg on,
    Collector.restore, entries, Collector.restoreEntries, fresh, read]

theorem World.restart_shop_tooLong {base : Location} {w : World} {shelf : Shelf}
    {k : Registry.Id Collector} {c : Counter} {days : Int}
    (stock : Stocked w.settings base w.files shelf) (enabled : w.disabled = false)
    (valid : Retention.days w.settings.retention = .ok days)
    (found : w.collectors.get? k = some .shop) (known : w.counters.get? ⟨0⟩ = some c)
    (own : c.application = "shop") (named : c.storedAs = "http") (used : c.isUnused = false)
    (stamps : w.clock.Stamps) (tooLong : ¬ c.FitsDigits) :
    ∃ failure, w.restart k [.idle] = .error failure := by
  have plain : c.Plain := by
    rw [Counter.Plain, own, named]
    exact ⟨plain_shop, plain_http⟩
  obtain ⟨v, written, same, stockAfter⟩ := write_stocked stock plain enabled stamps (.inl used)
  have wrote : Collector.shop.writeAll w = (v, .ok (0 + (Snapshot.content c).length)) := by
    change Collector.shop.writeEntries w 0 [⟨0⟩] = _
    rw [Collector.writeEntries, known]
    simp only [written]
    rfl
  let x : World := { v with counters := (v.counters.register .idle).1 }
  have stocked : Stocked x.settings base x.files
      (shelf.set c.application c.storedAs (some (w.entryOf c))) := by
    change Stocked v.settings base v.files _
    rw [same.settings]
    exact stockAfter
  have kept : shelf.set c.application c.storedAs (some (w.entryOf c)) "shop" "http" =
      some (w.entryOf c) := if_pos ⟨own.symm, named.symm⟩
  obtain ⟨n, -, -, damaged⟩ :=
    read_tooLong stocked plain_shop plain_http (same.disabled.trans enabled) kept tooLong
  have validAfter : Retention.days x.settings.retention = .ok days := by
    change Retention.days v.settings.retention = .ok days
    rw [same.settings, valid]
  obtain ⟨u, failed⟩ := startAgent_damaged (x := x)
    (Registry.get?_register_self v.counters .idle) (same.disabled.trans enabled) validAfter damaged
  change ({ v with counters := (v.counters.registerAll [.idle]).1 } : World).startAgent
    (some Collector.shop.application) (some (v.counters.registerAll [.idle]).2) = _ at failed
  refine ⟨.damagedSnapshot (x.settings.snapshotPath "shop" "http")
    (.tooManyDigits (Json.digitCount n)), ?_⟩
  rw [restart, found]
  simp only [wrote, failed]

/-- A restart does not go well when a sum has become too long to be read back. -/
theorem play_restart_tooLong :
    ¬ ∀ (base : Location) (w : World) (k : Registry.Id Collector) (c : Collector),
      Bare w.settings base w.files → w.disabled = false →
      (∃ days, Retention.days w.settings.retention = .ok days) → w.collectors.get? k = some c →
      c.Holds w.counters → PlainApplication c.application →
      (∀ stored id, c.get? stored = some id → PlainStored stored) →
      ∀ acts : List Act, (∀ fresh, .restart fresh ∈ acts → c.FreshFor fresh) →
      ∃ u i v j, w.play k (acts.filter fun a => !a.isRestart) = .ok (u, i) ∧
        w.play k acts = .ok (v, j) ∧
        ∀ stored, Option.Rel (Counter.Alike (w.AtRestarts (World.HeldKept stored) k acts))
          (u.held? i stored) (v.held? j stored) := by
  intro claim
  obtain ⟨-, -, v, j, -, restarted, -⟩ := claim tmp .serving ⟨0⟩ .shop bare_initial rfl ⟨365, rfl⟩
    rfl Collector.holds_shop plain_shop Collector.plainNames_shop
    [.addHits "http" "GET /cart" (10 ^ Numeral.digitLimit) false, .restart [.idle]] (by
      intro fresh listed
      simp only [List.mem_cons, Act.restart.injEq, reduceCtorEq, List.not_mem_nil, false_or,
        or_false] at listed
      rw [listed]
      exact Collector.freshFor_shop)
  obtain ⟨failure, failed⟩ := World.restart_shop_tooLong (k := ⟨0⟩)
    (w := World.serving.changeHeld ⟨0⟩ "http"
      (·.addHits "GET /cart" (10 ^ Numeral.digitLimit) false))
    bare_initial.stocked rfl rfl rfl rfl rfl rfl rfl (by decide) Counter.not_fitsDigits_addHits
  rw [World.play_of_failed rfl failed] at restarted
  cases restarted

end CounterArchive
