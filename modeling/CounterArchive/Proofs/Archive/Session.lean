import CounterArchive.Proofs.Archive.Effects
import CounterArchive.Proofs.Archive.Refinement

/-! Sessions of an application. Counters are used through the collector that holds them, and now
and then the application is restarted: all counters are written, and an agent is started on fresh
ones. -/
namespace CounterArchive

inductive Act where
  | setClock (clock : Clock)
  | addHits (stored request : String) (duration : Int) (systemError : Bool)
  | addError (stored message : String) (requestName remoteUser : Option String)
  | clear (stored : String)
  | restart (fresh : List Counter)

def Act.isRestart : Act → Bool
  | .restart _ => true
  | _ => false

namespace Counter

/-- Without a present no error is added. -/
def addErrorAt (c : Counter) (now? : Option DateTime) (incident : DateTime → Incident) : Counter :=
  match now? with
  | none => c
  | some now => c.addError (incident now)

/-- Without a present everything is forgotten, and the counter is left with its date. -/
def clearAt (c : Counter) (now? : Option DateTime) : Counter :=
  match now? with
  | none => c.forget
  | some now => c.clear now

/-- Two counters have counted the same. Whether they began at the same time may be left open. -/
structure Alike (dated : Prop) (a b : Counter) : Prop where
  requests : a.requests = b.requests
  errors : a.errors = b.errors
  startDate : dated → a.startDate = b.startDate

end Counter

namespace World

def held? (w : World) (k : Registry.Id Collector) (stored : String) : Option Counter :=
  ((w.collectors.get? k).bind (·.get? stored)).bind w.counters.get?

def changeHeld (w : World) (k : Registry.Id Collector) (stored : String)
    (change : Counter → Counter) : World :=
  match (w.collectors.get? k).bind (·.get? stored) with
  | none => w
  | some id => { w with counters := w.counters.update id change }

/-- Writes the counters of a collector and starts an agent on fresh ones, whose collector takes
the place of the old one. -/
def restart (w : World) (k : Registry.Id Collector) (fresh : List Counter) :
    Except Failure (World × Registry.Id Collector) :=
  match w.collectors.get? k with
  | none => .ok (w, k)
  | some c =>
    match c.writeAll w with
    | (_, .error failure) => .error failure
    | (w, .ok _) =>
      let (counters, ids) := w.counters.registerAll fresh
      match { w with counters }.startAgent (some c.application) (some ids) with
      | (_, .error failure) => .error failure
      | (w, .ok (k, _)) => .ok (w, k)

def act (w : World) (k : Registry.Id Collector) :
    Act → Except Failure (World × Registry.Id Collector)
  | .setClock clock => .ok ({ w with clock }, k)
  | .addHits stored request duration systemError =>
    .ok (w.changeHeld k stored (·.addHits request duration systemError), k)
  | .addError stored message requestName remoteUser =>
    .ok (w.changeHeld k stored fun c =>
      c.addErrorAt w.clock.now? fun now => ⟨now, message, requestName, remoteUser⟩, k)
  | .clear stored => .ok (w.changeHeld k stored (·.clearAt w.clock.now?), k)
  | .restart fresh => w.restart k fresh

def play (w : World) (k : Registry.Id Collector) :
    List Act → Except Failure (World × Registry.Id Collector)
  | [] => .ok (w, k)
  | a :: rest =>
    match w.act k a with
    | .error failure => .error failure
    | .ok (w, k) => w.play k rest

def AtRestarts (holds : World → Registry.Id Collector → Prop) (w : World)
    (k : Registry.Id Collector) : List Act → Prop
  | [] => True
  | a :: rest => (a.isRestart = true → holds w k) ∧
      match w.act k a with
      | .error _ => True
      | .ok (w, k) => w.AtRestarts holds k rest

/-- What a restart takes: room for the stamp, counters that can be read back, and a host that takes
the jobs of the agent. -/
structure Restartable (w : World) (k : Registry.Id Collector) : Prop where
  stamps : w.clock.Stamps
  fits : ∀ stored c, w.held? k stored = some c → c.FitsDigits
  whole : ∀ stored c, w.held? k stored = some c → c.Whole
  jobs : w.TakesJobs

def HeldKept (stored : String) (w : World) (k : Registry.Id Collector) : Prop :=
  ∀ c, w.held? k stored = some c → c.isUnused = false ∨
    w.files.isPresent (w.settings.snapshotPath c.application stored) = true

end World

/-- Fresh counters for a collector: never used, and stored under the same names. -/
structure Collector.FreshFor (c : Collector) (fresh : List Counter) : Prop where
  unused : ∀ f ∈ fresh, f.isUnused = true
  own : ∀ f ∈ fresh, f.application = c.application
  names : ∀ stored, c.get? stored = none ↔ ∀ f ∈ fresh, f.storedAs ≠ stored

end CounterArchive
