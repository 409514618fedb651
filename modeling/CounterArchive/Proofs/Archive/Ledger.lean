import CounterArchive.Collector.Archive
import CounterArchive.Proofs.Archive.Purge

/-! What an archive is supposed to do, told without files. A ledger has a shelf in the place of
the files, where each operation changes at most the entries that it is about. The same operations
are carried out on a world. -/
namespace CounterArchive

inductive Operation where
  /-- A new counter is made. -/
  | make (counter : Counter)
  | addHits (id : Registry.Id Counter) (request : String) (duration : Int) (systemError : Bool)
  | addError (id : Registry.Id Counter) (message : String) (requestName remoteUser : Option String)
  | clear (id : Registry.Id Counter)
  /-- Fields of a counter are assigned. -/
  | assign (id : Registry.Id Counter) (change : Counter → Counter)
  | write (id : Registry.Id Counter)
  | readCounter (id : Registry.Id Counter)
  | read (application stored : String)
  /-- Counters are given to a new collector. -/
  | gather (application : String) (ids : List (Registry.Id Counter))
      (metrics : Option (Registry.Id Metrics))
  | restore (collector : Registry.Id Collector)
  | writeAll (collector : Registry.Id Collector)
  | purge (disturbance : Disturbance) (application : String) (now : Binary64)
  | disable
  | setClock (clock : Clock)
  /-- The file of a snapshot gets another time of its last change. -/
  | touch (application stored : String) (modified : Int)

inductive Answer where
  | done
  | failed (failure : Failure)
  | made (id : Registry.Id Counter)
  | wrote (size : Option Nat)
  | found (counter : Option Counter)
  | gathered (id : Registry.Id Collector)
  /-- How many counters were restored, or how many bytes written. -/
  | counted (count : Nat)

def Answer.of {α : Type} (answer : α → Answer) : Except Failure α → Answer
  | .error failure => .failed failure
  | .ok value => answer value

namespace World

def addError (w : World) (id : Registry.Id Counter) (incident : DateTime → Incident) :
    World × Answer :=
  match w.clock.now? with
  | none => (w, .failed .noPresent)
  | some now => ({ w with counters := w.counters.update id (·.addError (incident now)) }, .done)

/-- Clears a counter, which forgets everything before it looks at the clock. -/
def clear (w : World) (id : Registry.Id Counter) : World × Answer :=
  match w.clock.now? with
  | none => ({ w with counters := w.counters.update id (·.forget) }, .failed .noPresent)
  | some now => ({ w with counters := w.counters.update id (·.clear now) }, .done)

def touch (w : World) (path : String) (modified : Int) : World :=
  match w.files.file? path with
  | .error _ => w
  | .ok file =>
    match w.files.write path { file with modified } with
    | .error _ => w
    | .ok files => { w with files }

def operate (w : World) : Operation → World × Answer
  | .make counter =>
    let (counters, id) := w.counters.register counter
    ({ w with counters }, .made id)
  | .addHits id request duration systemError =>
    ({ w with counters := w.counters.update id (·.addHits request duration systemError) }, .done)
  | .addError id message requestName remoteUser =>
    w.addError id fun now => ⟨now, message, requestName, remoteUser⟩
  | .clear id => w.clear id
  | .assign id change => ({ w with counters := w.counters.update id change }, .done)
  | .write id =>
    match w.counters.get? id with
    | none => (w, .failed .noCounter)
    | some c => let (w, result) := w.write c; (w, .of .wrote result)
  | .readCounter id =>
    match w.counters.get? id with
    | none => (w, .failed .noCounter)
    | some c => (w, .of .found (w.readCounter c))
  | .read application stored => (w, .of .found (w.read application stored))
  | .gather application ids metrics =>
    match Collector.of w.counters application ids metrics with
    | .error failure => (w, .failed failure)
    | .ok c =>
      let (collectors, id) := w.collectors.register c
      ({ w with collectors }, .gathered id)
  | .restore id =>
    match w.collectors.get? id with
    | none => (w, .counted 0)
    | some c =>
      let (w, c, result) := c.restore w
      ({ w with collectors := w.collectors.update id fun _ => c }, .of .counted result)
  | .writeAll id =>
    match w.collectors.get? id with
    | none => (w, .counted 0)
    | some c => let (w, result) := c.writeAll w; (w, .of .counted result)
  | .purge disturbance application now =>
    let (w, result) := w.purge disturbance application now
    (w, .of (fun _ => .done) result)
  | .disable => (w.disable, .done)
  | .setClock clock => ({ w with clock }, .done)
  | .touch application stored modified =>
    (w.touch (w.settings.snapshotPath application stored) modified, .done)

def operateAll (w : World) : List Operation → World × List Answer
  | [] => (w, [])
  | operation :: rest =>
    let (w, answer) := w.operate operation
    let (w, answers) := w.operateAll rest
    (w, answer :: answers)

end World

structure Ledger where
  clock : Clock
  retention : Option String
  disabled : Bool
  counters : Registry Counter
  collectors : Registry Collector
  shelf : Shelf

namespace Ledger

def of (w : World) : Ledger :=
  ⟨w.clock, w.settings.retention, w.disabled, w.counters, w.collectors, Shelf.empty⟩

def addError (l : Ledger) (id : Registry.Id Counter) (incident : DateTime → Incident) :
    Ledger × Answer :=
  match l.clock.now? with
  | none => (l, .failed .noPresent)
  | some now => ({ l with counters := l.counters.update id (·.addError (incident now)) }, .done)

def clear (l : Ledger) (id : Registry.Id Counter) : Ledger × Answer :=
  match l.clock.now? with
  | none => ({ l with counters := l.counters.update id (·.forget) }, .failed .noPresent)
  | some now => ({ l with counters := l.counters.update id (·.clear now) }, .done)

/-- Puts a copy of a counter on the shelf, except for one that was never used and is not there. -/
def write (l : Ledger) (c : Counter) : Ledger × Option Nat :=
  if l.disabled then (l, none)
  else if c.isUnused && (l.shelf c.application c.storedAs).isNone then (l, none)
  else
    ({ l with shelf := l.shelf.set c.application c.storedAs (some ⟨c, l.clock.micros * 1000⟩) },
      some (Snapshot.content c).length)

def read (l : Ledger) (application stored : String) : Option Counter :=
  if l.disabled then none else (l.shelf application stored).map Entry.counter

def writeEntries (l : Ledger) (written : Nat) : List (Registry.Id Counter) → Ledger × Answer
  | [] => (l, .counted written)
  | id :: rest =>
    match l.counters.get? id with
    | none => (l, .failed .noCounter)
    | some c => (l.write c).1.writeEntries (written + (l.write c).2.getD 0) rest

def restoreEntries (l : Ledger) (c : Collector) (count : Nat) :
    List (String × Registry.Id Counter) → Ledger × Collector × Answer
  | [] => (l, c, .counted count)
  | (name, id) :: rest =>
    match l.counters.get? id with
    | none => (l, c, .failed .noCounter)
    | some counter =>
      match l.read counter.application counter.storedAs with
      | none => l.restoreEntries c count rest
      | some stored =>
        let (counters, id) := l.counters.register stored
        restoreEntries { l with counters } { c with entries := c.entries.insert name id }
          (count + 1) rest

def purge (l : Ledger) (d : Disturbance) (application : String) (now : Binary64) :
    Ledger × Answer :=
  match Retention.millis now with
  | .error fault => (l, .failed (.time fault))
  | .ok millis =>
    match Retention.days l.retention with
    | .error fault => (l, .failed (.retention fault))
    | .ok days =>
      ({ l with shelf := l.shelf.sift application (d.keeps (Retention.cutoff millis days)) }, .done)

def touch (l : Ledger) (application stored : String) (modified : Int) : Ledger :=
  let touched := (l.shelf application stored).map fun entry => { entry with modified }
  { l with shelf := l.shelf.set application stored touched }

def operate (l : Ledger) : Operation → Ledger × Answer
  | .make counter =>
    let (counters, id) := l.counters.register counter
    ({ l with counters }, .made id)
  | .addHits id request duration systemError =>
    ({ l with counters := l.counters.update id (·.addHits request duration systemError) }, .done)
  | .addError id message requestName remoteUser =>
    l.addError id fun now => ⟨now, message, requestName, remoteUser⟩
  | .clear id => l.clear id
  | .assign id change => ({ l with counters := l.counters.update id change }, .done)
  | .write id =>
    match l.counters.get? id with
    | none => (l, .failed .noCounter)
    | some c => ((l.write c).1, .wrote (l.write c).2)
  | .readCounter id =>
    match l.counters.get? id with
    | none => (l, .failed .noCounter)
    | some c => (l, .found (l.read c.application c.storedAs))
  | .read application stored => (l, .found (l.read application stored))
  | .gather application ids metrics =>
    match Collector.of l.counters application ids metrics with
    | .error failure => (l, .failed failure)
    | .ok c =>
      let (collectors, id) := l.collectors.register c
      ({ l with collectors }, .gathered id)
  | .restore id =>
    match l.collectors.get? id with
    | none => (l, .counted 0)
    | some c =>
      let (l, c, answer) := l.restoreEntries c 0 c.entries.entries
      ({ l with collectors := l.collectors.update id fun _ => c }, answer)
  | .writeAll id =>
    match l.collectors.get? id with
    | none => (l, .counted 0)
    | some c => l.writeEntries 0 c.counters
  | .purge disturbance application now => l.purge disturbance application now
  | .disable => ({ l with disabled := true }, .done)
  | .setClock clock => ({ l with clock }, .done)
  | .touch application stored modified => (l.touch application stored modified, .done)

def operateAll (l : Ledger) : List Operation → Ledger × List Answer
  | [] => (l, [])
  | operation :: rest =>
    let (l, answer) := l.operate operation
    let (l, answers) := l.operateAll rest
    (l, answer :: answers)

/-- A counter that an operation may write: its names are plain, and its numbers and the offsets of its
dates can be read. -/
structure Storable (c : Counter) : Prop where
  plain : c.Plain
  fits : c.FitsDigits
  whole : c.Whole

/-- Whatever is written now can be stamped. -/
def Stamps (l : Ledger) : Prop := l.disabled = false → l.clock.Stamps

/-- What is asked of an operation: that all names in it are plain, that the counters which it writes
can be read, and that there is room for the stamp when it writes. -/
def Admits (l : Ledger) : Operation → Prop
  | .write id => l.Stamps ∧ ∀ c, l.counters.get? id = some c → Storable c
  | .readCounter id => ∀ c, l.counters.get? id = some c → c.Plain
  | .read application stored => PlainApplication application ∧ PlainStored stored
  | .restore collector => ∀ held, l.collectors.get? collector = some held →
      ∀ id ∈ held.counters, ∀ c, l.counters.get? id = some c → c.Plain
  | .writeAll collector => l.Stamps ∧ ∀ held, l.collectors.get? collector = some held →
      ∀ id ∈ held.counters, ∀ c, l.counters.get? id = some c → Storable c
  | .purge _ application _ => PlainApplication application
  | .touch application stored _ => PlainApplication application ∧ PlainStored stored
  | _ => True

def AdmitsAll (l : Ledger) : List Operation → Prop
  | [] => True
  | operation :: rest => l.Admits operation ∧ (l.operate operation).1.AdmitsAll rest

end Ledger

end CounterArchive
