import CounterArchive.Proofs.Archive.Session
import CounterArchive.Proofs.Archive.Updates

/-! Which errors a counter shows. They are a window on the end of all errors that it ever had, which
slides with each new one and begins anew when the counter is cleared. Storing the counter and going on
with what is read again is of no concern to the window. -/
namespace CounterArchive

inductive Turn where
  | setClock (clock : Clock)
  | addHits (request : String) (duration : Int) (systemError : Bool)
  | addError (message : String) (requestName remoteUser : Option String)
  | clear
  /-- The counter is written and read again, and what was read takes its place. -/
  | reread
deriving DecidableEq

namespace Turn

def clockAfter (clock : Clock) : Turn → Clock
  | .setClock clock => clock
  | _ => clock

def incident? (clock : Clock) : Turn → Option Incident
  | .addError message requestName remoteUser =>
    clock.now?.map fun now => ⟨now, message, requestName, remoteUser⟩
  | _ => none

def change (clock : Clock) (c : Counter) : Turn → Counter
  | .addHits request duration systemError => c.addHits request duration systemError
  | .addError message requestName remoteUser =>
    c.addErrorAt clock.now? fun now => ⟨now, message, requestName, remoteUser⟩
  | .clear => c.clearAt clock.now?
  | .setClock _ | .reread => c

def incidents (clock : Clock) : List Turn → List Incident
  | [] => []
  | turn :: rest => (turn.incident? clock).toList ++ incidents (turn.clockAfter clock) rest

variable {clock : Clock} {c : Counter} {turn : Turn} {turns : List Turn}

end Turn

namespace World

variable {w v : World} {id : Registry.Id Counter} {c : Counter} {turns : List Turn}

/-- Writes a counter and reads it again. What was read takes its place. -/
def reread (w : World) (id : Registry.Id Counter) :
    Except Failure (World × Registry.Id Counter) :=
  match w.counters.get? id with
  | none => .error .noCounter
  | some c =>
    match w.write c with
    | (_, .error failure) => .error failure
    | (w, .ok _) =>
      match w.readCounter c with
      | .error failure => .error failure
      | .ok none => .ok (w, id)
      | .ok (some stored) =>
        let (counters, id) := w.counters.register stored
        .ok ({ w with counters }, id)

def turn (w : World) (id : Registry.Id Counter) : Turn → Except Failure (World × Registry.Id Counter)
  | .reread => w.reread id
  | turn => .ok ({ w with
      clock := turn.clockAfter w.clock
      counters := w.counters.update id (turn.change w.clock ·) }, id)

end World

namespace World

end World

end CounterArchive
