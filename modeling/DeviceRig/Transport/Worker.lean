import DeviceRig.Transport.Error

/-!
The life of the worker thread. At most one thread runs at a time, and the worker holds its handle
and its stop flag. Stopping sets the flag and waits for the thread to end; a thread that outlives
the wait keeps its handle and its flag, so that starting is refused until it ends and stopping can
be tried again.
-/
namespace DeviceRig

inductive ThreadStatus where
  | running
  | finished
  | panicked
deriving DecidableEq, Repr, Inhabited

structure WorkerThread where
  status : ThreadStatus
  stopRequested : Bool
deriving DecidableEq, Repr, Inhabited

structure LinkWorker where
  joinTimeout : Duration
  thread : Option WorkerThread
deriving DecidableEq, Repr, Inhabited

namespace LinkWorker

def new (joinTimeout : Duration) : LinkWorker := ⟨joinTimeout, none⟩

def isAlive (worker : LinkWorker) : Bool :=
  match worker.thread with
  | some thread => thread.status = .running
  | none => false

def start (worker : LinkWorker) (spawned : Except Fault Unit) :
    Except WorkerError Bool × LinkWorker :=
  if worker.isAlive then (.ok false, worker)
  else
    match spawned with
    | .error fault => (.error (.notSpawned fault), { worker with thread := none })
    | .ok () => (.ok true, { worker with thread := some ⟨.running, false⟩ })

inductive StopWait where
  | finishes
  | panics
  | outlives
deriving DecidableEq, Repr, Inhabited

def stop (worker : LinkWorker) (wait : StopWait) : Except WorkerError Unit × LinkWorker :=
  let stopped := { worker with thread := none }
  match worker.thread with
  | none => (.ok (), worker)
  | some ⟨.finished, _⟩ => (.ok (), stopped)
  | some ⟨.panicked, _⟩ => (.error .panicked, stopped)
  | some ⟨.running, _⟩ =>
    match wait with
    | .finishes => (.ok (), stopped)
    | .panics => (.error .panicked, stopped)
    | .outlives =>
      (.error (.joinTimedOut worker.joinTimeout),
        { worker with thread := some ⟨.running, true⟩ })

/-- The thread ends on its own, after a stop request or at the end of its link. -/
def threadEnds (worker : LinkWorker) (panicked : Bool) : LinkWorker :=
  match worker.thread with
  | some ⟨.running, stopRequested⟩ =>
    { worker with
      thread := some ⟨if panicked then .panicked else .finished, stopRequested⟩ }
  | _ => worker

end LinkWorker

end DeviceRig
