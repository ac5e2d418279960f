import DeviceRig.Transport.Worker

/-!
# The life of a worker

Starting leaves a thread that runs, and only a stop that is waited for in vain
leaves one that runs.
-/
namespace DeviceRig.LinkWorker

theorem isAlive_of_start {worker started : LinkWorker} {spawned : Except Fault Unit} {new : Bool}
    (h : worker.start spawned = (.ok new, started)) : started.isAlive = true := by
  unfold LinkWorker.start at h
  split at h
  · rename_i hAlive
    cases h
    exact hAlive
  · split at h
    · cases h
    · cases h
      rfl

theorem isAlive_threadEnds (worker : LinkWorker) (panicked : Bool) :
    (worker.threadEnds panicked).isAlive = false := by
  obtain ⟨joinTimeout, thread⟩ := worker
  cases thread with
  | none => rfl
  | some thread =>
    obtain ⟨status, stopRequested⟩ := thread
    cases status with
    | running => cases panicked <;> rfl
    | finished => rfl
    | panicked => rfl

theorem isAlive_stop {worker : LinkWorker} (hGone : worker.isAlive = false)
    (wait : StopWait) : (worker.stop wait).2.isAlive = false := by
  obtain ⟨joinTimeout, thread⟩ := worker
  cases thread with
  | none => rfl
  | some thread =>
    obtain ⟨status, stopRequested⟩ := thread
    cases status with
    | running => cases hGone
    | finished => rfl
    | panicked => rfl

theorem isAlive_of_stop {worker : LinkWorker} {wait : StopWait}
    (hAlive : (worker.stop wait).2.isAlive = true) : worker.isAlive = true := by
  cases hGone : worker.isAlive with
  | true => rfl
  | false =>
    rw [isAlive_stop hGone wait] at hAlive
    cases hAlive

theorem stop_eq_ok {worker stopped : LinkWorker} {wait : StopWait}
    (h : worker.stop wait = (.ok (), stopped)) : stopped = { worker with thread := none } := by
  obtain ⟨joinTimeout, thread⟩ := worker
  cases thread with
  | none =>
    cases h
    rfl
  | some thread =>
    obtain ⟨status, stopRequested⟩ := thread
    cases status with
    | running =>
      cases wait with
      | finishes =>
        cases h
        rfl
      | panics => cases h
      | outlives => cases h
    | finished =>
      cases h
      rfl
    | panicked => cases h

theorem stop_of_alive {worker : LinkWorker} (hAlive : worker.isAlive = true) :
    worker.stop .finishes = (.ok (), { worker with thread := none }) ∧
      worker.stop .outlives = (.error (.joinTimedOut worker.joinTimeout),
        { worker with thread := some ⟨.running, true⟩ }) := by
  obtain ⟨joinTimeout, thread⟩ := worker
  cases thread with
  | none => cases hAlive
  | some thread =>
    obtain ⟨status, stopRequested⟩ := thread
    cases status with
    | running => exact ⟨rfl, rfl⟩
    | finished => cases hAlive
    | panicked => cases hAlive

end DeviceRig.LinkWorker
