import DeviceRig.Proofs.Call.Mailbox
import DeviceRig.Proofs.Frame.Writing
import DeviceRig.Proofs.Transport.Worker
import DeviceRig.Transport.Basic

/-!
# What the operations of a transport come to

Opening, closing and calling can end in many ways, at many places. Here are all
of them, each with everything that it changes.
-/
namespace DeviceRig

open Json

namespace CallChannel

/-- A channel that only has less than before: calls in flight and replies. -/
structure Fewer (after before : CallChannel) : Prop where
  mailboxes : after.mailboxes ⊆ before.mailboxes
  pending : after.table.pending ⊆ before.table.pending
  nextId : after.table.nextId = before.table.nextId

theorem Fewer.refl (channel : CallChannel) : channel.Fewer channel :=
  ⟨List.Subset.refl _, List.Subset.refl _, rfl⟩

theorem fewer_forget (channel : CallChannel) (id : UInt32) :
    (channel.forget id).Fewer channel :=
  ⟨List.Subset.refl _, List.erase_subset, rfl⟩

theorem fewer_close (channel : CallChannel) : channel.close.Fewer channel :=
  ⟨List.Subset.refl _, List.nil_subset _, rfl⟩

theorem fewer_finish (channel : CallChannel) (settings : CallSettings) (id : UInt32)
    (service method : String) : (channel.finish settings id service method).2.Fewer channel := by
  rw [finish_eq]
  split
  · exact ⟨List.filter_sublist.subset, List.Subset.refl _, rfl⟩
  · exact channel.fewer_forget id
  · exact .refl channel

end CallChannel

namespace Transport

theorem calls_eq_none {transport : Transport}
    (hLinked : transport.holdsLink = transport.calls.isSome)
    (hFree : transport.holdsLink = false) : transport.calls = none := by
  rw [hFree] at hLinked
  cases hCalls : transport.calls with
  | none => rfl
  | some channel =>
    rw [hCalls] at hLinked
    cases hLinked

def favourable : OpenConditions :=
  ⟨.ok (), .ok (), .ok (), .finishes, .ok (), .ok (), .ok ()⟩

def openedAt (address : LinkAddress) : Transport :=
  ((new address .usual .all).openLink favourable).2.1

theorem openLink_favourable (address : LinkAddress) :
    (new address .usual .all).openLink favourable =
      (.ok (), openedAt address, [.acquire, .lock]) := by
  cases address <;> rfl

inductive Starts (transport : Transport) (conditions : OpenConditions) :
    Except TransportError Unit × Transport → Prop where
  | notStopped {error : WorkerError}
      (hStop : (transport.worker.stop conditions.stop).1 = .error error) :
      Starts transport conditions (.error (.worker error),
        { transport with worker := (transport.worker.stop conditions.stop).2 })
  /-- There is no thread any more, and a new one could not be started. -/
  | notStarted {error : TransportError} {logs : LogSink} {retired : Option CallChannel}
      (hStop : (transport.worker.stop conditions.stop).1 = .ok ()) (hError : error ≠ .alreadyOpen)
      (hKept : (logs = transport.logs ∧ retired = transport.retired) ∨
        (logs = .new transport.settings.logCapacity ∧ retired = none)) :
      Starts transport conditions (.error error,
        { transport with worker := { transport.worker with thread := none }, logs, retired })
  | started (hStop : (transport.worker.stop conditions.stop).1 = .ok ()) :
      Starts transport conditions (.ok (), { transport with
        worker := { transport.worker with thread := some ⟨.running, false⟩ }
        calls := some .new
        retired := none
        logs := .new transport.settings.logCapacity
        decoder := .new transport.settings.worker.maxPayload })

theorem starts (transport : Transport) (conditions : OpenConditions) :
    Starts transport conditions (transport.start conditions) := by
  unfold start
  rcases hStop : transport.worker.stop conditions.stop with ⟨_ | _, worker⟩
  · have hFailed := Starts.notStopped (congrArg Prod.fst hStop)
    rw [hStop] at hFailed
    exact hFailed
  · have hStopped : (transport.worker.stop conditions.stop).1 = .ok () := congrArg Prod.fst hStop
    obtain rfl := LinkWorker.stop_eq_ok hStop
    dsimp only
    cases conditions.callLink with
    | error error => exact .notStarted hStopped nofun (.inl ⟨rfl, rfl⟩)
    | ok done =>
      cases conditions.workerLink with
      | error error => exact .notStarted hStopped nofun (.inr ⟨rfl, rfl⟩)
      | ok done =>
        cases hSpawned : conditions.spawned with
        | error fault => exact .notStarted hStopped nofun (.inr ⟨rfl, rfl⟩)
        | ok done => exact .started hStopped

inductive Opens (transport : Transport) (conditions : OpenConditions) :
    Except TransportError Unit × Transport × List LinkAction → Prop where
  | held (hHeld : transport.holdsLink = true) :
      Opens transport conditions (.error .alreadyOpen, transport, [])
  | notLocked {error : TransportError} {actions : List LinkAction}
      (hFree : transport.holdsLink = false) (hError : error ≠ .alreadyOpen)
      (hActions : .lock ∉ actions) :
      Opens transport conditions (.error error, transport, actions)
  | notStarted {error : TransportError} {after : Transport} (hFree : transport.holdsLink = false)
      (hStarts : Starts transport conditions (.error error, after)) :
      Opens transport conditions (.error error, after, [.acquire, .lock, .unlock, .release])
  | opened {after : Transport} (hFree : transport.holdsLink = false)
      (hStarts : Starts transport conditions (.ok (), after)) :
      Opens transport conditions (.ok (), { after with holdsLink := true }, [.acquire, .lock])

theorem lockError_ne (error : LinkError) : lockError error ≠ .alreadyOpen := by
  unfold lockError
  split <;> exact nofun

theorem opens (transport : Transport) (conditions : OpenConditions) :
    Opens transport conditions (transport.openLink conditions) := by
  unfold openLink
  cases hHeld : transport.holdsLink with
  | true => exact .held hHeld
  | false =>
    rw [if_neg (by decide)]
    cases transport.media.check transport.address with
    | error error => exact .notLocked hHeld nofun (by decide)
    | ok done =>
      cases conditions.link with
      | error error => exact .notLocked hHeld nofun (by decide)
      | ok done =>
        cases conditions.closeOnExec with
        | error error => exact .notLocked hHeld nofun (by decide)
        | ok done =>
          cases conditions.lock with
          | error error => exact .notLocked hHeld (lockError_ne error) (by decide)
          | ok done =>
            have hStarts := transport.starts conditions
            rcases hStart : transport.start conditions with ⟨_ | _, after⟩
            · rw [hStart] at hStarts
              exact .notStarted hHeld hStarts
            · rw [hStart] at hStarts
              exact .opened hHeld hStarts

def afterClosing (transport : Transport) (conditions : CloseConditions) : Transport :=
  { transport with
    holdsLink := false
    calls := none
    retired := transport.calls.map CallChannel.close
    worker := (transport.worker.stop conditions.stop).2 }

inductive Closes (transport : Transport) (conditions : CloseConditions) :
    Except TransportError Unit × Transport × List LinkAction → Prop where
  | free (hFree : transport.holdsLink = false) :
      Closes transport conditions (.ok (), transport, [])
  | closed {actions : List LinkAction} (hHeld : transport.holdsLink = true)
      (hStop : (transport.worker.stop conditions.stop).1 = .ok ())
      (hUnlock : conditions.unlock = .ok ()) (hActions : [.unlock, .release] ⊆ actions) :
      Closes transport conditions (.ok (), transport.afterClosing conditions, actions)
  | notClosed {worker : Option WorkerError} {link : Option LinkError} {actions : List LinkAction}
      (hHeld : transport.holdsLink = true) (hSome : worker ≠ none ∨ link ≠ none)
      (hStop : (transport.worker.stop conditions.stop).1 = worker.elim (.ok ()) .error)
      (hUnlock : conditions.unlock = link.elim (.ok ()) .error)
      (hActions : [.unlock, .release] ⊆ actions) :
      Closes transport conditions
        (.error (.notClosed worker link), transport.afterClosing conditions, actions)

theorem closes (transport : Transport) (conditions : CloseConditions) :
    Closes transport conditions (transport.closeLink conditions) := by
  unfold closeLink
  cases hHeld : transport.holdsLink with
  | false => exact .free hHeld
  | true =>
    rw [if_pos rfl]
    have hAfter : transport.afterClosing conditions = { transport with
        holdsLink := false
        calls := none
        retired := transport.calls.map CallChannel.close
        worker := (transport.worker.stop conditions.stop).2 } := rfl
    rcases hStop : transport.worker.stop conditions.stop with ⟨_ | _, worker⟩ <;>
      cases hUnlock : conditions.unlock <;> rw [hStop] at hAfter <;> dsimp only <;>
      rw [← hAfter]
    · exact .notClosed hHeld (.inl nofun) (congrArg Prod.fst hStop) hUnlock (by decide)
    · exact .notClosed hHeld (.inl nofun) (congrArg Prod.fst hStop) hUnlock (by decide)
    · exact .notClosed hHeld (.inr nofun) (congrArg Prod.fst hStop) hUnlock (by decide)
    · exact .closed hHeld (congrArg Prod.fst hStop) hUnlock (by decide)

theorem beginCall_of_begin {transport : Transport} {channel begun : CallChannel}
    {service method : String} {kwargs : Value} {id : UInt32} {request : List UInt8}
    (hCalls : transport.calls = some channel)
    (hBegin : channel.begin service method kwargs = .ok (id, request, begun))
    (conditions : SendConditions) :
    ∃ other, other.Fewer begun ∧
      (transport.beginCall service method kwargs conditions).2.2 =
        { transport with calls := some other } := by
  simp only [beginCall, hCalls, hBegin]
  split
  · exact ⟨begun.forget id, begun.fewer_forget id, rfl⟩
  · exact ⟨begun, .refl begun, rfl⟩

theorem beginCall_sent {transport : Transport} {channel begun : CallChannel}
    {service method : String} {kwargs : Value} {id : UInt32} {request : List UInt8}
    (hCalls : transport.calls = some channel)
    (hBegin : channel.begin service method kwargs = .ok (id, request, begun))
    (hFits : request.length ≤ Frame.defaultMaxPayload) :
    transport.beginCall service method kwargs ⟨[], []⟩ =
      (.ok id, Frame.encode Frame.callAddress request, { transport with calls := some begun }) := by
  have hSend : (Frame.Writer.new Frame.defaultMaxPayload [] []).send Frame.callAddress request =
      (.ok (), Frame.encode Frame.callAddress request,
        ⟨Frame.defaultMaxPayload, Frame.encode Frame.callAddress request, [], []⟩) :=
    Frame.Writer.send_of_le hFits Frame.callAddress
  simp only [beginCall, hCalls, hBegin, hSend]

theorem beginCall_cases (transport : Transport) (service method : String) (kwargs : Value)
    (conditions : SendConditions) :
    (transport.beginCall service method kwargs conditions).2.2 = transport ∨
      ∃ channel id request begun, transport.calls = some channel ∧
        channel.begin service method kwargs = .ok (id, request, begun) := by
  unfold beginCall
  cases hCalls : transport.calls with
  | none => exact .inl rfl
  | some channel =>
    dsimp only
    cases hBegin : channel.begin service method kwargs with
    | error error => exact .inl rfl
    | ok entered => exact .inr ⟨channel, entered.1, entered.2.1, entered.2.2, rfl, hBegin⟩

theorem finishCall_of_calls {transport : Transport} {channel : CallChannel}
    (hCalls : transport.calls = some channel) (id : UInt32) (service method : String) :
    transport.finishCall id service method =
      ((channel.finish transport.settings.call id service method).1.mapError .call,
        { transport with
          calls := some (channel.finish transport.settings.call id service method).2 }) := by
  unfold finishCall
  rw [hCalls]

theorem finishCall_of_none {transport : Transport} (hCalls : transport.calls = none)
    (id : UInt32) (service method : String) :
    transport.finishCall id service method = (.error .notOpen, transport) := by
  unfold finishCall
  rw [hCalls]

end Transport

end DeviceRig
