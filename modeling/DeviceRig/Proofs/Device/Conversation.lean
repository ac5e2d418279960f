import DeviceRig.Frame.Reader
import DeviceRig.Proofs.Device.Answering
import DeviceRig.Proofs.Call.Mailbox
import DeviceRig.Transport.Basic
import Mathlib.Logic.Relation
import Mathlib.Order.WellFounded

/-!
# A host that calls a simulated device

The host makes its calls one after the other over an open transport. Device
and host run side by side and read what the other has sent in pieces of any
size, at any time. Nothing is lost on the link, and no call runs out of time;
everything else that can go wrong has its place here.
-/
namespace DeviceRig

/-- Where device and host stand. What one has sent and the other has not read is on its way; the
frames that the device has read wait until it looks at them. -/
structure Conversation (State : Type) where
  boot : List String
  fault : Option FrameError
  device : Frame.Decoder
  pending : List Frame
  stats : Simulator.Stats
  state : State
  toDevice : List UInt8
  toHost : List UInt8
  host : Transport
  left : List RemoteCall
  current : Option (UInt32 × RemoteCall)
  answers : List (Except CallError Reply)

namespace Conversation

variable {State : Type}

def start (simulator : Simulator State) (state : State) (host : Transport)
    (calls : List RemoteCall) : Conversation State where
  boot := simulator.bootLog
  fault := none
  device := .new Frame.defaultMaxPayload
  pending := []
  stats := ⟨0, 0⟩
  state
  toDevice := []
  toHost := []
  host
  left := calls
  current := none
  answers := []

def space (c : Conversation State) : String :=
  c.host.settings.call.space

def deviceReads (c : Conversation State) (piece behind : List UInt8) : Conversation State :=
  let (device, pending) := c.device.feed piece
  { c with device, pending, toDevice := behind }

def deviceAnswers (simulator : Simulator State) (c : Conversation State) (frame : Frame)
    (rest : List Frame) : Conversation State :=
  let served := simulator.answer c.stats c.state [frame]
  { c with
    pending := rest
    stats := served.stats
    state := served.state
    fault := served.failure
    toHost := c.toHost ++ served.sent }

def hostReads (c : Conversation State) (piece behind : List UInt8) : Conversation State :=
  { c with host := c.host.receive piece, toHost := behind }

def comesBack (c : Conversation State) (channel : CallChannel) (id : UInt32)
    (call : RemoteCall) : Conversation State :=
  let (outcome, calls) := channel.finish c.host.settings.call id
    (Packet.qualifiedService c.space call.service) call.method
  { c with
    host := { c.host with calls := some calls }
    current := none
    answers := c.answers ++ [outcome] }

/-- The steps of the device, of the worker of the host and of the caller. -/
inductive Step (simulator : Simulator State) : Conversation State → Conversation State → Prop where
  | boot {c : Conversation State} {line : String} {rest : List String} {wire : List UInt8}
      (hFault : c.fault = none) (hBoot : c.boot = line :: rest)
      (hSend : Simulator.sendFrame Frame.logAddress (Utf8.bytes line) = .ok wire) :
      Step simulator c { c with boot := rest, toHost := c.toHost ++ wire }
  | bootFails {c : Conversation State} {line : String} {rest : List String} {error : FrameError}
      (hFault : c.fault = none) (hBoot : c.boot = line :: rest)
      (hSend : Simulator.sendFrame Frame.logAddress (Utf8.bytes line) = .error error) :
      Step simulator c { c with boot := [], fault := some error }
  /-- The device reads after it has sent all boot lines and looked at all frames. -/
  | deviceReads {c : Conversation State} {piece behind : List UInt8} (hFault : c.fault = none)
      (hBoot : c.boot = []) (hPending : c.pending = []) (hPiece : piece ≠ [])
      (hWire : c.toDevice = piece ++ behind) : Step simulator c (c.deviceReads piece behind)
  | deviceAnswers {c : Conversation State} {frame : Frame} {rest : List Frame}
      (hFault : c.fault = none) (hBoot : c.boot = []) (hPending : c.pending = frame :: rest) :
      Step simulator c (c.deviceAnswers simulator frame rest)
  | hostReads {c : Conversation State} {piece behind : List UInt8} (hPiece : piece ≠ [])
      (hWire : c.toHost = piece ++ behind) : Step simulator c (c.hostReads piece behind)
  | call {c : Conversation State} {call : RemoteCall} {rest : List RemoteCall}
      {channel begun : CallChannel} {id : UInt32} {request wire : List UInt8}
      (hIdle : c.current = none) (hLeft : c.left = call :: rest)
      (hCalls : c.host.calls = some channel)
      (hBegin : channel.begin (Packet.qualifiedService c.space call.service) call.method
        (.object call.kwargs) = .ok (id, request, begun))
      (hSend : Simulator.sendFrame Frame.callAddress request = .ok wire) :
      Step simulator c { c with
        host := { c.host with calls := some begun }
        toDevice := c.toDevice ++ wire
        left := rest
        current := some (id, call) }
  | refuse {c : Conversation State} {call : RemoteCall} {rest : List RemoteCall}
      {channel : CallChannel} {error : CallError} (hIdle : c.current = none)
      (hLeft : c.left = call :: rest) (hCalls : c.host.calls = some channel)
      (hBegin : channel.begin (Packet.qualifiedService c.space call.service) call.method
        (.object call.kwargs) = .error error) :
      Step simulator c { c with left := rest, answers := c.answers ++ [.error error] }
  | unsent {c : Conversation State} {call : RemoteCall} {rest : List RemoteCall}
      {channel begun : CallChannel} {id : UInt32} {request : List UInt8} {error : FrameError}
      (hIdle : c.current = none) (hLeft : c.left = call :: rest)
      (hCalls : c.host.calls = some channel)
      (hBegin : channel.begin (Packet.qualifiedService c.space call.service) call.method
        (.object call.kwargs) = .ok (id, request, begun))
      (hSend : Simulator.sendFrame Frame.callAddress request = .error error) :
      Step simulator c { c with
        host := { c.host with calls := some (begun.forget id) }
        left := rest
        answers := c.answers ++ [.error (.frame error)] }
  /-- The caller comes back: there is a reply, or nobody is left who could give one. -/
  | comesBack {c : Conversation State} {call : RemoteCall} {id : UInt32} {channel : CallChannel}
      (hCurrent : c.current = some (id, call)) (hCalls : c.host.calls = some channel)
      (hReady : channel.inbox id ≠ none ∨ channel.isPending id = false) :
      Step simulator c (c.comesBack channel id call)

abbrev Leads (simulator : Simulator State) : Conversation State → Conversation State → Prop :=
  Relation.ReflTransGen (Step simulator)

def readBytes (events : List Frame.ReadEvent) : List UInt8 :=
  events.flatMap fun
    | .data bytes => bytes
    | .fault _ => []

theorem readBytes_of_fault {events rest : List Frame.ReadEvent} {fault : Fault}
    (h : Frame.ReadEvent.next events = (.error fault, rest)) :
    readBytes events = readBytes rest := by
  cases events with
  | nil => cases h
  | cons event events =>
    cases event with
    | fault reason =>
      cases h
      rfl
    | data bytes =>
      rw [Frame.ReadEvent.next] at h
      split at h <;> cases h

theorem readBytes_of_data {events rest : List Frame.ReadEvent} {bytes : List UInt8}
    (h : Frame.ReadEvent.next events = (.ok bytes, rest)) :
    readBytes events = bytes ++ readBytes rest := by
  cases events with
  | nil =>
    cases h
    rfl
  | cons event events =>
    cases event with
    | fault reason => cases h
    | data piece =>
      rw [Frame.ReadEvent.next] at h
      split at h
      · cases h
        rfl
      · cases h
        simp [readBytes, ← List.append_assoc]

/-- Whether what the blocking reader of the device does until it hands out a frame is a run of
reads. -/
def ReadsOn (simulator : Simulator State) (c : Conversation State) : Prop :=
  ∀ (reader after : Frame.Reader) (frame : Frame) (behind : List UInt8), c.fault = none →
    c.boot = [] → c.device = reader.decoder → c.pending = reader.pending →
    c.toDevice = readBytes reader.script ++ behind → reader.next = (.ok frame, after) →
    Leads simulator c { c with
      device := after.decoder
      pending := frame :: after.pending
      toDevice := readBytes after.script ++ behind }

theorem readsOn (simulator : Simulator State) (c : Conversation State) :
    c.ReadsOn simulator := by
  intro reader after frame behind hFault hBoot hDecoder hPending hWire hNext
  fun_induction Frame.Reader.next reader generalizing c with
  | case1 reader frame rest hRest =>
    cases hNext
    rw [← hDecoder, ← hRest, ← hPending, ← hWire]
  | case2 reader hEmpty fault script hRead hInterrupted ih =>
    rw [readBytes_of_fault hRead] at hWire
    exact ih _ hFault hBoot hDecoder (hPending.trans hEmpty) hWire hNext
  | case3 => cases hNext
  | case4 => cases hNext
  | case5 reader hEmpty byte bytes script hRead decoder frames hFeed ih =>
    rw [readBytes_of_data hRead, List.append_assoc] at hWire
    have hReads : Step simulator c (c.deviceReads (byte :: bytes) (readBytes script ++ behind)) :=
      .deviceReads hFault hBoot (hPending.trans hEmpty) (List.cons_ne_nil _ _) hWire
    rw [deviceReads, hDecoder, hFeed] at hReads
    exact .head hReads (ih _ hFault hBoot rfl rfl rfl hNext)

/-- What becomes less with every step: what is still to be said, the call in flight, the bytes on
their way to the device, the frames that it has read, and the bytes on their way back. -/
def work (c : Conversation State) : Nat × Nat × Nat × Nat × Nat :=
  (c.boot.length + c.left.length, c.current.toList.length, c.toDevice.length, c.pending.length,
    c.toHost.length)

def Less : Nat × Nat × Nat × Nat × Nat → Nat × Nat × Nat × Nat × Nat → Prop :=
  Prod.Lex (· < ·) (Prod.Lex (· < ·) (Prod.Lex (· < ·) (Prod.Lex (· < ·) (· < ·))))

theorem less_wellFounded : WellFounded Less :=
  Nat.lt_wfRel.wf.prod_lex (Nat.lt_wfRel.wf.prod_lex (Nat.lt_wfRel.wf.prod_lex
    (Nat.lt_wfRel.wf.prod_lex Nat.lt_wfRel.wf)))

theorem less_of_said {c d : Conversation State}
    (h : d.boot.length + d.left.length < c.boot.length + c.left.length) : Less d.work c.work :=
  Prod.Lex.left _ _ h

theorem Step.work_less {simulator : Simulator State} {c d : Conversation State}
    (h : Step simulator c d) : Less d.work c.work := by
  cases h with
  | boot hFault hBoot hSend =>
    refine less_of_said ?_
    rw [hBoot, List.length_cons]
    dsimp only
    omega
  | bootFails hFault hBoot hSend =>
    refine less_of_said ?_
    rw [hBoot, List.length_cons, List.length_nil]
    dsimp only
    omega
  | deviceReads hFault hBoot hPending hPiece hWire =>
    refine Prod.Lex.right _ (Prod.Lex.right _ (Prod.Lex.left _ _ ?_))
    rw [hWire, List.length_append]
    exact Nat.lt_add_of_pos_left (List.length_pos_iff.mpr hPiece)
  | deviceAnswers hFault hBoot hPending =>
    refine Prod.Lex.right _ (Prod.Lex.right _ (Prod.Lex.right _ (Prod.Lex.left _ _ ?_)))
    rw [hPending]
    exact Nat.lt_succ_self _
  | hostReads hPiece hWire =>
    refine Prod.Lex.right _ (Prod.Lex.right _ (Prod.Lex.right _ (Prod.Lex.right _ ?_)))
    rw [hWire, List.length_append]
    exact Nat.lt_add_of_pos_left (List.length_pos_iff.mpr hPiece)
  | call hIdle hLeft =>
    refine less_of_said ?_
    rw [hLeft, List.length_cons]
    dsimp only
    omega
  | refuse hIdle hLeft =>
    refine less_of_said ?_
    rw [hLeft, List.length_cons]
    dsimp only
    omega
  | unsent hIdle hLeft =>
    refine less_of_said ?_
    rw [hLeft, List.length_cons]
    dsimp only
    omega
  | comesBack hCurrent =>
    refine Prod.Lex.right _ (Prod.Lex.left _ _ ?_)
    rw [hCurrent]
    exact Nat.zero_lt_one

theorem step_wellFounded (simulator : Simulator State) :
    WellFounded fun later earlier : Conversation State => Step simulator earlier later :=
  Subrelation.wf (fun h => h.work_less) (InvImage.wf work less_wellFounded)

theorem no_endless_run (simulator : Simulator State) :
    ¬∃ run : Nat → Conversation State, ∀ n, Step simulator (run n) (run (n + 1)) := by
  rintro ⟨run, hRun⟩
  have hNone := wellFounded_iff_isEmpty_descending_chain.mp (step_wellFounded simulator)
  exact hNone.false ⟨run, hRun⟩

end Conversation

end DeviceRig
