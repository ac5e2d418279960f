import DeviceRig.Call.Reply
import DeviceRig.Proofs.Device.Serving

/-!
# What a simulated device answers

A request frame is answered with one response frame, which says what the
service made of the method and the arguments that were called.
-/
namespace DeviceRig

open Json

def ServiceReply.reply? : ServiceReply → Option Reply
  | .ack payload => some ⟨true, payload⟩
  | .nack => some .nack
  | .ignore => none

structure RemoteCall where
  service : String
  method : String
  kwargs : Members

namespace RemoteCall

/-- The request of the call that is made after so many others. -/
def request (space : String) (n : Nat) (call : RemoteCall) : Packet :=
  .request (UInt32.ofNat n).toNat (Packet.qualifiedService space call.service) call.method
    call.kwargs

def response (n : Nat) (reply : Reply) : Packet :=
  .response (UInt32.ofNat n).toNat reply.ack reply.payload

def requestFrame (space : String) (n : Nat) (call : RemoteCall) : Frame :=
  ⟨Frame.callAddress, (call.request space n).encode, true⟩

def responseFrame (n : Nat) (reply : Reply) : Frame :=
  ⟨Frame.callAddress, (response n reply).encode, true⟩

end RemoteCall

namespace Simulator

variable {State : Type}

def serveCall (simulator : Simulator State) (space : String) (call : RemoteCall) (state : State) :
    ServiceReply × State :=
  simulator.apply (Packet.qualifiedService space call.service) call.method call.kwargs state

/-- The replies to some calls and the state behind them if the services are simply applied, one
after the other. -/
def conduct (simulator : Simulator State) (space : String) (state : State) :
    List RemoteCall → List Reply × State
  | [] => ([], state)
  | call :: rest =>
    let (reply, next) := simulator.serveCall space call state
    let (replies, last) := simulator.conduct space next rest
    (reply.reply?.toList ++ replies, last)

/-- Whether some calls can be carried: arguments are plain and nest within the limit of a packet,
packets fit their frames, and every service answers. -/
def Servable (simulator : Simulator State) (space : String) (maxPayload : Nat) (n : Nat)
    (state : State) : List RemoteCall → Prop
  | [] => True
  | call :: rest =>
    Value.Plain innerDepth (.object call.kwargs) ∧
      (call.request space n).encode.length ≤ Frame.defaultMaxPayload ∧
      (∃ reply, (simulator.serveCall space call state).1.reply? = some reply ∧
        (RemoteCall.response n reply).encode.length ≤ Frame.defaultMaxPayload ∧
        (RemoteCall.response n reply).encode.length ≤ maxPayload) ∧
      simulator.Servable space maxPayload (n + 1) (simulator.serveCall space call state).2 rest

theorem conduct_append (simulator : Simulator State) (space : String) (state : State)
    (first second : List RemoteCall) :
    simulator.conduct space state (first ++ second) =
      ((simulator.conduct space state first).1 ++
          (simulator.conduct space (simulator.conduct space state first).2 second).1,
        (simulator.conduct space (simulator.conduct space state first).2 second).2) := by
  induction first generalizing state with
  | nil => rfl
  | cons call rest ih =>
    rw [List.cons_append, conduct, conduct]
    simp only [ih, List.append_assoc]

theorem conduct_cons (simulator : Simulator State) (space : String) (state : State)
    (call : RemoteCall) (rest : List RemoteCall) {reply : Reply}
    (hReply : (simulator.serveCall space call state).1.reply? = some reply) :
    simulator.conduct space state (call :: rest) =
      (reply :: (simulator.conduct space (simulator.serveCall space call state).2 rest).1,
        (simulator.conduct space (simulator.serveCall space call state).2 rest).2) := by
  rw [conduct]
  simp only [hReply, Option.toList_some, List.singleton_append]

theorem conduct_length (simulator : Simulator State) (space : String) (maxPayload n : Nat)
    (state : State) (calls : List RemoteCall)
    (h : simulator.Servable space maxPayload n state calls) :
    (simulator.conduct space state calls).1.length = calls.length := by
  induction calls generalizing n state with
  | nil => rfl
  | cons call rest ih =>
    obtain ⟨-, -, ⟨reply, hReply, -, -⟩, hRest⟩ := h
    rw [conduct_cons simulator space state call rest hReply, List.length_cons, List.length_cons,
      ih (n + 1) _ hRest]

/-- How far the calls have come: those before `left` brought the replies and led to the state, and
the others can be carried from there. -/
structure Progress (simulator : Simulator State) (space : String) (maxPayload : Nat)
    (origin : State) (calls : List RemoteCall) (state : State) (replies : List Reply)
    (left : List RemoteCall) : Prop where
  applied : ∃ made, calls = made ++ left ∧ simulator.conduct space origin made = (replies, state)
  servable : simulator.Servable space maxPayload replies.length state left

theorem progress_nothing {simulator : Simulator State} {space : String} {maxPayload : Nat}
    {origin : State} {calls : List RemoteCall}
    (hServable : simulator.Servable space maxPayload 0 origin calls) :
    simulator.Progress space maxPayload origin calls origin [] calls where
  applied := ⟨[], rfl, rfl⟩
  servable := hServable

theorem Progress.serve {simulator : Simulator State} {space : String} {maxPayload : Nat}
    {origin state : State} {calls rest : List RemoteCall} {replies : List Reply} {call : RemoteCall}
    (h : simulator.Progress space maxPayload origin calls state replies (call :: rest))
    {reply : Reply} (hReply : (simulator.serveCall space call state).1.reply? = some reply) :
    simulator.Progress space maxPayload origin calls (simulator.serveCall space call state).2
      (replies ++ [reply]) rest := by
  obtain ⟨⟨made, hCalls, hMade⟩, -, -, -, hRest⟩ := h
  refine ⟨⟨made ++ [call], ?_, ?_⟩, ?_⟩
  · rw [hCalls, List.append_assoc]
    rfl
  · rw [conduct_append, hMade, conduct_cons simulator space state call [] hReply]
    rfl
  · rw [List.length_append, List.length_singleton]
    exact hRest

theorem sendFrame_of_le (address : UInt8) {payload : List UInt8}
    (h : payload.length ≤ Frame.defaultMaxPayload) :
    sendFrame address payload = .ok (Frame.encode address payload) := by
  rw [sendFrame, if_neg (Nat.not_lt.mpr h)]

theorem react_requestFrame (simulator : Simulator State) (space : String) (n : Nat)
    (call : RemoteCall) (state : State) {reply : Reply}
    (hKwargs : Value.Plain innerDepth (.object call.kwargs))
    (hReply : (simulator.serveCall space call state).1.reply? = some reply) :
    simulator.react state (call.requestFrame space n) =
      (.request (some (RemoteCall.response n reply)),
        (simulator.serveCall space call state).2) := by
  have hDecode : Packet.decode (call.requestFrame space n).payload =
      .ok (call.request space n) :=
    Packet.decode_encode_request _ _ (UInt32.toNat_lt _) hKwargs
  rcases hServe : simulator.serveCall space call state with ⟨answer, next⟩
  have hApply : simulator.apply (Packet.qualifiedService space call.service) call.method
      call.kwargs state = (answer, next) := hServe
  rw [hServe] at hReply
  rw [react, if_neg (by simp [RemoteCall.requestFrame]),
    if_neg (by simp [RemoteCall.requestFrame]), hDecode]
  simp only [RemoteCall.request, hApply]
  cases answer with
  | ack payload =>
    cases hReply
    rfl
  | nack =>
    cases hReply
    rfl
  | ignore => cases hReply

theorem answer_requestFrame (simulator : Simulator State) (space : String) (n : Nat)
    (call : RemoteCall) (stats : Stats) (state : State) {reply : Reply}
    (hKwargs : Value.Plain innerDepth (.object call.kwargs))
    (hReply : (simulator.serveCall space call state).1.reply? = some reply)
    (hFits : (RemoteCall.response n reply).encode.length ≤ Frame.defaultMaxPayload) :
    simulator.answer stats state [call.requestFrame space n] =
      ⟨Frame.encode Frame.callAddress (RemoteCall.response n reply).encode,
        { stats with requests := stats.requests + 1 },
        (simulator.serveCall space call state).2, none⟩ := by
  have hAttend : simulator.attend stats state (call.requestFrame space n) =
      (some (RemoteCall.response n reply), { stats with requests := stats.requests + 1 },
        (simulator.serveCall space call state).2) := by
    rw [attend, react_requestFrame simulator space n call state hKwargs hReply]
  have hReady : Ready openWriter := ⟨Frame.Writer.willing_new _, rfl⟩
  obtain ⟨behind, hSend, -⟩ := hReady.send_fits
    (show Fits (responseMessage (RemoteCall.response n reply)) = true from decide_eq_true hFits)
  let reader : Frame.Reader := ⟨.new Frame.defaultMaxPayload, [call.requestFrame space n], []⟩
  have hYields : reader.Yields [call.requestFrame space n] :=
    @Frame.Reader.yields_of_brings reader [] .nothing
  cases hYields with
  | frame hNext hRest =>
    cases hRest with
    | closed hClosed =>
      rw [responseMessage] at hSend
      rw [answer, answerFrom_frame openWriter hNext, hAttend]
      dsimp only
      rw [hSend]
      dsimp only
      rw [answerFrom_closed behind hClosed, Served.behind, List.append_nil]

end Simulator

end DeviceRig
