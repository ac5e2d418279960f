import DeviceRig.Proofs.Device.Serving
import Mathlib.Logic.Function.Iterate

/-!
# Connections of one device that are served side by side

Every connection has a thread of its own, and all threads share the state of
the services. A thread sends one message after the other until nothing is due,
and then reads a frame and takes the request of it to a service. A service has
the state to itself while it reacts. The threads take turns in any order: a
schedule says whose turn it is.
-/
namespace DeviceRig

/-- A connection and how far its thread has come. What is due is sent before the next frame is
read. -/
structure ServedLink where
  reader : Frame.Reader
  writer : Frame.Writer
  due : List Frame.Message
  stats : Simulator.Stats
  sent : List UInt8
  /-- How the connection ended, if it did: early for some reason, or with its stream. -/
  ended : Option (Option FrameError)

/-- A request that was taken to a service, and the reply of the service. -/
structure ServiceTurn where
  link : Nat
  request : DeviceRequest
  reply : ServiceReply

/-- The message that tells the host of the reply, if any does. -/
def ServiceTurn.message? (turn : ServiceTurn) : Option Frame.Message :=
  (turn.reply.response? turn.request.callId).map Simulator.responseMessage

def ServiceTurn.messages (turns : List ServiceTurn) : List Frame.Message :=
  turns.filterMap ServiceTurn.message?

theorem ServiceTurn.messages_concat (turns : List ServiceTurn) (turn : ServiceTurn) :
    messages (turns ++ [turn]) = messages turns ++ turn.message?.toList := by
  cases hMessage : turn.message? <;> simp [messages, hMessage]

variable {State : Type}

namespace Simulator

def handle (simulator : Simulator State) (request : DeviceRequest) (state : State) :
    ServiceReply × State :=
  simulator.apply request.service request.method request.kwargs state

def after (simulator : Simulator State) (state : State) (turns : List ServiceTurn) : State :=
  turns.foldl (fun state turn => (simulator.handle turn.request state).2) state

theorem Served.behind_behind (served : Served State) (sent more : List UInt8) :
    (served.behind more).behind sent = served.behind (sent ++ more) := by
  rw [Served.behind, Served.behind, Served.behind, List.append_assoc]

theorem after_concat (simulator : Simulator State) (state : State) (turns : List ServiceTurn)
    (turn : ServiceTurn) :
    simulator.after state (turns ++ [turn]) =
      (simulator.handle turn.request (simulator.after state turns)).2 := by
  rw [after, List.foldl_append]
  rfl

end Simulator

namespace ServedLink

def start (simulator : Simulator State) (script : List Frame.ReadEvent) (writer : Frame.Writer) :
    ServedLink where
  reader := .new Frame.defaultMaxPayload script
  writer
  due := simulator.bootLog.map Simulator.bootMessage
  stats := ⟨0, 0⟩
  sent := []
  ended := none

def say (link : ServedLink) (message : Frame.Message) : ServedLink :=
  match link.writer.send message.1 message.2 with
  | (.ok (), sent, writer) => { link with writer, sent := link.sent ++ sent }
  | (.error error, sent, writer) =>
    { link with writer, sent := link.sent ++ sent, ended := some (some error) }

def advance (simulator : Simulator State) (link : ServedLink) (state : State) :
    ServedLink × State :=
  match link.ended, link.due with
  | some _, _ => (link, state)
  | none, message :: rest => ({ link with due := rest }.say message, state)
  | none, [] =>
    match link.reader.next with
    | (.error .closed, reader) => ({ link with reader, ended := some none }, state)
    | (.error error, reader) => ({ link with reader, ended := some (some error) }, state)
    | (.ok frame, reader) =>
      let (response, stats, next) := simulator.attend link.stats state frame
      ({ link with reader, stats, due := (response.map Simulator.responseMessage).toList }, next)

def request? (link : ServedLink) : Option DeviceRequest :=
  match link.ended, link.due, link.reader.next with
  | none, [], (.ok frame, _) => frame.request?
  | _, _, _ => none

def turn? (simulator : Simulator State) (link : ServedLink) (number : Nat) (state : State) :
    Option ServiceTurn :=
  link.request?.map fun request => ⟨number, request, (simulator.handle request state).1⟩

section Advancing

variable (simulator : Simulator State) {link : ServedLink}

theorem advance_ended {outcome : Option FrameError} (hEnded : link.ended = some outcome)
    (state : State) : link.advance simulator state = (link, state) ∧ link.request? = none := by
  simp [advance, request?, hEnded]

theorem request?_due {message : Frame.Message} {rest : List Frame.Message}
    (hDue : link.due = message :: rest) : link.request? = none := by
  unfold request?
  split <;> simp_all

theorem state_advance_due {message : Frame.Message} {rest : List Frame.Message}
    (hDue : link.due = message :: rest) (state : State) :
    (link.advance simulator state).2 = state := by
  unfold advance
  split <;> simp_all

theorem advance_said {message : Frame.Message} {rest : List Frame.Message} {sent : List UInt8}
    {writer : Frame.Writer} (hEnded : link.ended = none) (hDue : link.due = message :: rest)
    (hSend : link.writer.send message.1 message.2 = (.ok (), sent, writer)) (state : State) :
    link.advance simulator state =
      ({ link with writer, due := rest, sent := link.sent ++ sent }, state) := by
  simp [advance, hEnded, hDue, say, hSend]

theorem advance_unsaid {message : Frame.Message} {rest : List Frame.Message} {sent : List UInt8}
    {writer : Frame.Writer} {error : FrameError} (hEnded : link.ended = none)
    (hDue : link.due = message :: rest)
    (hSend : link.writer.send message.1 message.2 = (.error error, sent, writer)) (state : State) :
    link.advance simulator state =
      ({ link with
        writer, due := rest, sent := link.sent ++ sent, ended := some (some error) }, state) := by
  simp [advance, hEnded, hDue, say, hSend]

theorem advance_closed {reader : Frame.Reader} (hEnded : link.ended = none) (hDue : link.due = [])
    (hNext : link.reader.next = (.error .closed, reader)) (state : State) :
    link.advance simulator state = ({ link with reader, ended := some none }, state) ∧
      link.request? = none := by
  simp [advance, request?, hEnded, hDue, hNext]

theorem advance_failed {reader : Frame.Reader} {error : FrameError} (hEnded : link.ended = none)
    (hDue : link.due = []) (hNext : link.reader.next = (.error error, reader))
    (hError : error ≠ .closed) (state : State) :
    link.advance simulator state = ({ link with reader, ended := some (some error) }, state) ∧
      link.request? = none := by
  cases error <;> first | exact absurd rfl hError | simp [advance, request?, hEnded, hDue, hNext]

theorem advance_frame {reader : Frame.Reader} {frame : Frame} {response : Option Packet}
    {stats : Simulator.Stats} {state next : State} (hEnded : link.ended = none)
    (hDue : link.due = []) (hNext : link.reader.next = (.ok frame, reader))
    (hAttend : simulator.attend link.stats state frame = (response, stats, next)) :
    link.advance simulator state = ({ link with
        reader
        stats
        due := (response.map Simulator.responseMessage).toList }, next) ∧
      link.request? = frame.request? := by
  simp [advance, request?, hEnded, hDue, hNext, hAttend]

theorem advance_other {reader : Frame.Reader} {frame : Frame} (hEnded : link.ended = none)
    (hDue : link.due = []) (hNext : link.reader.next = (.ok frame, reader))
    (hFrame : frame.request? = none) (state : State) :
    link.advance simulator state = ({ link with
        reader
        due := []
        stats := { link.stats with
          invalidFrames :=
            link.stats.invalidFrames + .ofNat (if !frame.valid then 1 else 0) } }, state) ∧
      link.request? = none := by
  have hAttend := Simulator.attend_of_none simulator link.stats state hFrame
  rw [← hFrame]
  exact advance_frame simulator hEnded hDue hNext hAttend

theorem advance_request {reader : Frame.Reader} {frame : Frame} {request : DeviceRequest}
    (hEnded : link.ended = none) (hDue : link.due = [])
    (hNext : link.reader.next = (.ok frame, reader)) (hFrame : frame.request? = some request)
    (state : State) :
    link.advance simulator state = ({ link with
        reader
        stats := { link.stats with requests := link.stats.requests + 1 }
        due := (((simulator.handle request state).1.response? request.callId).map
          Simulator.responseMessage).toList }, (simulator.handle request state).2) ∧
      link.request? = some request := by
  have hAttend := Simulator.attend_of_some simulator link.stats state hFrame
  rw [← hFrame]
  exact advance_frame simulator hEnded hDue hNext hAttend

theorem state_advance (link : ServedLink) (state : State) :
    (link.advance simulator state).2 =
      match link.request? with
      | none => state
      | some request => (simulator.handle request state).2 := by
  cases hEnded : link.ended with
  | some outcome =>
    obtain ⟨hAdvance, hRequest⟩ := advance_ended simulator hEnded state
    rw [hAdvance, hRequest]
  | none =>
    cases hDue : link.due with
    | cons message rest =>
      rw [request?_due hDue]
      exact state_advance_due simulator hDue state
    | nil =>
      rcases hNext : link.reader.next with ⟨error | frame, reader⟩
      · by_cases hError : error = .closed
        · subst hError
          obtain ⟨hAdvance, hRequest⟩ := advance_closed simulator hEnded hDue hNext state
          rw [hAdvance, hRequest]
        · obtain ⟨hAdvance, hRequest⟩ := advance_failed simulator hEnded hDue hNext hError state
          rw [hAdvance, hRequest]
      · cases hFrame : frame.request? with
        | none =>
          obtain ⟨hAdvance, hRequest⟩ := advance_other simulator hEnded hDue hNext hFrame state
          rw [hAdvance, hRequest]
        | some request =>
          obtain ⟨hAdvance, hRequest⟩ := advance_request simulator hEnded hDue hNext hFrame state
          rw [hAdvance, hRequest]

end Advancing

end ServedLink

/-- Connections to one device, the state that its services share, and what was taken to the services
so far on any of them. -/
structure SideBySide (State : Type) where
  state : State
  links : List ServedLink
  turns : List ServiceTurn

namespace SideBySide

/-- The start over some connections, each with what is read from it and what it is written to. -/
def start (simulator : Simulator State) (state : State)
    (connections : List (List Frame.ReadEvent × Frame.Writer)) : SideBySide State where
  state
  links := connections.map fun (script, writer) => .start simulator script writer
  turns := []

def advance (simulator : Simulator State) (s : SideBySide State) (number : Nat) :
    SideBySide State :=
  match s.links[number]? with
  | none => s
  | some link =>
    let (moved, state) := link.advance simulator s.state
    { state
      links := s.links.set number moved
      turns := s.turns ++ (link.turn? simulator number s.state).toList }

def run (simulator : Simulator State) (s : SideBySide State) (schedule : List Nat) :
    SideBySide State :=
  schedule.foldl (advance simulator) s

theorem run_append (simulator : Simulator State) (s : SideBySide State)
    (schedule more : List Nat) :
    s.run simulator (schedule ++ more) = (s.run simulator schedule).run simulator more :=
  List.foldl_append

def turnsOf (s : SideBySide State) (number : Nat) : List ServiceTurn :=
  s.turns.filter fun turn => turn.link = number

variable {simulator : Simulator State} {s : SideBySide State} {number : Nat}

theorem run_keeps (holds : SideBySide State → Prop)
    (hStep : ∀ t number, holds t → holds (t.advance simulator number)) (h : holds s)
    (schedule : List Nat) : holds (s.run simulator schedule) := by
  induction schedule generalizing s with
  | nil => exact h
  | cons number rest ih => exact ih (hStep s number h)

theorem advance_cases (simulator : Simulator State) (s : SideBySide State) (number : Nat) :
    ((s.advance simulator number).state = s.state ∧ (s.advance simulator number).turns = s.turns) ∨
      ∃ request, (s.advance simulator number).state = (simulator.handle request s.state).2 ∧
        (s.advance simulator number).turns =
          s.turns ++ [⟨number, request, (simulator.handle request s.state).1⟩] := by
  cases hLink : s.links[number]? with
  | none =>
    left
    simp [advance, hLink]
  | some link =>
    have hState := ServedLink.state_advance simulator link s.state
    cases hRequest : link.request? with
    | none =>
      left
      rw [hRequest] at hState
      simp [advance, hLink, ServedLink.turn?, hRequest, hState]
    | some request =>
      right
      rw [hRequest] at hState
      refine ⟨request, ?_, ?_⟩
      · simp [advance, hLink, hState]
      · simp [advance, hLink, ServedLink.turn?, hRequest]

/-- The services have reacted as if the requests had come one after the other. -/
structure InTurn (simulator : Simulator State) (start : State) (s : SideBySide State) : Prop where
  state : s.state = simulator.after start s.turns
  reply : ∀ earlier turn, earlier ++ [turn] <+: s.turns →
    turn.reply = (simulator.handle turn.request (simulator.after start earlier)).1

theorem inTurn_start (simulator : Simulator State) (state : State)
    (connections : List (List Frame.ReadEvent × Frame.Writer)) :
    InTurn simulator state (start simulator state connections) where
  state := rfl
  reply earlier turn hTurn := by
    rw [start, List.prefix_nil] at hTurn
    exact absurd hTurn (List.concat_ne_nil _ _)

theorem InTurn.replies {start : State} (h : InTurn simulator start s) {turns : List ServiceTurn}
    (hTurns : turns <+: s.turns) (earlier : List ServiceTurn) (turn : ServiceTurn)
    (hTurn : earlier ++ [turn] <+: turns) :
    turn.reply = (simulator.handle turn.request (simulator.after start earlier)).1 :=
  h.reply earlier turn (hTurn.trans hTurns)

theorem InTurn.advance {start : State} (h : InTurn simulator start s) (number : Nat) :
    InTurn simulator start (s.advance simulator number) := by
  obtain ⟨hState, hTurns⟩ | ⟨request, hState, hTurns⟩ := advance_cases simulator s number
  · constructor
    · rw [hState, hTurns]
      exact h.state
    · rw [hTurns]
      exact h.reply
  · constructor
    · rw [hState, hTurns, Simulator.after_concat, ← h.state]
    · intro earlier turn hTurn
      -- Either it is the turn of this step or one that was there before.
      rw [hTurns, List.prefix_concat_iff] at hTurn
      obtain hLast | hEarlier := hTurn
      · obtain ⟨rfl, hOwn⟩ := List.append_inj' hLast rfl
        cases hOwn
        rw [← h.state]
      · exact h.reply earlier turn hEarlier

theorem InTurn.run {start : State} (h : InTurn simulator start s) (schedule : List Nat) :
    InTurn simulator start (s.run simulator schedule) :=
  run_keeps (InTurn simulator start) (fun _ number hInTurn => hInTurn.advance number) h schedule

end SideBySide

namespace ServedLink

open Simulator

/-- A connection on which some requests arrive while it is served: its messages are those of its
start and of its turns, some are said and the others due, and the requests that had no turn are
still to be read. -/
structure Underway (boot : List Frame.Message) (requests : List DeviceRequest)
    (turns : List ServiceTurn) (link : ServedLink) (said : List Frame.Message)
    (left : List Frame) : Prop where
  ended : link.ended = none
  ready : Ready link.writer
  yields : link.reader.Yields left
  requests : requests = turns.map ServiceTurn.request ++ left.filterMap Frame.request?
  messages : boot ++ ServiceTurn.messages turns = said ++ link.due
  fits : ∀ message ∈ said, Fits message = true
  sent : link.sent = Frame.encodeAll said

inductive Progress (boot : List Frame.Message) (requests : List DeviceRequest)
    (turns : List ServiceTurn) (link : ServedLink) : Prop where
  | underway {said : List Frame.Message} {left : List Frame}
      (h : Underway boot requests turns link said left)
  | closed (hEnded : link.ended = some none) (hRequests : requests = turns.map ServiceTurn.request)
      (hFits : ∀ message ∈ boot ++ ServiceTurn.messages turns, Fits message = true)
      (hSent : link.sent = Frame.encodeAll (boot ++ ServiceTurn.messages turns))
  | broken {said rest : List Frame.Message} {message : Frame.Message}
      (hEnded : link.ended =
        some (some (.payloadTooLarge message.2.length Frame.defaultMaxPayload)))
      (hRequests : turns.map ServiceTurn.request <+: requests)
      (hMessages : boot ++ ServiceTurn.messages turns = said ++ message :: rest)
      (hFits : ∀ message ∈ said, Fits message = true) (hUnfit : Fits message = false)
      (hSent : link.sent = Frame.encodeAll said)

/-- What such a connection has come to for the host: the requests have their turns in the order in
which they arrive, and their messages are sent in that order behind the boot messages. If the
connection ends with its stream then none is left out, and if it ends before then it is for the
first message that fits no frame. -/
structure Heard (boot : List Frame.Message) (requests : List DeviceRequest)
    (turns : List ServiceTurn) (link : ServedLink) : Prop where
  order : turns.map ServiceTurn.request <+: requests
  sent : ∃ said, said <+: boot ++ ServiceTurn.messages turns ∧ link.sent = Frame.encodeAll said
  closed : link.ended = some none → turns.map ServiceTurn.request = requests ∧
    link.sent = Frame.encodeAll (boot ++ ServiceTurn.messages turns)
  broken : ∀ error, link.ended = some (some error) →
    breach? (boot ++ ServiceTurn.messages turns) = some error ∧
      link.sent = delivered (boot ++ ServiceTurn.messages turns)

section Progressing

variable {simulator : Simulator State} {link : ServedLink} {boot : List Frame.Message}
  {requests : List DeviceRequest} {turns : List ServiceTurn}

theorem underway_start (simulator : Simulator State) {script : List Frame.ReadEvent}
    {bytes : List UInt8} {writer : Frame.Writer} (hBrings : Frame.ReadEvent.Brings script bytes)
    (hReady : Ready writer) :
    Underway (simulator.bootLog.map bootMessage)
      ((Frame.ofWire Frame.defaultMaxPayload bytes).filterMap Frame.request?) []
      (start simulator script writer) [] (Frame.ofWire Frame.defaultMaxPayload bytes) where
  ended := rfl
  ready := hReady
  yields := Frame.Reader.yields_new hBrings _
  requests := rfl
  messages := List.append_nil _
  fits := List.forall_mem_nil _
  sent := rfl

theorem Underway.say {said rest : List Frame.Message} {left : List Frame} {message : Frame.Message}
    (h : Underway boot requests turns link said left) (hDue : link.due = message :: rest)
    (simulator : Simulator State) (state : State) :
    Progress boot requests turns (link.advance simulator state).1 := by
  have hMessages := h.messages
  rw [hDue] at hMessages
  cases hFits : Fits message with
  | true =>
    obtain ⟨writer, hSend, hWriter⟩ := h.ready.send_fits hFits
    rw [advance_said simulator h.ended hDue hSend state]
    have hSaid : Underway boot requests turns { link with
        writer, due := rest, sent := link.sent ++ Frame.encode message.1 message.2 }
        (said ++ [message]) left := { h with
      ready := hWriter
      messages := by rw [hMessages, List.append_assoc]; rfl
      fits := List.forall_mem_append.mpr ⟨h.fits, List.forall_mem_singleton.mpr hFits⟩
      sent := by rw [h.sent]; simp [Frame.encodeAll] }
    exact .underway hSaid
  | false =>
    rw [advance_unsaid simulator h.ended hDue (h.ready.send_unfit hFits) state]
    have hTurns : turns.map ServiceTurn.request <+: requests := by
      rw [h.requests]
      exact List.prefix_append _ _
    exact .broken rfl hTurns hMessages h.fits hFits ((List.append_nil _).trans h.sent)

theorem Underway.attend {said : List Frame.Message} {left : List Frame} {frame : Frame}
    {reader : Frame.Reader} (h : Underway boot requests turns link said (frame :: left))
    (hDue : link.due = []) (hNext : link.reader.next = (.ok frame, reader))
    (hLeft : reader.Yields left) (number : Nat) (state : State) :
    Progress boot requests (turns ++ (link.turn? simulator number state).toList)
      (link.advance simulator state).1 := by
  have hMessages := h.messages
  have hRequests := h.requests
  rw [hDue, List.append_nil] at hMessages
  cases hFrame : frame.request? with
  | none =>
    obtain ⟨hAdvance, hRequest⟩ :=
      advance_other simulator h.ended hDue hNext hFrame state
    rw [List.filterMap_cons_none hFrame] at hRequests
    rw [hAdvance, turn?, hRequest]
    refine @Progress.underway _ _ _ _ said left { h with
      yields := hLeft
      requests := ?_
      messages := ?_ }
    · simpa using hRequests
    · simpa using hMessages
  | some request =>
    obtain ⟨hAdvance, hRequest⟩ :=
      advance_request simulator h.ended hDue hNext hFrame state
    rw [List.filterMap_cons_some hFrame] at hRequests
    rw [hAdvance, turn?, hRequest]
    refine @Progress.underway _ _ _ _ said left { h with
      yields := hLeft
      requests := ?_
      messages := ?_ }
    · simpa using hRequests
    · dsimp only [Option.map_some, Option.toList_some]
      rw [ServiceTurn.messages_concat, ← List.append_assoc, hMessages]
      rfl

theorem Progress.advance (h : Progress boot requests turns link) (simulator : Simulator State)
    (number : Nat) (state : State) :
    Progress boot requests (turns ++ (link.turn? simulator number state).toList)
      (link.advance simulator state).1 := by
  have hNoTurn (hRequest : link.request? = none) :
      turns ++ (link.turn? simulator number state).toList = turns := by
    rw [turn?, hRequest]
    exact List.append_nil turns
  have hOver {outcome : Option FrameError} (hEnded : link.ended = some outcome) :
      Progress boot requests (turns ++ (link.turn? simulator number state).toList)
        (link.advance simulator state).1 := by
    obtain ⟨hAdvance, hRequest⟩ := advance_ended simulator hEnded state
    rwa [hAdvance, hNoTurn hRequest]
  cases h with
  | closed hEnded => exact hOver hEnded
  | broken hEnded => exact hOver hEnded
  | @underway said left h =>
    cases hDue : link.due with
    | cons message rest =>
      rw [hNoTurn (request?_due hDue)]
      exact h.say hDue simulator state
    | nil =>
      cases h.yields with
      | frame hNext hRest => exact h.attend hDue hNext hRest number state
      | closed hNext =>
        obtain ⟨hAdvance, hRequest⟩ :=
          advance_closed simulator h.ended hDue hNext state
        have hMessages := h.messages
        rw [hDue, List.append_nil] at hMessages
        rw [hAdvance, hNoTurn hRequest]
        refine .closed rfl ?_ (hMessages ▸ h.fits) (hMessages ▸ h.sent)
        rw [h.requests, List.filterMap_nil, List.append_nil]

theorem Progress.heard (h : Progress boot requests turns link) :
    Heard boot requests turns link := by
  cases h with
  | @underway said left h =>
    refine ⟨?_, ⟨said, ?_, h.sent⟩, ?_, ?_⟩
    · rw [h.requests]
      exact List.prefix_append _ _
    · rw [h.messages]
      exact List.prefix_append _ _
    · intro hEnded
      rw [h.ended] at hEnded
      cases hEnded
    · intro error hEnded
      rw [h.ended] at hEnded
      cases hEnded
  | closed hEnded hRequests hFits hSent =>
    refine ⟨hRequests ▸ List.prefix_refl _, ⟨_, List.prefix_refl _, hSent⟩,
      fun _ => ⟨hRequests.symm, hSent⟩, ?_⟩
    intro error hBroken
    rw [hEnded] at hBroken
    cases hBroken
  | @broken said rest message hEnded hRequests hMessages hFits hUnfit hSent =>
    refine ⟨hRequests, ⟨said, ?_, hSent⟩, ?_, ?_⟩
    · rw [hMessages]
      exact List.prefix_append _ _
    · intro hClosed
      rw [hEnded] at hClosed
      cases hClosed
    · intro error hBroken
      rw [hEnded] at hBroken
      cases hBroken
      have hSaid := breach?_of_fits hFits
      rw [hMessages, breach?_append_of_none hSaid, breach?_cons_unfit hUnfit,
        delivered_append_of_none hSaid, delivered_of_fits hFits,
        delivered_cons_unfit hUnfit, List.append_nil]
      exact ⟨rfl, hSent⟩

end Progressing

end ServedLink

namespace SideBySide

open Simulator

section Connection

variable {s : SideBySide State} {number : Nat} {link : ServedLink} {boot : List Frame.Message}
  {requests : List DeviceRequest}

theorem advance_eq (simulator : Simulator State) (hLink : s.links[number]? = some link) :
    s.advance simulator number =
      ⟨(link.advance simulator s.state).2, s.links.set number (link.advance simulator s.state).1,
        s.turns ++ (link.turn? simulator number s.state).toList⟩ := by
  simp only [advance, hLink]

theorem turnsOf_advance (simulator : Simulator State) (hLink : s.links[number]? = some link) :
    (s.advance simulator number).links[number]? = some (link.advance simulator s.state).1 ∧
      (s.advance simulator number).turnsOf number =
        s.turnsOf number ++ (link.turn? simulator number s.state).toList := by
  have hLength : number < s.links.length := (List.getElem?_eq_some_iff.mp hLink).1
  have hOwn : (link.turn? simulator number s.state).toList.filter
      (fun turn => turn.link = number) = (link.turn? simulator number s.state).toList := by
    unfold ServedLink.turn?
    cases link.request? <;> simp
  rw [advance_eq simulator hLink]
  constructor
  · exact List.getElem?_set_self hLength
  · rw [turnsOf, List.filter_append, hOwn, turnsOf]

theorem turnsOf_advance_other (simulator : Simulator State) (s : SideBySide State) {other : Nat}
    (hOther : other ≠ number) :
    (s.advance simulator other).links[number]? = s.links[number]? ∧
      (s.advance simulator other).turnsOf number = s.turnsOf number := by
  cases hLink : s.links[other]? with
  | none => simp [advance, hLink]
  | some link =>
    have hForeign : (link.turn? simulator other s.state).toList.filter
        (fun turn => turn.link = number) = [] := by
      unfold ServedLink.turn?
      cases link.request? <;> simp [hOther]
    constructor
    · simp [advance, hLink, hOther]
    · simp only [advance, hLink, turnsOf, List.filter_append, hForeign, List.append_nil]

def LinkProgress (s : SideBySide State) (boot : List Frame.Message)
    (requests : List DeviceRequest) (number : Nat) : Prop :=
  ∃ link, s.links[number]? = some link ∧ link.Progress boot requests (s.turnsOf number)

theorem linkProgress_start (simulator : Simulator State) (state : State)
    {connections : List (List Frame.ReadEvent × Frame.Writer)} {script : List Frame.ReadEvent}
    {writer : Frame.Writer} {bytes : List UInt8}
    (hConnection : connections[number]? = some (script, writer))
    (hBrings : Frame.ReadEvent.Brings script bytes) (hReady : Ready writer) :
    LinkProgress (start simulator state connections) (simulator.bootLog.map bootMessage)
      ((Frame.ofWire Frame.defaultMaxPayload bytes).filterMap Frame.request?) number := by
  have hUnderway := ServedLink.underway_start simulator hBrings hReady
  refine ⟨.start simulator script writer, ?_, .underway hUnderway⟩
  rw [start, List.getElem?_map, hConnection]
  rfl

theorem LinkProgress.advance (h : LinkProgress s boot requests number)
    (simulator : Simulator State) (other : Nat) :
    LinkProgress (s.advance simulator other) boot requests number := by
  obtain ⟨link, hLink, hProgress⟩ := h
  by_cases hOther : other = number
  · subst hOther
    obtain ⟨hMoved, hTurns⟩ := turnsOf_advance simulator hLink
    refine ⟨_, hMoved, ?_⟩
    rw [hTurns]
    exact hProgress.advance simulator other s.state
  · obtain ⟨hSame, hTurns⟩ := turnsOf_advance_other simulator s hOther
    refine ⟨link, hSame.trans hLink, ?_⟩
    rwa [hTurns]

theorem LinkProgress.run (h : LinkProgress s boot requests number) (simulator : Simulator State)
    (schedule : List Nat) : LinkProgress (s.run simulator schedule) boot requests number :=
  run_keeps (LinkProgress · boot requests number)
    (fun _ other hProgress => hProgress.advance simulator other) h schedule

end Connection

end SideBySide

namespace ServedLink

open Simulator

section Alone

variable {simulator : Simulator State}

/-- What comes of a connection and of the state if its thread advances so many times and no other
does. -/
def alone (simulator : Simulator State) (link : ServedLink) (state : State) (count : Nat) :
    ServedLink × State :=
  (fun current => current.1.advance simulator current.2)^[count] (link, state)

theorem alone_succ (simulator : Simulator State) (link : ServedLink) (state : State)
    (count : Nat) :
    link.alone simulator state (count + 1) =
      (link.advance simulator state).1.alone simulator (link.advance simulator state).2 count :=
  Function.iterate_succ_apply _ _ _

structure Becomes (link : ServedLink) (served : Served State) (last : ServedLink × State) :
    Prop where
  state : last.2 = served.state
  sent : last.1.sent = link.sent ++ served.sent
  stats : last.1.stats = served.stats
  ended : last.1.ended = some served.failure

theorem Becomes.behind {link moved : ServedLink} {served : Served State}
    {last : ServedLink × State} {sent : List UInt8} (h : moved.Becomes served last)
    (hSent : moved.sent = link.sent ++ sent) : link.Becomes (served.behind sent) last where
  state := h.state
  sent := by rw [h.sent, hSent, List.append_assoc]; rfl
  stats := h.stats
  ended := h.ended

theorem answerFrom_is_run (simulator : Simulator State) {link : ServedLink}
    (hEnded : link.ended = none) (hDue : link.due = []) (state : State) :
    ∃ count, link.Becomes (simulator.answerFrom link.reader link.writer link.stats state)
      (link.alone simulator state count) := by
  generalize hReader : link.reader = reader
  generalize hWriter : link.writer = writer
  generalize hStats : link.stats = stats
  fun_induction simulator.answerFrom reader writer stats state generalizing link with
  | case1 reader writer stats state after hNext =>
    subst hReader hStats
    refine ⟨1, ?_⟩
    rw [alone_succ, (advance_closed simulator hEnded hDue hNext state).1]
    exact ⟨rfl, (List.append_nil _).symm, rfl, rfl⟩
  | case2 reader writer stats state error after hError hNext =>
    subst hReader hStats
    refine ⟨1, ?_⟩
    rw [alone_succ, (advance_failed simulator hEnded hDue hNext hError state).1]
    exact ⟨rfl, (List.append_nil _).symm, rfl, rfl⟩
  | case3 reader writer stats state frame after hNext more next hAttend ih =>
    subst hReader hWriter hStats
    let attended : ServedLink := { link with reader := after, stats := more, due := [] }
    have hAttended : attended.ended = none := hEnded
    obtain ⟨count, hCount⟩ := ih hAttended rfl rfl rfl rfl
    refine ⟨count + 1, ?_⟩
    rw [alone_succ, (advance_frame simulator hEnded hDue hNext hAttend).1]
    exact ⟨hCount.state, hCount.sent, hCount.stats, hCount.ended⟩
  | case4 reader writer stats state frame after hNext response more next hAttend error sent left
      hSend =>
    subst hReader hWriter hStats
    let attended : ServedLink :=
      { link with reader := after, stats := more, due := [responseMessage response] }
    have hAttended : attended.ended = none := hEnded
    have hSecond := advance_unsaid simulator hAttended rfl hSend next
    refine ⟨2, ?_⟩
    rw [alone_succ, (advance_frame simulator hEnded hDue hNext hAttend).1, alone_succ]
    dsimp only [Option.map_some, Option.toList_some]
    rw [hSecond]
    exact ⟨rfl, rfl, rfl, rfl⟩
  | case5 reader writer stats state frame after hNext response more next hAttend sent left hSend
      ih =>
    subst hReader hWriter hStats
    let attended : ServedLink :=
      { link with reader := after, stats := more, due := [responseMessage response] }
    have hAttended : attended.ended = none := hEnded
    have hSecond := advance_said simulator hAttended rfl hSend next
    let moved : ServedLink :=
      { attended with writer := left, due := [], sent := link.sent ++ sent }
    have hMoved : moved.ended = none := hEnded
    obtain ⟨count, hCount⟩ := ih hMoved rfl rfl rfl rfl
    refine ⟨count + 2, ?_⟩
    rw [alone_succ, (advance_frame simulator hEnded hDue hNext hAttend).1, alone_succ]
    dsimp only [Option.map_some, Option.toList_some]
    rw [hSecond]
    exact hCount.behind rfl

theorem serving_is_run (simulator : Simulator State) {link : ServedLink}
    (hEnded : link.ended = none) {lines : List String} (hDue : link.due = lines.map bootMessage)
    (state : State) :
    ∃ count, link.Becomes
      (match sendBoot link.writer lines with
        | (.error error, sent, _) => ⟨sent, link.stats, state, some error⟩
        | (.ok (), sent, writer) =>
          (simulator.answerFrom link.reader writer link.stats state).behind sent)
      (link.alone simulator state count) := by
  induction lines generalizing link with
  | nil =>
    obtain ⟨count, hCount⟩ := answerFrom_is_run simulator hEnded hDue state
    exact ⟨count, hCount.behind (List.append_nil _).symm⟩
  | cons line rest ih =>
    rw [sendBoot]
    rcases hSend : link.writer.send Frame.logAddress (Utf8.bytes line) with
      ⟨error | ⟨⟩, sent, writer⟩
    · refine ⟨1, ?_⟩
      rw [alone_succ, advance_unsaid simulator hEnded hDue hSend state]
      exact ⟨rfl, rfl, rfl, rfl⟩
    · have hFirst := advance_said simulator hEnded hDue hSend state
      let moved : ServedLink :=
        { link with writer, due := rest.map bootMessage, sent := link.sent ++ sent }
      have hMoved : moved.ended = none := hEnded
      obtain ⟨count, hCount⟩ := ih hMoved rfl
      refine ⟨count + 1, ?_⟩
      rw [alone_succ, hFirst]
      dsimp only
      rcases hRest : sendBoot writer rest with ⟨error | ⟨⟩, more, last⟩
      · rw [show sendBoot moved.writer rest = _ from hRest] at hCount
        exact hCount.behind rfl
      · rw [show sendBoot moved.writer rest = _ from hRest] at hCount
        dsimp only
        rw [← Served.behind_behind]
        exact hCount.behind rfl

theorem due_advance {link : ServedLink} {message : Frame.Message} {rest : List Frame.Message}
    (hEnded : link.ended = none) (hDue : link.due = message :: rest) (state : State) :
    (link.advance simulator state).1.due = rest := by
  rcases hSend : link.writer.send message.1 message.2 with ⟨error | ⟨⟩, sent, writer⟩
  · rw [advance_unsaid simulator hEnded hDue hSend]
  · rw [advance_said simulator hEnded hDue hSend]

theorem alone_ends (simulator : Simulator State) (link : ServedLink) (state : State) :
    ∃ count, (link.alone simulator state count).1.ended ≠ none := by
  generalize hDue : link.due = due
  induction due generalizing link state with
  | nil =>
    by_cases hEnded : link.ended = none
    · obtain ⟨count, hCount⟩ := answerFrom_is_run simulator hEnded hDue state
      refine ⟨count, ?_⟩
      rw [hCount.ended]
      exact Option.some_ne_none _
    · exact ⟨0, hEnded⟩
  | cons message rest ih =>
    by_cases hEnded : link.ended = none
    · obtain ⟨count, hCount⟩ := ih _ (link.advance simulator state).2
        (due_advance hEnded hDue state)
      exact ⟨count + 1, hCount⟩
    · exact ⟨0, hEnded⟩

end Alone

end ServedLink

namespace SideBySide

open Simulator

theorem run_replicate (simulator : Simulator State) {s : SideBySide State} {number : Nat}
    {link : ServedLink} (hLink : s.links[number]? = some link) (count : Nat) :
    (s.run simulator (List.replicate count number)).links =
        s.links.set number (link.alone simulator s.state count).1 ∧
      (s.run simulator (List.replicate count number)).state =
        (link.alone simulator s.state count).2 := by
  induction count generalizing s link with
  | zero =>
    refine ⟨?_, rfl⟩
    obtain ⟨hLength, rfl⟩ := List.getElem?_eq_some_iff.mp hLink
    exact (List.set_getElem_self hLength).symm
  | succ count ih =>
    have hMoved := ih (turnsOf_advance simulator hLink).1
    rw [advance_eq simulator hLink, List.set_set, ← ServedLink.alone_succ,
      ← advance_eq simulator hLink] at hMoved
    exact hMoved

/-- Whatever the threads have done so far, a connection that starts now and is not kept waiting by
others is served as it is on its own. -/
theorem serveLink_is_run (simulator : Simulator State) {s : SideBySide State} {number : Nat}
    {script : List Frame.ReadEvent} {writer : Frame.Writer}
    (hLink : s.links[number]? = some (.start simulator script writer)) :
    ∃ count last, let served :=
        simulator.serveLink s.state (.new Frame.defaultMaxPayload script) writer
      let t := s.run simulator (List.replicate count number)
      t.state = served.state ∧ t.links = s.links.set number last ∧ last.sent = served.sent ∧
        last.stats = served.stats ∧ last.ended = some served.failure := by
  obtain ⟨count, hCount⟩ : ∃ count, (ServedLink.start simulator script writer).Becomes
      (simulator.serveLink s.state (.new Frame.defaultMaxPayload script) writer)
      ((ServedLink.start simulator script writer).alone simulator s.state count) :=
    ServedLink.serving_is_run simulator rfl rfl s.state
  obtain ⟨hLinks, hState⟩ := run_replicate simulator hLink count
  exact ⟨count, _, hState.trans hCount.state, hLinks, hCount.sent, hCount.stats, hCount.ended⟩

/-- Every connection can be served to its end, whatever the threads have done so far. -/
theorem run_ends (simulator : Simulator State) {s : SideBySide State} {number : Nat}
    {link : ServedLink} (hLink : s.links[number]? = some link) :
    ∃ count last, (s.run simulator (List.replicate count number)).links[number]? = some last ∧
      last.ended ≠ none := by
  obtain ⟨count, hEnded⟩ := ServedLink.alone_ends simulator link s.state
  have hLength := (List.getElem?_eq_some_iff.mp hLink).1
  refine ⟨count, _, ?_, hEnded⟩
  rw [(run_replicate simulator hLink count).1, List.getElem?_set_self hLength]

theorem run_due (simulator : Simulator State) {s : SideBySide State} {number : Nat}
    {link : ServedLink} (hLink : s.links[number]? = some link) (hEnded : link.ended = none)
    (hReady : Ready link.writer) (hFits : ∀ message ∈ link.due, Fits message = true) :
    ∃ idle, s.run simulator (List.replicate link.due.length number) =
        { s with links := s.links.set number idle } ∧
      idle.ended = none ∧ idle.due = [] ∧ idle.reader = link.reader ∧
      idle.sent = link.sent ++ Frame.encodeAll link.due := by
  generalize hDue : link.due = due at hFits
  induction due generalizing s link with
  | nil =>
    obtain ⟨hLength, rfl⟩ := List.getElem?_eq_some_iff.mp hLink
    refine ⟨_, ?_, hEnded, hDue, rfl, (List.append_nil _).symm⟩
    rw [List.set_getElem_self]
    rfl
  | cons message rest ih =>
    obtain ⟨hMessage, hRest⟩ := List.forall_mem_cons.mp hFits
    obtain ⟨writer, hSend, hWriter⟩ := hReady.send_fits hMessage
    have hFirst := ServedLink.advance_said simulator hEnded hDue hSend s.state
    have hMoved := (turnsOf_advance simulator hLink).1
    rw [hFirst] at hMoved
    obtain ⟨idle, hRun, hIdle, hNothing, hReader, hSent⟩ := ih hMoved hEnded hWriter rfl hRest
    refine ⟨idle, ?_, hIdle, hNothing, hReader, hSent.trans (List.append_assoc _ _ _)⟩
    rw [List.length_cons, List.replicate_succ]
    refine hRun.trans ?_
    rw [advance_eq simulator hLink, hFirst, ServedLink.turn?, ServedLink.request?_due hDue]
    simp

/-- A connection that starts now sends its boot messages and takes its first request to a
service. -/
theorem run_first (simulator : Simulator State) {s : SideBySide State} {number : Nat}
    {script : List Frame.ReadEvent} {writer : Frame.Writer} {reader : Frame.Reader} {frame : Frame}
    {request : DeviceRequest} (hLink : s.links[number]? = some (.start simulator script writer))
    (hReady : Ready writer)
    (hBoot : ∀ message ∈ simulator.bootLog.map bootMessage, Fits message = true)
    (hNext : (Frame.Reader.new Frame.defaultMaxPayload script).next = (.ok frame, reader))
    (hFrame : frame.request? = some request) :
    ∃ last, s.run simulator (List.replicate (simulator.bootLog.length + 1) number) =
      ⟨(simulator.handle request s.state).2, s.links.set number last,
        s.turns ++ [⟨number, request, (simulator.handle request s.state).1⟩]⟩ := by
  obtain ⟨idle, hSaid, hEnded, hDue, hReader, -⟩ := run_due simulator hLink rfl hReady hBoot
  obtain ⟨hAdvance, hRequest⟩ := ServedLink.advance_request simulator hEnded hDue
    ((congrArg Frame.Reader.next hReader).trans hNext) hFrame s.state
  have hLength := (List.getElem?_eq_some_iff.mp hLink).1
  have hFound : (s.links.set number idle)[number]? = some idle := List.getElem?_set_self hLength
  rw [ServedLink.start, List.length_map] at hSaid
  rw [List.replicate_succ', run_append, hSaid]
  refine ⟨(idle.advance simulator s.state).1, ?_⟩
  change advance simulator { s with links := s.links.set number idle } number = _
  rw [advance_eq simulator hFound, ServedLink.turn?, hRequest, List.set_set, hAdvance]
  rfl

end SideBySide

end DeviceRig
