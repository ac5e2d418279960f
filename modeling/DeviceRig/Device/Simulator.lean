import DeviceRig.Device.Service
import DeviceRig.Frame.Reader
import DeviceRig.Frame.Writer
import DeviceRig.Text.Quoted

/-!
A simulated device. On every connection it first sends its boot lines as log frames, and then
answers the requests that it decodes, one after the other. Frames with a bad checksum are counted;
frames on other channels, responses and what is no packet are ignored. A frame that is too large to
be sent ends the connection.
-/
namespace DeviceRig

open Json

structure Simulator (State : Type) where
  services : List (String × Service State)
  bootLog : List String

namespace Simulator

variable {State : Type}

def withService (simulator : Simulator State) (name : String) (service : Service State) :
    Simulator State :=
  { simulator with
    services := (simulator.services.filter fun entry => entry.1 ≠ name) ++ [(name, service)] }

def withAutomation (simulator : Simulator State) (name : String) (service : Service State) :
    Simulator State :=
  simulator.withService (Packet.qualifiedService Packet.automationNamespace name) service

def withBootLog (simulator : Simulator State) (lines : List String) : Simulator State :=
  { simulator with bootLog := simulator.bootLog ++ lines }

def basic : Simulator State :=
  withService ⟨[], []⟩ (Packet.qualifiedService Packet.diagnosticNamespace Packet.echoService)
    Service.echo

def demo : Simulator Members :=
  (basic.withBootLog ["boot: devlink simulator", "boot: lighting ready"]).withAutomation
    "Lighting" Service.lighting

def describe (simulator : Simulator State) : String :=
  let names := (simulator.services.map Prod.fst).mergeSort fun a b => a ≤ b
  "Simulator \x7b services: [" ++ String.intercalate ", " (names.map Text.quoted)
    ++ "], boot_log: " ++ toString simulator.bootLog.length ++ " \x7d"

structure Stats where
  requests : UInt64
  invalidFrames : UInt64
deriving DecidableEq, Repr, Inhabited

inductive Reaction where
  | invalid
  | ignored
  | request (response : Option Packet)

def apply (simulator : Simulator State) (service method : String) (kwargs : Members)
    (state : State) : ServiceReply × State :=
  match simulator.services.lookup service with
  | some serve => serve method kwargs state
  | none => (.nack, state)

def react (simulator : Simulator State) (state : State) (frame : Frame) : Reaction × State :=
  if !frame.valid then (.invalid, state)
  else if frame.address ≠ Frame.callAddress then (.ignored, state)
  else
    match Packet.decode frame.payload with
    | .ok (.request callId service method kwargs) =>
      match simulator.apply service method kwargs state with
      | (.ack payload, state) => (.request (some (.response callId true payload)), state)
      | (.nack, state) => (.request (some (.response callId false [])), state)
      | (.ignore, state) => (.request none, state)
    | .ok (.response ..) | .error _ => (.ignored, state)

/-- What a frame leaves to be sent, and the counters and the state behind it. -/
def attend (simulator : Simulator State) (stats : Stats) (state : State) (frame : Frame) :
    Option Packet × Stats × State :=
  match simulator.react state frame with
  | (.invalid, state) => (none, { stats with invalidFrames := stats.invalidFrames + 1 }, state)
  | (.ignored, state) => (none, stats, state)
  | (.request response, state) =>
    (response, { stats with requests := stats.requests + 1 }, state)

/-- One connection as far as it was served: what was sent, the counters, the state of the services,
and why it ended early if it did. -/
structure Served (State : Type) where
  sent : List UInt8
  stats : Stats
  state : State
  failure : Option FrameError

def Served.behind (served : Served State) (sent : List UInt8) : Served State :=
  { served with sent := sent ++ served.sent }

def sendFrame (address : UInt8) (payload : List UInt8) : Except FrameError (List UInt8) :=
  if Frame.defaultMaxPayload < payload.length then
    .error (.payloadTooLarge payload.length Frame.defaultMaxPayload)
  else .ok (Frame.encode address payload)

/-- Sends the boot lines up to the first one that cannot be sent. -/
def sendBoot (writer : Frame.Writer) : List String → Frame.Writer.Answer
  | [] => (.ok (), [], writer)
  | line :: rest =>
    match writer.send Frame.logAddress (Utf8.bytes line) with
    | (.error error, sent, writer) => (.error error, sent, writer)
    | (.ok (), sent, writer) =>
      let (outcome, more, writer) := sendBoot writer rest
      (outcome, sent ++ more, writer)

def answerFrom (simulator : Simulator State) (reader : Frame.Reader) (writer : Frame.Writer)
    (stats : Stats) (state : State) : Served State :=
  match _h : reader.next with
  | (.error .closed, _) => ⟨[], stats, state, none⟩
  | (.error error, _) => ⟨[], stats, state, some error⟩
  | (.ok frame, after) =>
    match simulator.attend stats state frame with
    | (none, stats, state) => simulator.answerFrom after writer stats state
    | (some response, stats, state) =>
      match writer.send Frame.callAddress response.encode with
      | (.error error, sent, _) => ⟨sent, stats, state, some error⟩
      | (.ok (), sent, writer) => (simulator.answerFrom after writer stats state).behind sent
termination_by (Frame.ReadEvent.weight reader.script, reader.pending.length)
decreasing_by
  · exact Frame.Reader.measure_next_lt _h
  · exact Frame.Reader.measure_next_lt _h

/-- Serves a connection: first the boot lines, then the answers. -/
def serveLink (simulator : Simulator State) (state : State) (reader : Frame.Reader)
    (writer : Frame.Writer) : Served State :=
  match sendBoot writer simulator.bootLog with
  | (.error error, sent, _) => ⟨sent, ⟨0, 0⟩, state, some error⟩
  | (.ok (), sent, writer) => (simulator.answerFrom reader writer ⟨0, 0⟩ state).behind sent

def openWriter : Frame.Writer := .new Frame.defaultMaxPayload [] []

def boot (stats : Stats) (state : State) (lines : List String) : Served State :=
  match sendBoot openWriter lines with
  | (.error error, sent, _) => ⟨sent, stats, state, some error⟩
  | (.ok (), sent, _) => ⟨sent, stats, state, none⟩

def answer (simulator : Simulator State) (stats : Stats) (state : State) (frames : List Frame) :
    Served State :=
  simulator.answerFrom ⟨.new Frame.defaultMaxPayload, frames, []⟩ openWriter stats state

/-- Serves a connection on which some bytes arrive before its end. -/
def serve (simulator : Simulator State) (state : State) (received : List UInt8) : Served State :=
  simulator.serveLink state (.new Frame.defaultMaxPayload [.data received]) openWriter

end Simulator

end DeviceRig
