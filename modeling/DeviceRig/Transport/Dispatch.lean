import DeviceRig.Frame.Decoder
import DeviceRig.System.Fault

/-!
Reading a link and handing its frames out. Handlers are registered for addresses, one for each; a
valid frame goes to the handler of its address and every other frame to nobody. What a handler
makes of a frame, even a failure or a panic, does not concern the loop or the other handlers. When
the loop ends, for whatever reason, every handler is told once.
-/
namespace DeviceRig

inductive HandlerOutcome where
  | done
  | failed
  | panicked
deriving DecidableEq, Repr, Inhabited

structure HandlerBehaviour (Handler : Type) where
  handle : Frame → Handler → HandlerOutcome × Handler
  close : Handler → HandlerOutcome × Handler

abbrev Handlers (Handler : Type) := List (UInt8 × Handler)

namespace Handlers

variable {Handler : Type}

def register (handlers : Handlers Handler) (address : UInt8) (handler : Handler) :
    Handlers Handler :=
  handlers.filter (fun entry => entry.1 ≠ address) ++ [(address, handler)]

def find? (handlers : Handlers Handler) (address : UInt8) : Option Handler :=
  handlers.lookup address

def dispatch (behaviour : HandlerBehaviour Handler) (handlers : Handlers Handler)
    (frame : Frame) : Handlers Handler :=
  if frame.valid then
    handlers.map fun (address, handler) =>
      if address = frame.address then (address, (behaviour.handle frame handler).2)
      else (address, handler)
  else handlers

def dispatchAll (behaviour : HandlerBehaviour Handler) (handlers : Handlers Handler)
    (frames : List Frame) : Handlers Handler :=
  frames.foldl (dispatch behaviour) handlers

def close (behaviour : HandlerBehaviour Handler) (handlers : Handlers Handler) :
    Handlers Handler :=
  handlers.map fun (address, handler) => (address, (behaviour.close handler).2)

end Handlers

/-- What one turn of the loop meets: a stop request, nothing within the wait, a failure to wait, or
a read with its outcome. No bytes are the end of the stream. -/
inductive LoopTurn where
  | stopRequested
  | nothingReady
  | waitFailed (fault : Fault)
  | readFailed (fault : Fault)
  | data (bytes : List UInt8)
deriving DecidableEq, Repr, Inhabited

def LoopTurn.goesOn : LoopTurn → Bool
  | .stopRequested | .waitFailed _ => false
  | .nothingReady => true
  | .readFailed fault => fault.isRetried
  | .data bytes => !bytes.isEmpty

def LoopTurn.bytes : LoopTurn → List UInt8
  | .data bytes => bytes
  | _ => []

/-- Runs the loop and gives the handlers after it. -/
def runLoop {Handler : Type} (behaviour : HandlerBehaviour Handler) (decoder : Frame.Decoder)
    (handlers : Handlers Handler) : List LoopTurn → Handlers Handler
  | [] => handlers.close behaviour
  | turn :: rest =>
    if turn.goesOn then
      let (decoder, frames) := decoder.feed turn.bytes
      runLoop behaviour decoder (handlers.dispatchAll behaviour frames) rest
    else handlers.close behaviour

end DeviceRig
