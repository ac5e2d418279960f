import DeviceRig.Proofs.Frame.Stream
import DeviceRig.Transport.Dispatch
import DeviceRig.Transport.Settings

/-!
# What the handlers of a link get

Whatever the link does and whatever handlers make of their calls, each handler
gets the valid frames of its address in the order of the wire, and then one
call that tells it that the loop has ended. Handlers do not learn of each other.
-/
namespace DeviceRig

inductive HandlerCall where
  | frame (frame : Frame)
  | close
deriving DecidableEq

namespace HandlerBehaviour

variable {Handler : Type}

def answer (behaviour : HandlerBehaviour Handler) (handler : Handler) :
    HandlerCall → HandlerOutcome × Handler
  | .frame frame => behaviour.handle frame handler
  | .close => behaviour.close handler

def after (behaviour : HandlerBehaviour Handler) (calls : List HandlerCall)
    (handler : Handler) : Handler :=
  calls.foldl (fun handler call => (behaviour.answer handler call).2) handler

/-- The behaviour of handlers each of which keeps a list of its calls. -/
def recording (behaviour : HandlerBehaviour Handler) :
    HandlerBehaviour (Handler × List HandlerCall) where
  handle frame recorder :=
    let (outcome, handler) := behaviour.handle frame recorder.1
    (outcome, handler, recorder.2 ++ [.frame frame])
  close recorder :=
    let (outcome, handler) := behaviour.close recorder.1
    (outcome, handler, recorder.2 ++ [.close])

end HandlerBehaviour

/-- What happens on a link, in the order in which the loop meets it. -/
inductive LinkEvent where
  | stopRequested
  | nothingReady
  | waitFailed (fault : Fault)
  | readFailed (fault : Fault)
  | ready (bytes : List UInt8)
  | endOfStream

/-- The pieces in which bytes are read into a buffer of at least one byte. -/
def readPieces (size : Nat) (bytes : List UInt8) : List (List UInt8) :=
  if bytes = [] then []
  else bytes.take (max size 1) :: readPieces size (bytes.drop (max size 1))
termination_by bytes.length
decreasing_by
  rename_i hEmpty
  have hLength := List.length_pos_iff.mpr hEmpty
  rw [List.length_drop]
  omega

theorem readPieces_flatten (size : Nat) (bytes : List UInt8) :
    (readPieces size bytes).flatten = bytes := by
  fun_induction readPieces size bytes with
  | case1 => rfl
  | case2 bytes hEmpty ih => rw [List.flatten_cons, ih, List.take_append_drop]

theorem ne_nil_of_mem_readPieces {size : Nat} {bytes piece : List UInt8}
    (h : piece ∈ readPieces size bytes) : piece ≠ [] := by
  fun_induction readPieces size bytes with
  | case1 => cases h
  | case2 bytes hEmpty ih =>
    rcases List.mem_cons.mp h with rfl | hRest
    · intro hNil
      rcases List.take_eq_nil_iff.mp hNil with hSize | hBytes
      · omega
      · exact hEmpty hBytes
    · exact ih hRest

namespace LinkEvent

def turns (settings : WorkerSettings) : LinkEvent → List LoopTurn
  | .stopRequested => [.stopRequested]
  | .nothingReady => [.nothingReady]
  | .waitFailed fault => [.waitFailed fault]
  | .readFailed fault => [.readFailed fault]
  | .ready bytes => (readPieces settings.chunkSize bytes).map .data
  | .endOfStream => [.data []]

def endsLoop : LinkEvent → Bool
  | .stopRequested | .waitFailed _ | .endOfStream => true
  | .nothingReady | .ready _ => false
  | .readFailed fault => fault.kind ≠ .interrupted && fault.kind ≠ .wouldBlock

def bytes : LinkEvent → List UInt8
  | .ready bytes => bytes
  | _ => []

def bytesRead (events : List LinkEvent) : List UInt8 :=
  (events.takeWhile fun event => !event.endsLoop).flatMap bytes

end LinkEvent

def framesOf (frames : List Frame) (address : UInt8) : List HandlerCall :=
  (frames.filter fun frame => frame.valid && frame.address = address).map .frame

/-- The calls that the handler of an address has to get: the valid frames of the address among those
in the bytes, and one call at the end. -/
def callsOf (maxPayload : Nat) (bytes : List UInt8) (address : UInt8) : List HandlerCall :=
  framesOf (Frame.ofWire maxPayload bytes) address ++ [.close]

section Calls

variable {Handler : Type} (behaviour : HandlerBehaviour Handler)

theorem HandlerBehaviour.after_append (calls more : List HandlerCall) (handler : Handler) :
    behaviour.after (calls ++ more) handler =
      behaviour.after more (behaviour.after calls handler) :=
  List.foldl_append

theorem HandlerBehaviour.after_recording (calls past : List HandlerCall) (handler : Handler) :
    behaviour.recording.after calls (handler, past) =
      (behaviour.after calls handler, past ++ calls) := by
  induction calls generalizing handler past with
  | nil => simp [after]
  | cons call rest ih =>
    have hFirst : behaviour.recording.answer (handler, past) call =
        ((behaviour.answer handler call).1, (behaviour.answer handler call).2, past ++ [call]) := by
      cases call <;> rfl
    have hRest := ih (past ++ [call]) (behaviour.answer handler call).2
    rw [List.append_assoc, List.singleton_append] at hRest
    rw [after, List.foldl_cons, hFirst]
    exact hRest

theorem framesOf_append (frames more : List Frame) (address : UInt8) :
    framesOf (frames ++ more) address = framesOf frames address ++ framesOf more address := by
  rw [framesOf, List.filter_append, List.map_append]
  rfl

namespace Handlers

def hear (calls : UInt8 → List HandlerCall) (handlers : Handlers Handler) : Handlers Handler :=
  handlers.map fun entry => (entry.1, behaviour.after (calls entry.1) entry.2)

theorem hear_nothing (handlers : Handlers Handler) :
    handlers.hear behaviour (framesOf []) = handlers := by
  unfold hear
  exact List.map_id' handlers

theorem hear_hear (calls more : UInt8 → List HandlerCall) (handlers : Handlers Handler) :
    (handlers.hear behaviour calls).hear behaviour more =
      handlers.hear behaviour fun address => calls address ++ more address := by
  unfold hear
  rw [List.map_map]
  refine List.map_congr_left fun entry _ => ?_
  rw [Function.comp_apply, HandlerBehaviour.after_append]

theorem dispatch_eq (handlers : Handlers Handler) (frame : Frame) :
    handlers.dispatch behaviour frame = handlers.hear behaviour (framesOf [frame]) := by
  unfold dispatch framesOf
  by_cases hValid : frame.valid = true
  · rw [if_pos hValid]
    refine List.map_congr_left fun entry _ => ?_
    by_cases hAddress : entry.1 = frame.address
    · simp [hValid, hAddress, HandlerBehaviour.after, HandlerBehaviour.answer]
    · simp [hAddress, Ne.symm hAddress, HandlerBehaviour.after]
  · simp [hValid, hear, HandlerBehaviour.after]

theorem dispatchAll_eq (handlers : Handlers Handler) (frames : List Frame) :
    handlers.dispatchAll behaviour frames = handlers.hear behaviour (framesOf frames) := by
  induction frames generalizing handlers with
  | nil => exact (hear_nothing behaviour handlers).symm
  | cons frame rest ih =>
    have hRest := ih (handlers.dispatch behaviour frame)
    have hFrames : (fun address => framesOf [frame] address ++ framesOf rest address) =
        framesOf (frame :: rest) :=
      funext fun address => (framesOf_append [frame] rest address).symm
    rw [dispatch_eq, hear_hear, hFrames] at hRest
    rw [dispatchAll, List.foldl_cons, dispatch_eq]
    exact hRest

theorem close_eq (handlers : Handlers Handler) :
    handlers.close behaviour = handlers.hear behaviour fun _ => [.close] :=
  rfl

end Handlers

def LoopTurn.bytesRead (turns : List LoopTurn) : List UInt8 :=
  (turns.takeWhile LoopTurn.goesOn).flatMap LoopTurn.bytes

theorem runLoop_eq (decoder : Frame.Decoder) (handlers : Handlers Handler)
    (turns : List LoopTurn) :
    runLoop behaviour decoder handlers turns = handlers.hear behaviour fun address =>
      framesOf (decoder.feed (LoopTurn.bytesRead turns)).2 address ++ [.close] := by
  have hEnd : ∀ decoder : Frame.Decoder,
      (fun address => framesOf (decoder.feed []).2 address ++ [.close]) = fun _ => [.close] := by
    intro decoder
    rw [Frame.Decoder.feed_eq_walk]
    rfl
  induction turns generalizing decoder handlers with
  | nil => rw [runLoop, Handlers.close_eq, LoopTurn.bytesRead, List.takeWhile_nil,
      List.flatMap_nil, hEnd]
  | cons turn rest ih =>
    cases hGoesOn : turn.goesOn with
    | false =>
      rw [runLoop, hGoesOn, LoopTurn.bytesRead, List.takeWhile_cons_of_neg (by simp [hGoesOn]),
        List.flatMap_nil, hEnd]
      rfl
    | true =>
      have hBytes : LoopTurn.bytesRead (turn :: rest) = turn.bytes ++ LoopTurn.bytesRead rest := by
        rw [LoopTurn.bytesRead, List.takeWhile_cons_of_pos hGoesOn, List.flatMap_cons]
        rfl
      rw [runLoop, if_pos hGoesOn]
      dsimp only
      -- The decoder keeps what a frame lacks, so two pieces have the frames of both together.
      rw [ih, Handlers.dispatchAll_eq, Handlers.hear_hear, hBytes, Frame.Decoder.feed_append]
      refine congrArg (handlers.hear behaviour) (funext fun address => ?_)
      rw [← List.append_assoc, ← framesOf_append]

theorem runLoop_recording (maxPayload : Nat) (handlers : Handlers Handler)
    (turns : List LoopTurn) :
    runLoop behaviour.recording (.new maxPayload)
        (handlers.map fun entry => (entry.1, entry.2, [])) turns =
      handlers.map fun entry =>
        (entry.1, behaviour.after (callsOf maxPayload (LoopTurn.bytesRead turns) entry.1) entry.2,
          callsOf maxPayload (LoopTurn.bytesRead turns) entry.1) := by
  rw [runLoop_eq, Handlers.hear, List.map_map, Frame.Decoder.feed_new]
  refine List.map_congr_left fun entry _ => ?_
  rw [Function.comp_apply, HandlerBehaviour.after_recording, List.nil_append]
  rfl

end Calls

namespace LinkEvent

variable (settings : WorkerSettings)

theorem turns_of_endsLoop {event : LinkEvent} (h : event.endsLoop = true) :
    ∃ turn, event.turns settings = [turn] ∧ turn.goesOn = false := by
  cases event with
  | stopRequested => exact ⟨_, rfl, rfl⟩
  | nothingReady => cases h
  | waitFailed fault => exact ⟨_, rfl, rfl⟩
  | readFailed fault =>
    refine ⟨_, rfl, ?_⟩
    simpa [endsLoop, LoopTurn.goesOn, Fault.isRetried] using h
  | ready bytes => cases h
  | endOfStream => exact ⟨_, rfl, rfl⟩

theorem turns_of_goesOn {event : LinkEvent} (h : event.endsLoop = false) :
    (∀ turn ∈ event.turns settings, turn.goesOn = true) ∧
      (event.turns settings).flatMap LoopTurn.bytes = event.bytes := by
  cases event with
  | stopRequested => cases h
  | nothingReady => exact ⟨by simp [turns, LoopTurn.goesOn], rfl⟩
  | waitFailed fault => cases h
  | readFailed fault =>
    refine ⟨fun turn hTurn => ?_, rfl⟩
    obtain rfl := List.mem_singleton.mp hTurn
    have hKind : fault.kind = .interrupted ∨ fault.kind = .wouldBlock :=
      Decidable.or_iff_not_imp_left.mpr (by simpa [endsLoop] using h)
    simpa [LoopTurn.goesOn, Fault.isRetried] using hKind
  | ready bytes =>
    constructor
    · intro turn hTurn
      obtain ⟨piece, hPiece, rfl⟩ := List.mem_map.mp hTurn
      simpa [LoopTurn.goesOn] using ne_nil_of_mem_readPieces hPiece
    · have hBytes : (readPieces settings.chunkSize bytes).flatMap
          (fun piece => (LoopTurn.data piece).bytes) = bytes :=
        List.flatMap_id.trans (readPieces_flatten settings.chunkSize bytes)
      rw [turns, List.flatMap_map]
      exact hBytes
  | endOfStream => cases h

theorem bytesRead_turns (events : List LinkEvent) :
    LoopTurn.bytesRead (events.flatMap (turns settings)) = bytesRead events := by
  induction events with
  | nil => rfl
  | cons event rest ih =>
    rw [LoopTurn.bytesRead] at ih
    rw [List.flatMap_cons, LoopTurn.bytesRead, bytesRead]
    cases hEnds : event.endsLoop with
    | true =>
      obtain ⟨turn, hTurns, hGoesOn⟩ := turns_of_endsLoop settings hEnds
      rw [hTurns, List.singleton_append, List.takeWhile_cons_of_neg (by simp [hGoesOn]),
        List.takeWhile_cons_of_neg (by simp [hEnds])]
      rfl
    | false =>
      obtain ⟨hGoesOn, hBytes⟩ := turns_of_goesOn settings hEnds
      rw [List.takeWhile_append_of_pos hGoesOn, List.flatMap_append, hBytes, ih,
        List.takeWhile_cons_of_pos (by simp [hEnds]), List.flatMap_cons]
      rfl

end LinkEvent

end DeviceRig
