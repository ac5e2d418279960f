import DeviceRig.Call.Settings
import DeviceRig.Frame.Basic

/-!
Settings of transports: how their worker reads the link, how calls are made, and how many log
chunks are kept.
-/
namespace DeviceRig

structure WorkerSettings where
  pollInterval : Duration
  joinTimeout : Duration
  chunkSize : Nat
  maxPayload : Nat
deriving DecidableEq, Repr, Inhabited

namespace WorkerSettings

def usual : WorkerSettings :=
  ⟨.ofMilliseconds 100, .ofSeconds 1, 4096, Frame.defaultMaxPayload⟩

def describe (settings : WorkerSettings) : String :=
  "WorkerConfig \x7b poll_interval: " ++ settings.pollInterval.describe ++ ", join_timeout: "
    ++ settings.joinTimeout.describe ++ ", read_chunk_size: " ++ toString settings.chunkSize
    ++ ", frame: FrameConfig \x7b max_payload_size: " ++ toString settings.maxPayload
    ++ " \x7d \x7d"

end WorkerSettings

structure TransportSettings where
  worker : WorkerSettings
  call : CallSettings
  logCapacity : Nat
deriving DecidableEq, Repr, Inhabited

def TransportSettings.usual : TransportSettings := ⟨.usual, .usual, 1024⟩

end DeviceRig
