import DeviceRig.Link.Error
import DeviceRig.System.FileTree

/-!
Opening serial lines. The rate is checked before the path; what can be opened and is no terminal
cannot be configured.
-/
namespace DeviceRig.Serial

def supportedRates : List Nat :=
  [1200, 2400, 4800, 9600, 19200, 38400, 57600, 115200, 230400, 460800, 921600, 1000000]

def openLine (tree : FileTree) (path : String) (rate : Nat) : Except LinkError Nat :=
  if !supportedRates.contains rate then .error (.unsupportedBaudRate rate)
  else
    match tree.entryAt true path with
    | .error fault => .error (.notOpened path fault)
    | .ok (_, entry) =>
      match entry.node with
      | .terminal => .ok entry.inode
      | .directory => .error (.notOpened path .isADirectory)
      | .socket | .device .ownTerminal => .error (.notOpened path .noSuchDevice)
      | .regular _ | .symlink _ | .device _ => .error (.notConfigured path .notATerminal)

end DeviceRig.Serial
