import DeviceRig.Text.Lines
import DeviceRig.Text.Utf8

/-!
Watching the log of a device. A look takes the next chunk that is queued, and only if there was none
does it ask whether the link is still open. A watch that ends because the link has closed has seen
all chunks but those that were queued between the two.
-/
namespace DeviceRig

def chunkLines (chunk : List UInt8) : List String := Text.lines (Utf8.lossy chunk)

structure LogWatch where
  lines : List String
deriving DecidableEq, Repr, Inhabited

namespace LogWatch

def start : LogWatch := ⟨[]⟩

/-- One look: the chunk that came, empty if none did, and whether the link was open after that. The
watch ends with nothing if the link has closed. -/
def look (watch : LogWatch) (chunk : List UInt8) (linkOpen : Bool) : Option LogWatch :=
  if chunk.isEmpty && !linkOpen then none
  else some ⟨watch.lines ++ chunkLines chunk⟩

def maxCount : Nat := 0xffffffffffffffff

def closedMessage (watch : LogWatch) (address : String) : String :=
  s!"device link {address} closed after {min watch.lines.length maxCount} lines"

end LogWatch

end DeviceRig
