import DeviceRig.Json.Nested

/-!
The payload of a reply as a JSON value. A payload that is no JSON is kept as text.
-/
namespace DeviceRig

def payloadValue (payload : List UInt8) : Json.Value :=
  if payload.isEmpty then .null
  else
    match Json.parseBytes .whole payload with
    | .ok value => value
    | .error _ => .text (Utf8.lossy payload)

end DeviceRig
