import DeviceRig.Exchange.Fields
import DeviceRig.Frame.Basic
import DeviceRig.Json.Scalar

/-!
Bytes in descriptions and records. In a description bytes are a text, digits in base sixteen, a
repetition, a frame of which bits may be flipped, or a list of these. In a record they are written
in base sixteen, and many of them by their number, both ends and a hash.
-/
namespace DeviceRig.Exchange

open Json

def hexDigitOf (c : Char) : Nat :=
  (hexValue? c.toNat.toUInt8).getD 0

def hexBytes : List Char → List UInt8
  | high :: low :: rest => (hexDigitOf high * 16 + hexDigitOf low).toUInt8 :: hexBytes rest
  | _ => []

def repeatBytes (bytes : List UInt8) (count : Nat) : List UInt8 :=
  (List.range count).foldl (fun sofar _ => bytes ++ sofar) []

def flipBits (bytes : Array UInt8) (changes : List Value) : Array UInt8 :=
  changes.foldl (fun bytes change =>
    match itemsOf change with
    | [position, mask] =>
      bytes.modify (integerOf position).toNat fun byte => byte ^^^ (integerOf mask).toNat.toUInt8
    | _ => bytes) bytes

def bytesWithin : Nat → Value → List UInt8
  | 0, _ => []
  | depth + 1, value =>
    match value with
    | .text text => Utf8.bytes text
    | .list items => items.flatMap (bytesWithin depth)
    | .null | .bool _ | .number _ => []
    | .object _ =>
      if has value "hex" then hexBytes (textAt value "hex").toList
      else if has value "rep" then
        match listAt value "rep" with
        | [bytes, count] => repeatBytes (bytesWithin depth bytes) (integerOf count).toNat
        | _ => []
      else
        match listAt value "frame" with
        | [address, payload] =>
          let wire := Frame.encode (integerOf address).toNat.toUInt8 (bytesWithin depth payload)
          (flipBits wire.toArray (listAt value "xor")).toList
        | _ => []

def maxBytesDepth : Nat := 1000

def bytesOf (value : Value) : List UInt8 := bytesWithin maxBytesDepth value

def bytesAt (value : Value) (name : String) : List UInt8 := bytesOf (value.member name)

def addressed (value : Value) : UInt8 × List UInt8 :=
  match itemsOf value with
  | [address, payload] => ((integerOf address).toNat.toUInt8, bytesOf payload)
  | _ => (0, [])

def hexText (bytes : List UInt8) : String :=
  String.ofList (bytes.flatMap fun byte =>
    [Nat.digitChar (byte.toNat / 16), Nat.digitChar (byte.toNat % 16)])

def hashOf (bytes : List UInt8) : UInt64 :=
  bytes.foldl (fun hash byte => (hash ^^^ byte.toUInt64) * 0x100000001b3) 0xcbf29ce484222325

def hashText (hash : UInt64) : String :=
  let digits := Nat.toDigits 16 hash.toNat
  String.ofList (List.replicate (16 - digits.length) '0' ++ digits)

def maxBytesInFull : Nat := 1024

def bytesOut (bytes : List UInt8) : Value :=
  if bytes.length ≤ maxBytesInFull then .text (hexText bytes)
  else
    record [("len", integer bytes.length), ("head", .text (hexText (bytes.take 16))),
      ("tail", .text (hexText (bytes.drop (bytes.length - 16)))),
      ("fnv1a64", .text (hashText (hashOf bytes)))]

def frameOut (frame : Frame) : Value :=
  record [("address", integer frame.address.toNat), ("payload", bytesOut frame.payload),
    ("valid", .bool frame.valid)]

end DeviceRig.Exchange
