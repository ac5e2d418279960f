/-!
The frame checksum: CRC-32 with the reflected polynomial 0xEDB88320, all bits set before the first
byte and inverted after the last, and its four bytes with the least significant one first.
-/
namespace DeviceRig.Frame

def shiftBit (register : UInt32) : UInt32 :=
  if register &&& 1 = 1 then (register >>> 1) ^^^ 0xEDB88320 else register >>> 1

def shiftByte (register : UInt32) (byte : UInt8) : UInt32 :=
  shiftBit (shiftBit (shiftBit (shiftBit (shiftBit (shiftBit (shiftBit (shiftBit
    (register ^^^ byte.toUInt32))))))))

def checksum (bytes : List UInt8) : UInt32 :=
  ~~~ bytes.foldl shiftByte 0xFFFFFFFF

def wordBytes (word : UInt32) : List UInt8 :=
  [word.toUInt8, (word >>> 8).toUInt8, (word >>> 16).toUInt8, (word >>> 24).toUInt8]

theorem wordBytes_length (word : UInt32) : (wordBytes word).length = 4 := rfl

end DeviceRig.Frame
