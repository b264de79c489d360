namespace SeedArchive.Zip

/-- Division by the reversed polynomial of the 32-bit cyclic redundancy check, one bit. -/
def divideBit (c : UInt32) : UInt32 :=
  if c &&& 1 = 1 then (c >>> 1) ^^^ 0xEDB88320 else c >>> 1

def divideByte (c : UInt32) (b : UInt8) : UInt32 :=
  let c := c ^^^ b.toUInt32
  let c := divideBit (divideBit (divideBit (divideBit c)))
  divideBit (divideBit (divideBit (divideBit c)))

def checksum (bytes : List UInt8) : UInt32 :=
  bytes.foldl divideByte 0xFFFFFFFF ^^^ 0xFFFFFFFF

end SeedArchive.Zip
