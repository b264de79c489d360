namespace SeedArchive.Zip

/-- Why an archive or an entry of it cannot be opened. -/
inductive Fault
  | cutShort
  | noEnd
  | commentCutShort
  | misplacedDirectory
  | noDirectory
  | misplacedLongEnd
  | severalDisks
  | noLongEnd
  | shortLongEnd
  | overlongLongEnd
  | strayLongEnd
  | unevenLongEnd
  | crowdedLongEnd
  | noLocalHeader
  | encrypted
  | unknownMethod
  | locked
  deriving DecidableEq, Repr

def Fault.text : Fault → String
  | .cutShort => "i/o error"
  | .noEnd => "invalid Zip archive: Could not find EOCD"
  | .commentCutShort => "invalid Zip archive: EOCD comment exceeds file boundary"
  | .misplacedDirectory => "invalid Zip archive: Invalid CDFH offset in EOCD"
  | .noDirectory => "invalid Zip archive: No CDFH found"
  | .misplacedLongEnd => "invalid Zip archive: Invalid EOCD64 Locator CD offset"
  | .severalDisks => "invalid Zip archive: Multi-disk ZIP files are not supported"
  | .noLongEnd => "invalid Zip archive: Could not find EOCD64"
  | .shortLongEnd => "invalid Zip archive: Low EOCD64 record size"
  | .overlongLongEnd => "invalid Zip archive: EOCD64 extends beyond EOCD64 locator"
  | .strayLongEnd => "invalid Zip archive: Invalid EOCD64: inconsistency with Locator data"
  | .unevenLongEnd => "invalid Zip archive: Invalid EOCD64: inconsistent length"
  | .crowdedLongEnd => "invalid Zip archive: Invalid EOCD64: inconsistent number of files"
  | .noLocalHeader => "invalid Zip archive: Invalid local file header"
  | .encrypted => "unsupported Zip archive: Password required to decrypt file"
  | .unknownMethod => "unsupported Zip archive: Compression method not supported"
  | .locked => "provided password is incorrect"

/-- Why the bytes of an entry cannot be read to their end. -/
inductive Damage
  | checksum
  | corrupt
  | incomplete
  deriving DecidableEq, Repr

def Damage.text : Damage → String
  | .checksum => "Invalid checksum"
  | .corrupt => "corrupt deflate stream"
  | .incomplete => "incomplete deflate stream"

end SeedArchive.Zip
