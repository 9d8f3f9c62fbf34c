/-!
# Checksums

`crc32c` is the CRC-32C checksum (the Castagnoli polynomial `0x1EDC6F41`, bits reflected, the
register starting and ending inverted), and `hex8` writes a checksum as eight lower-case
hexadecimal digits. The check value of the ASCII text `123456789` is `e3069283`.
-/

namespace TableMachine

/-- The reflected Castagnoli polynomial. -/
def castagnoli : UInt32 := 0x82F63B78

/-- One bit step of the register. -/
def crcBit (r : UInt32) : UInt32 :=
  if r &&& 1 = 1 then (r >>> 1) ^^^ castagnoli else r >>> 1

/-- The register after taking in the eight bits of one byte. -/
def crcByteStep (r : UInt32) (b : UInt8) : UInt32 :=
  (List.range 8).foldl (fun r _ => crcBit r) (r ^^^ b.toUInt32)

/-- The step of every byte value from a zero register, for taking bytes in whole. -/
def crcTable : Array UInt32 := (Array.range 256).map fun i => crcByteStep 0 i.toUInt8

/-- The register after one byte, by the table. -/
def crcStep (r : UInt32) (b : UInt8) : UInt32 :=
  (r >>> 8) ^^^ crcTable.getD ((r ^^^ b.toUInt32) &&& 0xFF).toNat 0

/-- The CRC-32C checksum of some bytes. -/
def crc32c (bytes : List UInt8) : UInt32 :=
  bytes.foldl crcStep 0xFFFFFFFF ^^^ 0xFFFFFFFF

/-- A checksum as eight lower-case hexadecimal digits. -/
def hex8 (n : UInt32) : String :=
  let digits := Nat.toDigits 16 n.toNat
  String.ofList (List.replicate (8 - digits.length) '0' ++ digits)

end TableMachine
