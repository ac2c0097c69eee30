/-
# Archive.Crc32 -- the checksum of archive entries

The remainder of a byte sequence, taken as a polynomial over two elements with the low bits
first, modulo the polynomial `0xEDB88320`, complemented before and after.
-/
namespace MavenImport.Archive

set_option autoImplicit false

/-- One bit of a division step. -/
def crcShift (r : UInt32) : UInt32 :=
  if r &&& 1 = 1 then (r >>> 1) ^^^ 0xEDB88320 else r >>> 1

/-- The remainders of the 256 bytes. -/
def crcTable : Array UInt32 :=
  ((List.range 256).map fun n =>
    (List.range 8).foldl (fun r _ => crcShift r) (UInt32.ofNat n)).toArray

def crcStep (r : UInt32) (b : UInt8) : UInt32 :=
  (crcTable[((r ^^^ b.toUInt32) &&& 0xFF).toNat]?).getD 0 ^^^ (r >>> 8)

def crc32 (bytes : ByteArray) : UInt32 :=
  ~~~(bytes.toList.foldl crcStep 0xFFFFFFFF)

end MavenImport.Archive
