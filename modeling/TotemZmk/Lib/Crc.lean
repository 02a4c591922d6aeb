/-
The CRC-32 of IEEE 802.3, a bit at a time, low bit first.
-/

namespace Crc

/-- One bit: the remainder moves down, and the polynomial is taken off it when
a bit falls out. -/
def shift (c : UInt32) : UInt32 := if c &&& 1 = 0 then c >>> 1 else (c >>> 1) ^^^ 0xEDB88320

/-- One byte. -/
def byte (c : UInt32) (b : UInt8) : UInt32 :=
  shift (shift (shift (shift (shift (shift (shift (shift (c ^^^ b.toUInt32))))))))

/-- `crc32_ieee` of `<zephyr/sys/crc.h>`. -/
def crc32Ieee (bs : List UInt8) : UInt32 := ~~~(bs.foldl byte 0xFFFFFFFF)

/-- The check value of the nine digits. -/
example : crc32Ieee [0x31, 0x32, 0x33, 0x34, 0x35, 0x36, 0x37, 0x38, 0x39] = 0xCBF43926 := by
  decide +kernel

end Crc
