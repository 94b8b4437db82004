import SecurePipe.Lib.Rust

/-!
# SecurePipe.Protocol.Crc

The gateway's CRC-16/CCITT (`crc16` in `src/protocol/frame.rs`): a shift-and-xor
loop over the bits of each byte, most significant bit first, from the initial
value `0xFFFF`. The two firmware copies live in `SecurePipe.Arduino`.
-/

namespace SecurePipe

open Rust

/-- One turn of the inner loop: shift out the top bit, and subtract the
polynomial `0x1021` when it was set. -/
def crcBit (crc : UInt16) : UInt16 :=
  if crc &&& 0x8000 ≠ 0 then (crc <<< 1) ^^^ 0x1021 else crc <<< 1

/-- The body of the outer loop: xor the byte into the high half, then shift all
eight bits through. -/
def crcByte (crc : UInt16) (byte : UInt8) : UInt16 :=
  Nat.repeat crcBit 8 (crc ^^^ (byte.toUInt16 <<< 8))

/-- `crc16`. -/
def crc16 (data : Bytes) : UInt16 := data.foldl crcByte 0xFFFF

-- The published check value of CRC-16/CCITT-FALSE, for the ASCII digits 1 to 9.
example : crc16 [0x31, 0x32, 0x33, 0x34, 0x35, 0x36, 0x37, 0x38, 0x39] = 0x29B1 := by
  decide +kernel

end SecurePipe
