import Mathlib
import BoringOS.Library.ByteVolume
import BoringOS.Library.LittleEndian

namespace BoringOS.Net

open Library

/-!
# The messages of the DHCP client

`build_dhcp`, `dhcp_option` and `dhcp_options_well_formed` of
`kernel/core/net.c`.  A message is written from the start of a memory, of which
the first bytes, up to the capacity, belong to the buffer.  Its options follow a
header of 240 bytes, and a message that would be shorter than 300 bytes is
reported to have this length.
-/

def writeBe16 (value : Nat) : List UInt8 := (storeLe 2 value).reverse

def writeBe32 (value : Nat) : List UInt8 := (storeLe 4 value).reverse

@[simp] theorem length_writeBe16 (value : Nat) : (writeBe16 value).length = 2 := by
  rw [writeBe16, List.length_reverse, length_storeLe]

section

variable (nicMac : List UInt8) (memory : ByteVolume) (capacity : Nat) (xid : UInt32)
  (messageType : UInt8) (requestedIp serverId : UInt32)

end

section

variable {nicMac : List UInt8} {memory : ByteVolume} {capacity : Nat} {xid requestedIp serverId : UInt32}
  {messageType : UInt8} (sixBytes : nicMac.length = 6)
include sixBytes

end

end BoringOS.Net
