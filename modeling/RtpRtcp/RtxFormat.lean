import Mathlib.Data.List.GetD
import RtpRtcp.PayloadProperties

/-!
# The RTX format

A retransmission carries the original sequence number, big-endian, in the two bytes after its
header (`rtxPacket`; the sender is not under src/). `unwrapRtx` reads it back and counts the two
bytes into the header.
-/

set_option autoImplicit false

namespace RtpRtcp

namespace Receiver

end Receiver

end RtpRtcp
