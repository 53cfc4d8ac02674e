import MeshCall.Text.Utf8
/-!
Peer tags: a short number that marks a participant in log lines, the 32-bit FNV-1a hash of the
UTF-8 bytes of its id.
-/

namespace MeshCall.PeerTag

def offsetBasis : UInt32 := 2166136261

def prime : UInt32 := 16777619

/-- One FNV-1a round: mix in the byte, then multiply by the prime, modulo 2^32. -/
def mix (h : UInt32) (b : UInt8) : UInt32 := (h ^^^ b.toUInt32) * prime

/-- The tag of an id. -/
def ofId (id : String) : UInt32 := (Utf8.encode id).foldl mix offsetBasis

end MeshCall.PeerTag
