import MeshCall.Text.Utf8
import MeshCall.Text.Space
import MeshCall.Fault
/-!
# Relay URLs

The relay serves each room at `<scheme>://<host><prefix>/ws/<room>`. The base may be a bare host,
an http(s) URL or a ws(s) URL; the scheme becomes `wss` when a secure link is asked for or the
base is https or wss, and a path on the base is kept as a prefix (without a trailing `/` or
`/ws`) so that relays mounted under a sub-path work. The room is escaped as one path segment.

Reading the base follows RFC 3986 as generic URL parsers do: the fragment and the query are cut
off, a scheme is letters followed by letters, digits, `+`, `-` or `.`, the authority after `//`
holds optional user information up to the last `@` and a host with an optional numeric port,
and percent escapes must be well formed. A host may hold sub-delimiters but no other reserved
ASCII character, may escape only non-ASCII bytes, and in brackets must be an IPv6 address.
Text with control characters is refused.
-/

namespace MeshCall.RelayUrl

abbrev Bytes := List UInt8

def isAlpha (b : UInt8) : Bool := (0x41 ≤ b && b ≤ 0x5A) || (0x61 ≤ b && b ≤ 0x7A)

def isDigit (b : UInt8) : Bool := 0x30 ≤ b && b ≤ 0x39

def isAlnum (b : UInt8) : Bool := isAlpha b || isDigit b

def hexValue? (b : UInt8) : Option Nat :=
  if isDigit b then some (b.toNat - 0x30)
  else if 0x61 ≤ b && b ≤ 0x66 then some (b.toNat - 0x61 + 10)
  else if 0x41 ≤ b && b ≤ 0x46 then some (b.toNat - 0x41 + 10)
  else none

def bytesOf (s : String) : Bytes := Utf8.encode s

/-- The parts of a URL where an escape may stand. -/
inductive Part where
  | host
  | zone
  | path
  | pathSegment
  | userinfo
  | fragment
  deriving DecidableEq, Repr

/-- Whether a byte must be escaped in a part. -/
def mustEscape (b : UInt8) (p : Part) : Bool :=
  if isAlnum b then false
  else if (p == .host || p == .zone) && "!$&'()*+,;=:[]<>\"".toList.any (fun c => c.toNat == b.toNat)
    then false
  else if "-_.~".toList.any (fun c => c.toNat == b.toNat) then false
  else if "$&+,/:;=?@".toList.any (fun c => c.toNat == b.toNat) then
    match p with
    | .path => b == 0x3F
    | .pathSegment => b == 0x2F || b == 0x3B || b == 0x2C || b == 0x3F
    | .userinfo => b == 0x40 || b == 0x2F || b == 0x3F || b == 0x3A
    | .fragment => false
    | _ => true
  else if p == .fragment && "!()*".toList.any (fun c => c.toNat == b.toNat) then false
  else true

/-- Decodes the percent escapes of a part, or fails on a malformed escape, on an escaped ASCII
byte in a host (`%25` apart), on an escape in a zone of a byte that a host could not hold as it
is (`%25` and the space apart), or on a host byte that would need escaping. -/
def unescape (p : Part) : Bytes → Option Bytes
  | [] => some []
  | 0x25 :: rest =>
    match rest with
    | h1 :: h2 :: tail =>
      match hexValue? h1, hexValue? h2 with
      | some a, some c =>
        let v := UInt8.ofNat (a * 16 + c)
        let percent := h1 == 0x32 && h2 == 0x35
        if p == .host && a < 8 && !percent then none
        else if p == .zone && !percent && v != 0x20 && mustEscape v .host then none
        else (unescape p tail).map (v :: ·)
      | _, _ => none
    | _ => none
  | b :: rest =>
    if (p == .host || p == .zone) && b < 0x80 && mustEscape b p then none
    else (unescape p rest).map (b :: ·)

/-- Escapes a text as one path segment: unreserved bytes stay, others become `%XX`. -/
def escapeSegment (s : String) : String :=
  let hex (n : Nat) : Char := "0123456789ABCDEF".toList.getD n '0'
  String.ofList ((bytesOf s).flatMap fun b =>
    if mustEscape b .pathSegment then ['%', hex (b.toNat / 16), hex (b.toNat % 16)]
    else [Char.ofNat b.toNat])

/-- Splits at the first occurrence of a byte. -/
def cut (sep : UInt8) (bs : Bytes) : Bytes × Option Bytes :=
  match bs.idxOf? sep with
  | some i => (bs.take i, some (bs.drop (i + 1)))
  | none => (bs, none)

/-- Splits at the last occurrence of a byte. -/
def cutLast (sep : UInt8) (bs : Bytes) : Option (Bytes × Bytes) :=
  match (bs.reverse.idxOf? sep) with
  | some j => some (bs.take (bs.length - 1 - j), bs.drop (bs.length - j))
  | none => none

/-- A scheme at the front, and what follows its colon; `none` when the text starts with no
scheme; an error for a colon in first place. -/
def scheme? : Bytes → Except Unit (Option (Bytes × Bytes))
  | bs =>
    let name := bs.takeWhile fun b => isAlnum b || b == 0x2B || b == 0x2D || b == 0x2E
    match bs.drop name.length with
    | 0x3A :: rest =>
      if name.isEmpty then .error ()
      else match name with
        | b :: _ => if isAlpha b then .ok (some (name, rest)) else .ok none
        | [] => .ok none
    | _ => .ok none

/-- A port after a host: empty, or a colon and digits. -/
def validPort : Bytes → Bool
  | [] => true
  | 0x3A :: ds => ds.all isDigit
  | _ => false

def isHex (b : UInt8) : Bool := (hexValue? b).isSome

/-- A dotted quad: four decimal octets without leading zeros. -/
def validIPv4 (bs : Bytes) : Bool :=
  let parts := bs.splitOn 0x2E
  parts.length == 4 && parts.all fun p =>
    !p.isEmpty && p.length ≤ 3 && p.all isDigit && (p.length == 1 || p.head? != some 0x30) &&
    p.foldl (fun n d => n * 10 + (d.toNat - 0x30)) 0 ≤ 255

/-- Reads the 16-bit groups of an IPv6 address from byte `i` of the address on: groups of one to
four hex digits separated by colons, one `::` at most, and a dotted quad in place of the last two
groups. The answer is the bytes filled, where the `::` stands, and what is left of the text. -/
def ipv6Groups : Nat → Bytes → Nat → Option Nat → Option (Nat × Option Nat × Bytes)
  | 0, s, i, ell => some (i, ell, s)
  | fuel + 1, s, i, ell =>
    if i ≥ 16 then some (i, ell, s)
    else
      let digits := s.takeWhile isHex
      if digits.length > 4 || digits.isEmpty then none
      else
        let after := s.drop digits.length
        match after with
        | 0x2E :: _ =>
          if (ell.isNone && i != 12) || i + 4 > 16 || !validIPv4 s then none
          else some (i + 4, ell, [])
        | [] => some (i + 2, ell, [])
        | 0x3A :: [] => none
        | 0x3A :: 0x3A :: rest =>
          if ell.isSome then none
          else if rest.isEmpty then some (i + 2, some (i + 2), [])
          else ipv6Groups fuel rest (i + 2) (some (i + 2))
        | 0x3A :: rest => ipv6Groups fuel rest (i + 2) ell
        | _ => none

/-- Whether a text is an IPv6 address (without a zone). -/
def validIPv6 (bs : Bytes) : Bool :=
  let (start, ell) := match bs with
    | 0x3A :: 0x3A :: rest => (rest, some 0)
    | _ => (bs, none)
  if ell.isSome && start.isEmpty then true
  else
    match ipv6Groups (bs.length + 1) start 0 ell with
    | some (i, ell, rest) =>
      rest.isEmpty && (if i < 16 then ell.isSome else ell.isNone)
    | none => false

/-- Whether the text between the brackets of a host names an IPv6 address: the first of `.`,
`:` and `%` in it must be a colon, and a zone after the first `%` must not be empty. -/
def ipLiteral (s : Bytes) : Bool :=
  match s.find? fun b => b == 0x2E || b == 0x3A || b == 0x25 with
  | some 0x3A =>
    let (addr, zone) := cut 0x25 s
    zone != some [] && validIPv6 addr
  | _ => false

/-- The position of the first `%25` in a text. -/
def zoneStart (bs : Bytes) : Option Nat :=
  (List.range bs.length).find? fun i => (bs.drop i).take 3 == [0x25, 0x32, 0x35]

/-- Reads a host with its optional port. A host with a `[` is an IP literal: its one `[` comes
first, what stands between it and the last `]` must be an IPv6 address, with a zone after a `%25`
if any, and only a port may follow the `]`. -/
def parseHost (host : Bytes) : Option Bytes :=
  match cutLast 0x5B host with
  | some (beforeOpen, afterOpen) =>
    match cutLast 0x5D host with
    | none => none
    | some (beforeClose, colonPort) =>
      if !beforeOpen.isEmpty || !validPort colonPort then none
      else do
        let port ← unescape .host colonPort
        let name := afterOpen.take (beforeClose.length - (host.length - afterOpen.length))
        let addr ← match zoneStart name with
          | some z => do
            let a ← unescape .host (name.take z)
            let b ← unescape .zone (name.drop z)
            pure (a ++ b)
          | none => unescape .host name
        if !ipLiteral addr then none
        pure ([0x5B] ++ addr ++ [0x5D] ++ port)
  | none =>
    match cutLast 0x3A host with
    | some (_, port) => if validPort (0x3A :: port) then unescape .host host else none
    | none => unescape .host host

/-- Bytes allowed in user information. -/
def validUserinfo (s : String) : Bool :=
  s.all fun c => c.isAlphanum && c.toNat < 0x80 || "-._:~!$&'()*+,;=%@".toList.contains c

/-- Reads an authority: optional user information up to the last `@`, then the host. -/
def parseAuthority (auth : Bytes) : Option Bytes :=
  match cutLast 0x40 auth with
  | none => parseHost auth
  | some (userinfo, hostPart) => do
    let host ← parseHost hostPart
    if !validUserinfo (Utf8.decode userinfo) then none
    let (user, password) := cut 0x3A userinfo
    let _ ← unescape .userinfo user
    let _ ← match password with
      | some p => unescape .userinfo p
      | none => some []
    pure host

/-- The parts of a URL the relay address needs. -/
structure Parsed where
  scheme : String
  host : Bytes
  path : Bytes
  deriving DecidableEq, Repr

def isControl (b : UInt8) : Bool := b < 0x20 || b == 0x7F

def lower (bs : Bytes) : Bytes := bs.map fun b => if 0x41 ≤ b && b ≤ 0x5A then b + 32 else b

/-- Reads a URL; `none` when it is malformed. -/
def parse (raw : Bytes) : Option Parsed := do
  let (u, frag) := cut 0x23 raw
  if u.any isControl then none
  let (scheme, rest) ← match scheme? u with
    | .error () => none
    | .ok (some (s, r)) => some (lower s, r)
    | .ok none => some ([], u)
  let rest := (cut 0x3F rest).1
  let (host, path) ← match rest with
    | 0x2F :: 0x2F :: after =>
      if scheme.isEmpty && after.head? == some 0x2F then some ([], rest)
      else
        let (auth, tail) := match after.idxOf? 0x2F with
          | some i => (after.take i, after.drop i)
          | none => (after, [])
        (parseAuthority auth).map fun h => (h, tail)
    | 0x2F :: _ => some ([], rest)
    | _ =>
      if !scheme.isEmpty then some ([], [])
      else if (cut 0x2F rest).1.contains 0x3A then none
      else some ([], rest)
  let path ← unescape .path path
  let _ ← match frag with
    | some f => unescape .fragment f
    | none => some []
  pure ⟨Utf8.decode scheme, host, path⟩

/-- Drops a suffix when it is there. -/
def dropSuffix (s suffix : Bytes) : Bytes :=
  if s.length ≥ suffix.length && s.drop (s.length - suffix.length) == suffix then
    s.take (s.length - suffix.length)
  else s

/-- The address of `room` on the relay at `base`. -/
def build (base room : String) (secure : Bool) : Except Fault String := do
  let raw := Space.trim base
  let raw := if (raw.splitOn "://").length > 1 then raw else "ws://" ++ raw
  let some u := parse (bytesOf raw) | .error (Fault.plain ("invalid relay URL: " ++ base))
  if u.host.isEmpty then .error (Fault.plain ("invalid relay URL: " ++ base))
  let room := Space.trim room
  if room.isEmpty then .error (Fault.plain "empty room name")
  let scheme := if secure || u.scheme == "https" || u.scheme == "wss" then "wss" else "ws"
  let mount := dropSuffix (dropSuffix u.path (bytesOf "/")) (bytesOf "/ws")
  pure (scheme ++ "://" ++ Utf8.decode (u.host ++ mount) ++ "/ws/" ++ escapeSegment room)

end MeshCall.RelayUrl
