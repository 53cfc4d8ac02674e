import MeshCall.Config.Toml.Syntax
/-!
# Which keys a TOML document has defined

A document may define each key once, and a key keeps the role it was given: a value, a table or
an array of tables. The registry records every path the document has named so far, with its role
and whether its table was defined outright (by a header, or by dotted keys under a table that a
later header has closed). Each expression is checked against it before its value is stored:

* a pair may not name a path again, nor pass through a value or a table defined outright;
* a `[table]` header may not name a value, an array of tables or a table defined outright, nor
  pass through a value;
* an `[[array]]` header may only name an array of tables again, and then starts a fresh element:
  the paths under it are forgotten.

An inline table is checked on its own, with a registry of its own.
-/

namespace MeshCall.Toml

/-- What a key names. -/
inductive Role where
  | value
  | table
  | arrayTable
  deriving DecidableEq, Repr

def Role.name : Role → String
  | .value => "value"
  | .table => "table"
  | .arrayTable => "array table"

/-- A path the document has named. -/
structure Entry where
  path : List String
  role : Role
  /-- Defined outright, so no later header or dotted key may add to it. -/
  explicit : Bool
  /-- Made by a dotted key, and not yet closed by a header. -/
  dotted : Bool
  deriving Repr

/-- The paths named so far, and the table that pairs are going into. -/
structure Registry where
  entries : List Entry := []
  current : List String := []
  deriving Repr

namespace Registry

def find? (r : Registry) (path : List String) : Option Entry := r.entries.find? (·.path == path)

def add (r : Registry) (e : Entry) : Registry := { r with entries := r.entries ++ [e] }

def update (r : Registry) (path : List String) (f : Entry → Entry) : Registry :=
  { r with entries := r.entries.map fun e => if e.path == path then f e else e }

/-- Whether `path` lies strictly below `top`. -/
def below (top path : List String) : Bool := top.length < path.length && top.isPrefixOf path

/-- A header closes the tables that dotted keys made under the current table. -/
def close (r : Registry) : Registry :=
  { r with entries := r.entries.map fun e =>
      if below r.current e.path && e.dotted then { e with explicit := true, dotted := false }
      else e }

/-- The fault of a key that a path passes through as a table but names something else. -/
def notTable (k : String) (role : Role) : String :=
  "toml: expected " ++ k ++ " to be a table, not a " ++ role.name

/-- The parts of a pair's key below `parent`, each a table on the way and the last a value. -/
def claimKey (r : Registry) (parent : List String) : List String → Except String Registry
  | [] => .ok r
  | [k] =>
    let path := parent ++ [k]
    match r.find? path with
    | some _ => .error ("toml: key " ++ k ++ " is already defined")
    | none => .ok (r.add ⟨path, .value, false, true⟩)
  | k :: more =>
    let path := parent ++ [k]
    match r.find? path with
    | some e =>
      if e.role != .table then .error (notTable k e.role)
      else if e.explicit then
        .error ("toml: cannot redefine table " ++ k ++ " that has already been explicitly defined")
      else claimKey r path more
    | none => claimKey (r.add ⟨path, .table, false, true⟩) path more

/-- The tables on the way to a header's last part: made when missing, never a value. -/
def walk (r : Registry) (parent : List String) :
    List String → Except String (Registry × List String)
  | [] => .ok (r, parent)
  | k :: more =>
    let path := parent ++ [k]
    match r.find? path with
    | some e =>
      if e.role == .value then .error (notTable k e.role)
      else walk r path more
    | none => walk (r.add ⟨path, .table, false, false⟩) path more

/-- A `[table]` header. -/
def claimTable (r : Registry) (key : List String) : Except String Registry := do
  let r := r.close
  let (r, parent) ← r.walk [] key.dropLast
  let k := key.getLast?.getD ""
  let path := parent ++ [k]
  let r ← match r.find? path with
    | some e =>
      if e.role != .table then
        .error ("toml: key " ++ k ++ " should be a table, not a " ++ e.role.name)
      else if e.explicit then .error ("toml: table " ++ k ++ " already exists")
      else pure (r.update path fun e => { e with explicit := true })
    | none => pure (r.add ⟨path, .table, true, false⟩)
  pure { r with current := path }

/-- An `[[array]]` header. -/
def claimArrayTable (r : Registry) (key : List String) : Except String Registry := do
  let r := r.close
  let (r, parent) ← r.walk [] key.dropLast
  let k := key.getLast?.getD ""
  let path := parent ++ [k]
  let r ← match r.find? path with
    | some e =>
      if e.role != .arrayTable then
        .error ("toml: key " ++ e.role.name ++ " already exists as a " ++ k ++
          ",  but should be an array table")
      else pure { r with entries := r.entries.filter fun e => !below path e.path }
    | none => pure (r.add ⟨path, .arrayTable, true, false⟩)
  pure { r with current := path }

end Registry

mutual

/-- Checks the inline tables within a value, each against a registry of its own. -/
def Lit.checkInline : Lit → Except String Unit
  | .array items => Lit.checkItems items
  | .inline pairs => Lit.checkPairs {} pairs
  | _ => .ok ()

def Lit.checkItems : List Lit → Except String Unit
  | [] => .ok ()
  | x :: xs => do
    x.checkInline
    Lit.checkItems xs

/-- Checks the pairs of an inline table in order. -/
def Lit.checkPairs (r : Registry) : List (List String × Lit) → Except String Unit
  | [] => .ok ()
  | (k, v) :: more => do
    let r ← r.claimKey r.current k
    v.checkInline
    Lit.checkPairs r more

end

/-- Checks a pair of the document: its key against the registry, then its inline tables. -/
def Registry.claimPair (r : Registry) (key : List String) (v : Lit) : Except String Registry := do
  let r ← r.claimKey r.current key
  v.checkInline
  pure r

end MeshCall.Toml
