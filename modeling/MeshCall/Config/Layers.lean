import MeshCall.Config.Setting
/-!
# Layered settings

Settings come from four layers, in falling precedence: the flags given on the command line, the
environment, the configuration file and the built-in defaults. A key is a dotted path into
nested tables.

* The known keys are the keys of the given flags, the leaves of the file's tables and the keys
  of the defaults. A table of the file is not walked when a flag already has its key; an empty
  table has no leaf, so it adds no key.
* A known key takes the first value it finds: its flag; the environment variable
  `PREFIX_KEY` (in upper case, `-` read as `_`) when it is set and not empty; the file, where
  the parts of a dotted key may also be written together as one key; the defaults. A key below
  a path that has an environment variable of its own, or below a plain value of the file, takes
  nothing from the layers under that one.
* The settings are the known keys that found a value, put back together into nested tables. A
  key below a path that holds a plain value replaces that value with a table.

Only known keys are looked up, so an environment variable counts only for a key that another
layer names as a leaf.
-/

namespace MeshCall

/-- The four sources of settings. -/
structure Layers where
  /-- The given flags, by key. -/
  flags : List (String × Setting)
  /-- The environment variables. -/
  env : String → Option String
  /-- The prefix of the environment variables. -/
  envPrefix : String
  /-- The configuration file's top-level table. -/
  file : List (String × Setting)
  defaults : List (String × Setting)

namespace Layers

def joinPath (path : List String) : String := ".".intercalate path

/-- The parts of a dotted key. -/
def parts (key : String) : List String := (key.toList.splitOn '.').map String.ofList

/-- A text with every `-` written `_`. -/
def underscored (s : String) : String :=
  String.ofList (s.toList.map fun c => if c = '-' then '_' else c)

def addKey (keys : List String) (k : String) : List String :=
  if keys.contains k then keys else keys ++ [k]

mutual

/-- The leaf keys of a table's pairs under the key `pfx`, added to `keys`. -/
def leaves (keys : List String) (pfx : String) : List (String × Setting) → List String
  | [] => keys
  | (k, v) :: rest =>
    leaves (leavesOf keys (if pfx == "" then k else pfx ++ "." ++ k) v) pfx rest

/-- The leaf keys of a value under the key `full`: the key itself for a plain value; for a table,
its leaves, unless `keys` holds `full` already. -/
def leavesOf (keys : List String) (full : String) : Setting → List String
  | .table inner => if keys.contains full then keys else leaves keys full inner
  | _ => addKey keys full

end

/-- The known keys: the flags', the file's leaves, the defaults'. -/
def knownKeys (l : Layers) : List String :=
  let keys := l.flags.foldl (fun keys (k, _) => addKey keys k) []
  let keys := leaves keys "" l.file
  l.defaults.foldl (fun keys (k, _) => addKey keys k) keys

/-- The environment's value for a key, when it is set and not empty. -/
def envValue (l : Layers) (key : String) : Option String :=
  match l.env (underscored (Case.toUpper (l.envPrefix ++ "_" ++ key))) with
  | some v => if v.isEmpty then none else some v
  | none => none

/-- The member `k` of a table. -/
def member (v : Setting) (k : String) : Option Setting :=
  match v with
  | .table es => Setting.lookup es k
  | _ => none

/-- The element of a list at a decimal index, with an optional sign. -/
def element (xs : List Setting) (k : String) : Option Setting :=
  let digits := if k.startsWith "+" || k.startsWith "-" then (k.drop 1).toString else k
  if digits.isEmpty || !digits.all Char.isDigit then none
  else
    let n := digits.foldl (fun n c => n * 10 + (c.toNat - 48)) 0
    if k.startsWith "-" && n != 0 then none else xs[n]?

/-- The value at a path in a table or list, trying the longest run of leading parts joined as one
key first. A null counts as no value. -/
def search (fuel : Nat) (v : Setting) (path : List String) : Option Setting :=
  match fuel with
  | 0 => none
  | fuel + 1 =>
    (List.range path.length).reverse.findSome? fun j =>
      let key := joinPath (path.take (j + 1))
      let next := match v with
        | .table es => Setting.lookup es key
        | .list xs => element xs key
        | _ => none
      match next with
      | none => none
      | some x =>
        if j + 1 == path.length then
          match x with
          | .null => none
          | _ => some x
        else match x with
          | .table _ | .list _ => search fuel x (path.drop (j + 1))
          | _ => none

/-- Whether a proper leading part of the path leads through tables to a plain value. -/
def shadowed (v : Setting) : List String → Bool
  | [] => false
  | [_] => false
  | k :: more =>
    match member v k with
    | none | some .null => false
    | some (.table inner) => shadowed (.table inner) more
    | some _ => true

/-- The value of a known key, from the first layer that has one. -/
def resolve (l : Layers) (key : String) : Option Setting :=
  let path := parts key
  match Setting.lookup l.flags key with
  | some v => some v
  | none =>
    match l.envValue key with
    | some v => some (.text v)
    | none =>
      let parents := (List.range (path.length - 1)).map fun j => joinPath (path.take (j + 1))
      if parents.any fun p => (l.envValue p).isSome then none
      else
        match search (path.length + 1) (.table l.file) path with
        | some v => some v
        | none =>
          if shadowed (.table l.file) path then none
          else if path.length == 1 then
            match Setting.lookup l.defaults key with
            | some .null => none
            | other => other
          else none

/-- Sets `k` in a table, in place when it is there. -/
def put (t : List (String × Setting)) (k : String) (v : Setting) : List (String × Setting) :=
  if t.any (·.1 == k) then t.map fun (k', x) => if k' == k then (k', v) else (k', x)
  else t ++ [(k, v)]

/-- Puts a value at a path, making tables on the way and replacing plain values there. -/
def insert (t : List (String × Setting)) : List String → Setting → List (String × Setting)
  | [], _ => t
  | [k], v => put t k v
  | k :: more, v =>
    let inner := match Setting.lookup t k with
      | some (.table es) => es
      | _ => []
    put t k (.table (insert inner more v))

/-- The settings: every known key that found a value, in nested tables. -/
def settings (l : Layers) : List (String × Setting) :=
  l.knownKeys.foldl (fun t key =>
    match l.resolve key with
    | some v => insert t (parts key) v
    | none => t) []

end Layers

end MeshCall
