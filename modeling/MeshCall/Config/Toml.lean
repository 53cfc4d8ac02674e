import MeshCall.Config.Toml.Syntax
import MeshCall.Config.Toml.Value
import MeshCall.Config.Toml.Keys
/-!
# TOML configuration files

A TOML document read into a table. The document is taken one expression at a time; each is
checked against the keys defined before it, then its value is read and stored, and only then is
the next expression read. So of two faults the one in the earlier expression is reported, and
within one expression a syntax fault comes before a redefined key, which comes before a
malformed number or date. Errors read `toml: …`.

Pairs go into the table of the last header: for an array of tables, its last element. Dotted
keys make the tables on their way.
-/

namespace MeshCall.Toml

abbrev Table := List (String × Setting)

/-- Changes the entry at `k`, or adds it from `none`. -/
def Table.modify (t : Table) (k : String) (f : Option Setting → Setting) : Table :=
  if t.any (·.1 == k) then t.map fun (k', x) => if k' == k then (k', f (some x)) else (k', x)
  else t ++ [(k, f none)]

/-- Applies `f` to the table at a path, walking into the last element of an array of tables and
making the tables that are missing. -/
def Table.within (t : Table) (path : List String) (f : Table → Table) : Table :=
  match path with
  | [] => f t
  | k :: more =>
    t.modify k fun
      | some (.table inner) => .table (Table.within inner more f)
      | some (.list xs) =>
        match xs.getLast? with
        | some (.table inner) => .list (xs.dropLast ++ [.table (Table.within inner more f)])
        | _ => .list xs
      | some x => x
      | none => .table (Table.within [] more f)

/-- Opens a `[table]`: the table at the path exists afterwards. -/
def Table.openTable (t : Table) (path : List String) : Table :=
  t.within path.dropLast fun parent =>
    parent.modify (path.getLast?.getD "") fun
      | some x => x
      | none => .table []

/-- Opens an `[[array]]`: a new empty table at the end of the array at the path. -/
def Table.openArrayTable (t : Table) (path : List String) : Table :=
  t.within path.dropLast fun parent =>
    parent.modify (path.getLast?.getD "") fun
      | some (.list xs) => .list (xs ++ [.table []])
      | some x => x
      | none => .list [.table []]

/-- Stores the pairs of a document, expression by expression. -/
def readExpressions : Nat → Bool → Bytes → Registry → Table → Except String Table
  | 0, _, _, _, t => .ok t
  | fuel + 1, first, bs, seen, t => do
    match ← nextExpression (bs.length + 1) first bs with
    | none => pure t
    | some (e, rest) =>
      match e with
      | .pair k v =>
        let seen ← seen.claimPair k v
        let s ← v.setting
        readExpressions fuel false rest seen (t.within seen.current fun inner => place inner k s)
      | .table k =>
        let seen ← seen.claimTable k
        readExpressions fuel false rest seen (t.openTable k)
      | .arrayTable k =>
        let seen ← seen.claimArrayTable k
        readExpressions fuel false rest seen (t.openArrayTable k)

/-- Reads a TOML document into its top-level pairs. -/
def readConfig (doc : String) : Except String (List (String × Setting)) :=
  let bs := Utf8.encode doc
  readExpressions (bs.length + 1) true bs {} []

end MeshCall.Toml
