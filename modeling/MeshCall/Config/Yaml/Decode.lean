import MeshCall.Config.Yaml.Parse
import MeshCall.Config.Yaml.Timestamp
import MeshCall.Config.Setting
import MeshCall.Config.Scalar
import MeshCall.Text.Base64
import MeshCall.Text.Utf8
/-!
# YAML values

The last stage of reading YAML: nodes to setting values. A plain scalar is resolved by its text:
`true`/`false` in three spellings, `null`, `~` or nothing, integers in decimal, octal, hex or
binary (underscores allowed), floats (with `.inf` and `.nan`), timestamps (moments, which no
field of a configuration can take), and otherwise text. Quoted and block scalars are always
text. An explicit tag asks for one kind and fails when the text is not of it, except that
`!!float` also takes an integer in the signed 64-bit range; `!!binary` text is base64 and stands
for the bytes it spells.

A configuration file must hold a mapping (or nothing). Keys repeated in one mapping, and a
document that is a sequence or a scalar, are type errors; they are collected and reported
together. `<<` merges the pairs of other mappings that the mapping does not have itself. Keys are
folded to lower case, at every depth.

An alias decodes as the node it repeats. Meeting an alias again inside that node is an error,
as is a document whose decoding runs almost wholly through aliases.
-/

namespace MeshCall.Yaml

/-- The first-character class of a plain scalar: sign, digit, a letter that may start a word
of the resolution table, or a dot. -/
def hintOf (s : String) : Option Char :=
  match s.toList with
  | [] => some 'N'
  | c :: _ =>
    if c == '+' || c == '-' then some 'S'
    else if c.isDigit then some 'D'
    else if "yYnNtTfFoO~".contains c then some 'M'
    else if c == '.' then some '.'
    else none

def posInf : Float := Decimal.nearest false 1 1000

def notANumber : Float := posInf - posInf

/-- The values of the resolution table. -/
def tableValue (s : String) : Option (String × Setting) :=
  if ["true", "True", "TRUE"].contains s then some ("!!bool", .bool true)
  else if ["false", "False", "FALSE"].contains s then some ("!!bool", .bool false)
  else if ["", "~", "null", "Null", "NULL"].contains s then some ("!!null", .null)
  else if [".nan", ".NaN", ".NAN"].contains s then some ("!!float", .float notANumber)
  else if [".inf", ".Inf", ".INF", "+.inf", "+.Inf", "+.INF"].contains s then
    some ("!!float", .float posInf)
  else if ["-.inf", "-.Inf", "-.INF"].contains s then some ("!!float", .float (-posInf))
  else if s == "<<" then some ("!!merge", .text "<<")
  else none

/-- A decimal float `[-+]?(\.d+|d+(\.d*)?)([eE][-+]?d+)?`, when its value is finite. -/
def decimalFloat (s : String) : Option Float := do
  let cs := s.toList
  let (negative, cs) := match cs with
    | '-' :: r => (true, r)
    | '+' :: r => (false, r)
    | _ => (false, cs)
  let whole := cs.takeWhile Char.isDigit
  let cs := cs.drop whole.length
  let (frac, cs) ← match cs with
    | '.' :: r => some (r.takeWhile Char.isDigit, r.drop (r.takeWhile Char.isDigit).length)
    | _ => some ([], cs)
  if whole.isEmpty && frac.isEmpty then none
  if whole.isEmpty && !s.contains '.' then none
  let e ← match cs with
    | [] => some (0 : Int)
    | c :: r =>
      if c == 'e' || c == 'E' then
        let (neg, ds) := match r with
          | '-' :: d => (true, d)
          | '+' :: d => (false, d)
          | d => (false, d)
        if ds.isEmpty || !ds.all Char.isDigit then none
        else
          let n := (String.ofList ds).toNat!
          some (if neg then -(n : Int) else n)
      else none
  let m := (String.ofList (whole ++ frac)).toNat!
  let f := Decimal.nearest negative m (e - frac.length)
  if f.isInf then none else some f

/-- An integer as a signed or, past the signed range, unsigned 64-bit number. -/
def intValue (s : String) (base : Nat) : Option Setting :=
  match Scalar.parseInt s base with
  | .ok i => some (.int i)
  | .error _ =>
    match Scalar.parseUint s base with
    | .ok n => some (.uint n)
    | .error _ => none

/-- The tag and value of a plain scalar with no tag. -/
def resolvePlain (text : String) : String × Setting :=
  match hintOf text with
  | none => ("!!str", .text text)
  | some hint =>
    match tableValue text with
    | some r => r
    | none =>
      if hint == '.' then
        match decimalFloat text with
        | some f => ("!!float", .float f)
        | none => ("!!str", .text text)
      else if hint == 'D' && Timestamp.accepts text then ("!!timestamp", .other "time.Time")
      else if hint == 'D' || hint == 'S' then
        let plain := text.replace "_" ""
        match intValue plain 0 with
        | some v => ("!!int", v)
        | none =>
          match decimalFloat plain with
          | some f => ("!!float", .float f)
          | none =>
            let rest := if plain.startsWith "-" then (plain.drop 3).toString
              else (plain.drop 2).toString
            let signed := fun (b : Nat) =>
              if plain.startsWith "-" then
                (match Scalar.parseInt ("-" ++ rest) b with
                  | .ok i => some (Setting.int i)
                  | .error _ => none)
              else intValue rest b
            let r := if plain.startsWith "0b" || plain.startsWith "-0b" then signed 2
              else if plain.startsWith "0o" || plain.startsWith "-0o" then signed 8
              else none
            match r with
            | some v => ("!!int", v)
            | none => ("!!str", .text text)
      else ("!!str", .text text)

/-- Tags that resolution knows. -/
def resolvable (tag : String) : Bool :=
  ["", "!!str", "!!bool", "!!int", "!!float", "!!null", "!!timestamp"].contains tag

/-- The value of a scalar under a tag; a tag the text does not fit is an error. -/
def resolve (tag text : String) : Except String (String × Setting) :=
  if tag == "!!binary" then
    match Base64.decode? text with
    | some bytes => .ok (tag, .text (Utf8.decode bytes))
    | none => .error "yaml: !!binary value contains invalid base64 data"
  else if !resolvable tag then .ok (tag, .text text)
  else if tag == "!!str" then .ok ("!!str", .text text)
  else
    let (rtag, v) := resolvePlain text
    -- only an untagged scalar or one tagged as a timestamp is read as one
    let rtag := if rtag == "!!timestamp" && tag != "" && tag != "!!timestamp" then "!!str" else rtag
    if tag == "" || tag == rtag then .ok (rtag, v)
    else if tag == "!!float" && rtag == "!!int" then
      -- only an integer in the signed 64-bit range turns into a float
      match v with
      | .int i => .ok ("!!float", .float (Float.ofInt i))
      | _ => .error ("yaml: cannot decode " ++ rtag ++ " `" ++ text ++ "` as a " ++ tag)
    else .error ("yaml: cannot decode " ++ rtag ++ " `" ++ text ++ "` as a " ++ tag)

/-- The tag a node carries for resolution: its own, or for an untagged scalar the one its text
resolves to. -/
def scalarTag (text tag : String) (style : Style) : String :=
  if tag != "" && tag != "!" then tag
  else if style != .plain then "!!str"
  else if text == "<<" then "!!merge"
  else (resolvePlain text).1

/-- Whether a scalar is text whatever it reads like. -/
def isText (tag : String) (style : Style) : Bool :=
  tag == "!!str" || ((tag == "" || tag == "!") && style != .plain)

/-- The tag a node other than an alias would be reported by. -/
def Node.ownTag : Node → String
  | .scalar text tag style _ => if isText tag style then "!!str" else scalarTag text tag style
  | .seq _ tag _ => if tag == "" || tag == "!" then "!!seq" else tag
  | .map _ tag _ => if tag == "" || tag == "!" then "!!map" else tag
  | .alias .. => ""

/-- The tag a node would be reported by; an alias is reported by the node it repeats. -/
def Node.shortTag (anchored : Array Node) : Node → String
  | .alias _ i _ _ => (anchored.getD i default).ownTag
  | n => n.ownTag

def Node.line : Node → Nat
  | .scalar _ _ _ l | .seq _ _ l | .map _ _ l | .alias _ _ l _ => l

/-- The raw text of a scalar (or the name of an alias) as duplicate keys compare it. -/
def Node.rawText : Node → String
  | .scalar text .. => text
  | .alias name .. => name
  | _ => ""

def Node.kindCode : Node → Nat
  | .scalar .. => 0
  | .seq .. => 1
  | .map .. => 2
  | .alias .. => 3

/-- What decoding has gathered: the type errors found so far, how many nodes it has decoded and
how many of those through an alias, how many aliases deep it is, and the aliases (by number) it
is inside. -/
structure Tally where
  errors : List String := []
  decoded : Nat := 0
  aliased : Nat := 0
  depth : Nat := 0
  inside : List Nat := []

/-- Decoding reads the document's anchored nodes and keeps a tally; an error other than a type
error ends it. -/
abbrev DecodeM := ReaderT (Array Node) (StateT Tally (Except String))

def typeError (msg : String) : DecodeM Unit :=
  modify fun t => { t with errors := t.errors ++ [msg] }

/-- Whether `a` of `d` decoded nodes reached through aliases is a share the decoder refuses: over
99% up to 400000 nodes, the bound falling evenly to 10% at 4000000, and 10% past that. Fewer
than 101 aliased nodes or 1001 nodes in all are always fine. -/
def tooAliased (a d : Nat) : Bool :=
  a > 100 && d > 1000 &&
    if d ≤ 400000 then a * 100 > 99 * d
    else if d ≥ 4000000 then a * 10 > d
    else a * 360000000 > d * (356400000 - 89 * (d - 400000))

/-- Counts a node about to be decoded. A document whose decoding runs almost wholly through
aliases is refused, so that a few lines cannot stand for an enormous value. -/
def tally : DecodeM Unit := do
  let t ← get
  let t := { t with decoded := t.decoded + 1
                    aliased := if t.depth > 0 then t.aliased + 1 else t.aliased }
  set t
  if tooAliased t.aliased t.decoded then throw "yaml: document contains excessive aliasing"

/-- Steps into an alias. Meeting an alias again while decoding the node it repeats would repeat
without end, so it is an error. -/
def enterAlias (name : String) (site : Nat) : DecodeM Unit := do
  let t ← get
  if t.inside.contains site then throw ("yaml: anchor '" ++ name ++ "' value contains itself")
  set { t with depth := t.depth + 1, inside := site :: t.inside }

def leaveAlias (site : Nat) : DecodeM Unit :=
  modify fun t => { t with depth := t.depth - 1, inside := t.inside.erase site }

/-- The node an alias repeats. -/
def anchoredNode (i : Nat) : DecodeM Node := return (← readThe (Array Node)).getD i default

def tagOf (n : Node) : DecodeM String := return n.shortTag (← readThe (Array Node))

/-- A type error for a node that cannot go where it was found. -/
def mismatch (n : Node) (target : String) : DecodeM Unit := do
  let tag ← tagOf n
  -- the node's text follows its tag unless the tag is a plain sequence or mapping; a sequence or
  -- mapping under a tag of its own shows its (empty) text
  let text := match n with
    | .scalar text .. => text
    | _ => ""
  let value :=
    if tag == "!!seq" || tag == "!!map" then ""
    else if (Utf8.encode text).length > 10 then
      " `" ++ Utf8.decode ((Utf8.encode text).take 7) ++ "...`"
    else " `" ++ text ++ "`"
  typeError ("line " ++ toString n.line ++ ": cannot unmarshal " ++ tag ++ value ++ " into " ++
    target)

/-- Repeated keys of one mapping, each reported at its second place. -/
def duplicates (pairs : List (Node × Node)) : List String :=
  let keys := pairs.map (·.1)
  (List.range keys.length).flatMap fun i =>
    let ki := keys.getD i default
    ((List.range keys.length).filter (· > i)).filterMap fun j =>
      let kj := keys.getD j default
      if ki.kindCode == kj.kindCode && ki.rawText == kj.rawText then
        some ("line " ++ toString kj.line ++ ": mapping key " ++ Quoted.string kj.rawText ++
          " already defined at line " ++ toString ki.line)
      else none

/-- A float as the general format shows it: the shortest digits that read back, in positional
notation when the decimal exponent is from -4 to 5 and in exponent notation (at least two
exponent digits) otherwise. -/
def generalFloat (f : Float) : String :=
  if f.isNaN then "NaN"
  else if f.isInf then (if f > 0 then "+Inf" else "-Inf")
  else
    let (negative, num, den) := FloatText.ratio f
    let sign := if negative then "-" else ""
    if num = 0 then sign ++ "0"
    else
      let (n, x) := FloatText.shortest num den (f.toBits.toNat % Nat.pow 2 63)
      let (n, k) := FloatText.trim n
      let ds := toString n
      let exp : Int := (ds.length : Int) + x + k - 1
      if exp < -4 || exp ≥ 6 then
        let mantissa := if ds.length > 1 then ds.front.toString ++ "." ++ (ds.drop 1).toString
          else ds
        let e := toString exp.natAbs
        sign ++ mantissa ++ "e" ++ (if exp < 0 then "-" else "+") ++
          (if e.length < 2 then "0" ++ e else e)
      else sign ++ FloatText.positional n (x + k)

/-- The text of a key that is not text, as a map of such keys is turned into one of text. -/
def keyText : Setting → String
  | .text s => s
  | .int i => toString i
  | .uint n => toString n
  | .bool b => if b then "true" else "false"
  | .float f => generalFloat f
  | .null => "<nil>"
  | _ => ""

/-- A decoded value as a literal of its type, the way a refused key is shown: text quoted, an
unsigned integer in hex, collections with their element types. -/
def keyLiteral (fuel : Nat) (v : Setting) : String :=
  match fuel with
  | 0 => ""
  | fuel + 1 =>
    match v with
    | .text s => Quoted.string s
    | .int i => toString i
    | .uint n => "0x" ++ String.ofList (Nat.toDigits 16 n)
    | .bool b => if b then "true" else "false"
    | .float f => generalFloat f
    | .null => "interface \x7b\x7d(nil)"
    | .list xs =>
      "[]interface \x7b\x7d\x7b" ++ ", ".intercalate (xs.map (keyLiteral fuel)) ++ "\x7d"
    | .table es =>
      let es := es.toArray.qsort (fun a b => a.1 < b.1) |>.toList
      let shown := es.map fun (k, x) => Quoted.string k ++ ":" ++ keyLiteral fuel x
      "map[string]interface \x7b\x7d\x7b" ++ ", ".intercalate shown ++ "\x7d"
    | .other n => n

/-- Whether a decoded key is a sequence or a mapping, which no map can be keyed by. -/
def isCollection : Setting → Bool
  | .list _ | .table _ => true
  | _ => false

/-- The error for a sequence or mapping key met while merging, where the keys are gathered in a
set that cannot hold one. -/
def unhashable (v : Setting) : DecodeM α :=
  throw ("yaml: runtime error: hash of unhashable type " ++ v.typeName)

/-- Whether two decoded keys are one key of a map: values of the same kind and equal, so that an
integer key is not the text of its digits and not-a-number equals nothing. -/
def sameKey : Setting → Setting → Bool
  | .null, .null => true
  | .bool a, .bool b => a == b
  | .int a, .int b => a == b
  | .uint a, .uint b => a == b
  | .float a, .float b => a == b
  | .text a, .text b => a == b
  | .other a, .other b => a == b
  | _, _ => false

/-- Whether a key asks for a merge: a plain `<<` with no tag of its own, or one tagged `!!merge`. -/
def isMergeKey (n : Node) : Bool :=
  match n with
  | .scalar "<<" tag style _ => tag == "!!merge" || ((tag == "" || tag == "!") && style == .plain)
  | _ => false

/-- Whether a mapping is decoded with text keys: every key is text or a merge. -/
def isTextMap (pairs : List (Node × Node)) : DecodeM Bool := do
  let anchored ← readThe (Array Node)
  return pairs.all fun (k, _) =>
    let t := k.shortTag anchored
    t == "!!str" || t == "!!merge"

def Node.isMapping : Node → Bool
  | .map .. => true
  | _ => false

def wantMap : String := "yaml: map merge requires map or sequence of maps as the value"

/-- A mapping decoded so far: its pairs, and the keys a merge in progress has gathered. -/
abbrev Decoded := List (String × Setting) × Option (List Setting)

mutual

/-- The value of a node where any value may go; `none` when the node is refused, as a mapping
with a repeated key is. -/
def anyValue (fuel : Nat) (n : Node) : DecodeM (Option Setting) := do
  match fuel with
  | 0 => throw "yaml: document is too deeply nested"
  | fuel + 1 =>
  tally
  match n with
  | .scalar text tag style _ =>
    if isText tag style then return some (.text text)
    let (_, v) ← liftM (resolve (scalarTag text tag style) text)
    return some v
  | .seq items _ _ =>
    let vs ← items.mapM (anyValue fuel)
    return some (.list vs.reduceOption)
  | .map pairs _ _ =>
    let general := !(← isTextMap pairs)
    return (← mapping fuel pairs general none []).map fun (out, _) => .table out
  | .alias name i _ site =>
    enterAlias name site
    let v ← anyValue fuel (← anchoredNode i)
    leaveAlias site
    return v

/-- A key where only text may go: its text, or `none` for a null key or a key that is not a
scalar (a type error). -/
def textKey (fuel : Nat) (k : Node) : DecodeM (Option String) := do
  match fuel with
  | 0 => throw "yaml: document is too deeply nested"
  | fuel + 1 =>
  tally
  match k with
  | .scalar text tag style _ =>
    if isText tag style then return some text
    let (rtag, v) ← liftM (resolve (scalarTag text tag style) text)
    match v with
    | .null => return none
    | .text decoded => return some (if rtag == "!!binary" then decoded else text)
    | _ => return some text
  | .alias name i _ site =>
    enterAlias name site
    let r ← textKey fuel (← anchoredNode i)
    leaveAlias site
    return r
  | .seq .. | .map .. => mismatch k "string"; return none

/-- Decodes the pairs of a mapping into `out`. With `general` a key of any kind is taken by its
value, else by its text. `seen` holds, while the mapping is merged into another, the keys that
one has or has taken so far: a key among them is passed over, and any other joins them. A merge
key's value is merged in after the other pairs; of several, the last counts. `none` when a key
is repeated. -/
def mapping (fuel : Nat) (pairs : List (Node × Node)) (general : Bool)
    (seen : Option (List Setting)) (out : List (String × Setting)) :
    DecodeM (Option Decoded) := do
  match fuel with
  | 0 => throw "yaml: document is too deeply nested"
  | fuel + 1 =>
  let dups := duplicates pairs
  if !dups.isEmpty then
    for d in dups do typeError d
    return none
  let mut out := out
  let mut seen := seen
  let mut merge : Option Node := none
  for (k, v) in pairs do
    if isMergeKey k then
      merge := some v
      continue
    let key ← if general then anyValue fuel k else pure ((← textKey fuel k).map Setting.text)
    match key with
    | none => pure ()
    | some key =>
      if let some s := seen then
        if isCollection key then unhashable key
        if s.any (sameKey key) then continue
        seen := some (s ++ [key])
      if isCollection key then throw ("yaml: invalid map key: " ++ keyLiteral fuel key)
      match ← anyValue fuel v with
      | some value =>
        let name := keyText key
        out := (out.filter (·.1 != name)) ++ [(name, value)]
      | none => pure ()
  match merge with
  | none => return some (out, seen)
  | some m => return some (← mergeInto fuel pairs m general (out, seen))

/-- Merges a merge key's value into a mapping decoded so far: a mapping, an alias of one, or a
sequence of those, where the first to have a key gives its value. The keys the mapping has
itself keep their values; they are gathered, each taken as any value, unless a merge around
this one has gathered its own. -/
def mergeInto (fuel : Nat) (parent : List (Node × Node)) (m : Node) (general : Bool)
    (sofar : Decoded) : DecodeM Decoded := do
  match fuel with
  | 0 => throw "yaml: document is too deeply nested"
  | fuel + 1 =>
  let (out, outer) := sofar
  let mut own : List Setting := []
  if outer.isNone then
    for (k, _) in parent do
      match ← anyValue fuel k with
      | some key =>
        if isCollection key then unhashable key
        own := own ++ [key]
      | none => pure ()
  let keys := outer.getD own
  let (out, keys) ← match m with
    | .map .. => mergeOne fuel m general (out, keys)
    | .alias _ i _ _ =>
      if (← anchoredNode i).isMapping then mergeOne fuel m general (out, keys) else throw wantMap
    | .seq items _ _ => mergeEach fuel items general (out, keys)
    | _ => throw wantMap
  return (out, outer.map fun _ => keys)

/-- Merges the mappings of a merge sequence in turn; an entry that is not a mapping or an alias
of one is an error when it is reached. -/
def mergeEach (fuel : Nat) (items : List Node) (general : Bool)
    (sofar : List (String × Setting) × List Setting) :
    DecodeM (List (String × Setting) × List Setting) := do
  match fuel with
  | 0 => throw "yaml: document is too deeply nested"
  | fuel + 1 =>
  match items with
  | [] => return sofar
  | item :: rest =>
    let ok ← match item with
      | .alias _ i _ _ => pure (← anchoredNode i).isMapping
      | _ => pure item.isMapping
    if !ok then throw wantMap
    mergeEach fuel rest general (← mergeOne fuel item general sofar)

/-- Merges one mapping (or an alias of one), passing over the keys gathered so far. -/
def mergeOne (fuel : Nat) (n : Node) (general : Bool)
    (sofar : List (String × Setting) × List Setting) :
    DecodeM (List (String × Setting) × List Setting) := do
  match fuel with
  | 0 => throw "yaml: document is too deeply nested"
  | fuel + 1 =>
  tally
  match n with
  | .map pairs _ _ =>
    match ← mapping fuel pairs general (some sofar.2) sofar.1 with
    | some (out, keys) => return (out, keys.getD sofar.2)
    | none => return sofar
  | .alias name i _ site =>
    enterAlias name site
    let r ← mergeOne fuel (← anchoredNode i) general sofar
    leaveAlias site
    return r
  | _ => throw wantMap

end

/-- Folds the keys of tables to lower case, at every depth. Of keys that fold the same, one not
already in lower case wins over the one that is, and of two not in lower case the later wins; the
pair stays where the first of them stood. -/
def lowerKeys (fuel : Nat) (v : Setting) : Setting :=
  match fuel with
  | 0 => v
  | fuel + 1 =>
    match v with
    | .table es =>
      .table (es.foldl (fun acc (k, x) =>
        let lower := Case.toLower k
        let x := lowerKeys fuel x
        if !acc.any (·.1 == lower) then acc ++ [(lower, x)]
        else if k != lower then acc.map fun (k', y) => if k' == lower then (k', x) else (k', y)
        else acc) [])
    | .list xs => .list (xs.map (lowerKeys fuel))
    | other => other

/-- The top-level pairs of a configuration document. -/
def topLevel (fuel : Nat) (n : Node) : DecodeM (List (String × Setting)) := do
  match fuel with
  | 0 => throw "yaml: document is too deeply nested"
  | fuel + 1 =>
  tally
  match n with
  | .map pairs _ _ => return ((← mapping fuel pairs false none []).map (·.1)).getD []
  | .seq .. => mismatch n "map[string]interface \x7b\x7d"; return []
  | .scalar text tag style _ =>
    if !isText tag style then
      let (_, v) ← liftM (resolve (scalarTag text tag style) text)
      if v matches .null then return []
    mismatch n "map[string]interface \x7b\x7d"
    return []
  | .alias name i _ site =>
    enterAlias name site
    let r ← topLevel fuel (← anchoredNode i)
    leaveAlias site
    return r

/-- Reads a YAML configuration: its top-level pairs with keys in lower case. -/
def readConfig (text : String) : Except String (List (String × Setting)) := do
  match ← parse text with
  | none => return []
  | some doc =>
    -- aliases may lead back into nodes already being decoded, so the bound on nesting is
    -- larger than the text
    let fuel := (text.length + 2) * (text.length + 2) + 64
    let (pairs, tally) ← ((do tally; topLevel fuel doc.root) doc.anchored).run {}
    if !tally.errors.isEmpty then
      throw ("yaml: unmarshal errors:\n  " ++ "\n  ".intercalate tally.errors)
    match lowerKeys fuel (.table pairs) with
    | .table es => return es
    | _ => return []

end MeshCall.Yaml
