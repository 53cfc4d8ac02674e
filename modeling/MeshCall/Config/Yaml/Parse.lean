import MeshCall.Config.Yaml.Scan
/-!
# YAML documents

The second stage of reading YAML: tokens to a tree of nodes — scalars, sequences and mappings,
in block or flow form. Only the first document of a stream is read. Anchors name a node and
aliases repeat it; an anchor names its node from the node's start, so the node may hold an alias
of itself, which is left for decoding to refuse. An empty key or value is an empty plain scalar
at the place it is missing.

Errors carry the mark of the collection being read and of the token that did not fit, and are
found at the same token the grammar's state machine would find them.
-/

namespace MeshCall.Yaml

/-- A node of a document; lines count from one. -/
inductive Node where
  | scalar (text : String) (tag : String) (style : Style) (line : Nat)
  | seq (items : List Node) (tag : String) (line : Nat)
  | map (pairs : List (Node × Node)) (tag : String) (line : Nat)
  /-- An alias: the name it is written with, the place in the document's anchored nodes of the
  node it repeats, and its own number among the aliases, which tells it from every other. The
  node an alias repeats may hold the alias itself. -/
  | alias (name : String) (anchor : Nat) (line : Nat) (site : Nat)
  deriving Inhabited, Repr

/-- A document: its root and the nodes that carry an anchor, in the order the anchors occur. -/
structure Document where
  root : Node
  anchored : Array Node

structure Reader where
  scan : Scanner
  /-- The anchors met so far, the latest first, with their places in `anchored`. -/
  anchors : List (String × Nat) := []
  /-- The anchored nodes; one still being read has a placeholder until it is complete. -/
  anchored : Array Node := #[]
  /-- How many aliases have been read. -/
  aliases : Nat := 0
  /-- The tag handles in force and the prefixes they stand for. -/
  handles : List (String × String) := []
  deriving Inhabited

abbrev ParseM := StateT Reader (Except Failure)

def scanning (m : ScanM α) : ParseM α := fun r =>
  match m r.scan with
  | .ok (a, s) => .ok (a, { r with scan := s })
  | .error e => .error e

def peekToken : ParseM Token := scanning peek

def takeToken : ParseM Unit := scanning take

/-- A failure of the grammar, at the start of the token that did not fit. -/
def grammarError (context : Mark) (problem : String) (spot : Mark) : ParseM α :=
  throw ⟨false, context, problem, spot⟩

/-- A failure that names no line. -/
def plainError (problem : String) : ParseM α := throw ⟨false, {}, problem, {}⟩

def emptyScalar (m : Mark) : Node := .scalar "" "" .plain (m.line + 1)

def isKind (t : Token) (ks : List Kind) : Bool := ks.contains t.kind

/-- The handles every document has unless its directives say otherwise: `!` for local tags and
`!!` for the YAML tag space. -/
def defaultHandles : List (String × String) := [("!", "!"), ("!!", "tag:yaml.org,2002:")]

/-- The full tag a tag token names, by the handles in force; a verbatim tag stands for itself. -/
def fullTag (handles : List (String × String)) (handle suffix : String) : Option String :=
  if handle == "" then some suffix
  else (handles.lookup handle).map (· ++ suffix)

/-- The short form of a tag in the YAML tag space. -/
def shortTag (tag : String) : String :=
  if tag.startsWith "tag:yaml.org,2002:" then "!!" ++ (tag.drop 18).toString else tag

/-- Gives an anchor a place for its node as the node starts, so that the node's own aliases
can name it; an anchor of a name used before hides the earlier one from here on. -/
def openAnchor (name : String) : ParseM (Option Nat) := do
  if name.isEmpty then return none
  let r ← get
  set { r with anchors := (name, r.anchored.size) :: r.anchors, anchored := r.anchored.push default }
  return some r.anchored.size

/-- Puts a complete node into the place its anchor was given. -/
def closeAnchor (slot : Option Nat) (n : Node) : ParseM Unit :=
  match slot with
  | some i => modify fun r => { r with anchored := r.anchored.setIfInBounds i n }
  | none => pure ()

mutual

/-- A node, after its anchor and tag if any. -/
def parseNode (fuel : Nat) (block indentless : Bool) : ParseM Node := do
  match fuel with
  | 0 => plainError "document is too deeply nested"
  | fuel + 1 =>
  let token ← peekToken
  match token.kind with
  | .alias name =>
    takeToken
    let r ← get
    match r.anchors.lookup name with
    | some i =>
      set { r with aliases := r.aliases + 1 }
      return .alias name i (token.start.line + 1) r.aliases
    | none => plainError ("unknown anchor '" ++ name ++ "' referenced")
  | _ =>
  let start := token.start
  let (anchor, tagToken, token) ← do
    match token.kind with
    | .anchor a =>
      takeToken
      let t ← peekToken
      match t.kind with
      | .tag h s => takeToken; pure (a, some (h, s, t.start), ← peekToken)
      | _ => pure (a, none, t)
    | .tag h s =>
      takeToken
      let t ← peekToken
      match t.kind with
      | .anchor a => takeToken; pure (a, some (h, s, token.start), ← peekToken)
      | _ => pure ("", some (h, s, token.start), t)
    | _ => pure ("", none, token)
  let tag ← match tagToken with
    | none => pure ""
    | some (h, s, m) =>
      match fullTag (← get).handles h s with
      | some t => pure t
      | none => grammarError start "found undefined tag handle" m
  let tag := if tag == "!" then "!" else shortTag tag
  let line := start.line + 1
  let slot ← openAnchor anchor
  let node ← do
    if indentless && token.kind == .blockEntry then
      pure (.seq (← indentlessItems fuel []) tag line)
    else match token.kind with
      | .scalar text style => takeToken; pure (.scalar text tag style line)
      | .flowSequenceStart =>
        takeToken
        pure (.seq (← flowItems fuel token.start true []) tag line)
      | .flowMappingStart =>
        takeToken
        pure (.map (← flowPairs fuel token.start true []) tag line)
      | .blockSequenceStart =>
        if block then
          takeToken
          pure (.seq (← blockItems fuel token.start []) tag line)
        else if !anchor.isEmpty || !tag.isEmpty then pure (.scalar "" tag .plain line)
        else grammarError start "did not find expected node content" token.start
      | .blockMappingStart =>
        if block then
          takeToken
          pure (.map (← blockPairs fuel token.start []) tag line)
        else if !anchor.isEmpty || !tag.isEmpty then pure (.scalar "" tag .plain line)
        else grammarError start "did not find expected node content" token.start
      | _ =>
        if !anchor.isEmpty || !tag.isEmpty then pure (.scalar "" tag .plain line)
        else grammarError start "did not find expected node content" token.start
  closeAnchor slot node
  return node

/-- The entries of a block sequence, after its start token. -/
def blockItems (fuel : Nat) (context : Mark) (acc : List Node) : ParseM (List Node) := do
  match fuel with
  | 0 => plainError "document is too deeply nested"
  | fuel + 1 =>
  let token ← peekToken
  match token.kind with
  | .blockEntry =>
    takeToken
    let next ← peekToken
    let item ← if !isKind next [.blockEntry, .blockEnd] then parseNode fuel true false
      else pure (emptyScalar token.stop)
    blockItems fuel context (acc ++ [item])
  | .blockEnd => takeToken; return acc
  | _ => grammarError context "did not find expected '-' indicator" token.start

/-- The entries of a sequence written at its parent mapping's indentation. -/
def indentlessItems (fuel : Nat) (acc : List Node) : ParseM (List Node) := do
  match fuel with
  | 0 => plainError "document is too deeply nested"
  | fuel + 1 =>
  let token ← peekToken
  match token.kind with
  | .blockEntry =>
    takeToken
    let next ← peekToken
    let item ← if !isKind next [.blockEntry, .key, .value, .blockEnd] then parseNode fuel true false
      else pure (emptyScalar token.stop)
    indentlessItems fuel (acc ++ [item])
  | _ => return acc

/-- The pairs of a block mapping, after its start token. -/
def blockPairs (fuel : Nat) (context : Mark) (acc : List (Node × Node)) :
    ParseM (List (Node × Node)) := do
  match fuel with
  | 0 => plainError "document is too deeply nested"
  | fuel + 1 =>
  let token ← peekToken
  match token.kind with
  | .key =>
    takeToken
    let next ← peekToken
    let k ← if !isKind next [.key, .value, .blockEnd] then parseNode fuel true true
      else pure (emptyScalar token.stop)
    let vt ← peekToken
    let v ← if vt.kind == .value then do
        takeToken
        let next ← peekToken
        if !isKind next [.key, .value, .blockEnd] then parseNode fuel true true
        else pure (emptyScalar vt.stop)
      else pure (emptyScalar vt.start)
    blockPairs fuel context (acc ++ [(k, v)])
  | .blockEnd => takeToken; return acc
  | _ => grammarError context "did not find expected key" token.start

/-- The entries of a flow sequence, after `[`; a `key: value` entry is a one-pair mapping. -/
def flowItems (fuel : Nat) (context : Mark) (first : Bool) (acc : List Node) :
    ParseM (List Node) := do
  match fuel with
  | 0 => plainError "document is too deeply nested"
  | fuel + 1 =>
  let token ← peekToken
  if token.kind == .flowSequenceEnd then takeToken; return acc
  let token ← if first then pure token
    else if token.kind == .flowEntry then do takeToken; peekToken
    else grammarError context "did not find expected ',' or ']'" token.start
  match token.kind with
  | .flowSequenceEnd => takeToken; return acc
  | .key =>
    takeToken
    let kt ← peekToken
    let k ← if !isKind kt [.value, .flowEntry, .flowSequenceEnd] then parseNode fuel false false
      else do takeToken; pure (emptyScalar kt.stop)
    let vt ← peekToken
    let v ← if vt.kind == .value then do
        takeToken
        let next ← peekToken
        if !isKind next [.flowEntry, .flowSequenceEnd] then parseNode fuel false false
        else pure (emptyScalar next.start)
      else pure (emptyScalar vt.start)
    flowItems fuel context false (acc ++ [.map [(k, v)] "" (token.start.line + 1)])
  | _ =>
    let item ← parseNode fuel false false
    flowItems fuel context false (acc ++ [item])

/-- The pairs of a flow mapping, after its opening brace; an entry without `:` has an empty
value. -/
def flowPairs (fuel : Nat) (context : Mark) (first : Bool) (acc : List (Node × Node)) :
    ParseM (List (Node × Node)) := do
  match fuel with
  | 0 => plainError "document is too deeply nested"
  | fuel + 1 =>
  let token ← peekToken
  if token.kind == .flowMappingEnd then takeToken; return acc
  let token ← if first then pure token
    else if token.kind == .flowEntry then do takeToken; peekToken
    else grammarError context "did not find expected ',' or '\x7d'" token.start
  match token.kind with
  | .flowMappingEnd => takeToken; return acc
  | .key =>
    takeToken
    let kt ← peekToken
    let k ← if !isKind kt [.value, .flowEntry, .flowMappingEnd] then parseNode fuel false false
      else pure (emptyScalar kt.start)
    let vt ← peekToken
    let v ← if vt.kind == .value then do
        takeToken
        let next ← peekToken
        if !isKind next [.flowEntry, .flowMappingEnd] then parseNode fuel false false
        else pure (emptyScalar next.start)
      else pure (emptyScalar vt.start)
    flowPairs fuel context false (acc ++ [(k, v)])
  | _ =>
    let k ← parseNode fuel false false
    let vt ← peekToken
    flowPairs fuel context false (acc ++ [(k, emptyScalar vt.start)])

end

/-- Whether a token is a directive. -/
def isDirective (t : Token) : Bool :=
  match t.kind with
  | .versionDirective .. | .tagDirective .. => true
  | _ => false

/-- Takes the directives in front of a document: at most one `%YAML`, which must name version
1.1, and `%TAG` directives with handles of their own. The default handles are added after them
where the directives left them free. -/
def directives : Nat → Bool → ParseM Token
  | 0, _ => peekToken
  | n + 1, versioned => do
    let t ← peekToken
    match t.kind with
    | .versionDirective major minor =>
      if versioned then grammarError {} "found duplicate %YAML directive" t.start
      if major != 1 || minor != 1 then grammarError {} "found incompatible YAML document" t.start
      takeToken
      directives n true
    | .tagDirective handle pfx =>
      if ((← get).handles.lookup handle).isSome then
        grammarError {} "found duplicate %TAG directive" t.start
      modify fun r => { r with handles := r.handles ++ [(handle, pfx)] }
      takeToken
      directives n versioned
    | _ =>
      modify fun r =>
        let free := defaultHandles.filter fun (h, _) => (r.handles.lookup h).isNone
        { r with handles := r.handles ++ free }
      return t

/-- The root of the first document, or `none` for a stream without documents. -/
def parseDocument : ParseM (Option Node) := do
  let fuel := (← get).scan.rest.length * 4 + 16
  let _ ← peekToken
  takeToken
  let token ← peekToken
  if !isDirective token && !isKind token [.documentStart, .streamEnd] then
    let _ ← directives fuel false
    let root ← parseNode fuel true false
    let _ ← peekToken
    return some root
  else if token.kind != .streamEnd then
    let token ← directives fuel false
    if token.kind != .documentStart then
      grammarError {} "did not find expected <document start>" token.start
    takeToken
    let token ← peekToken
    let root ← if isDirective token || isKind token [.documentStart, .documentEnd, .streamEnd] then
        pure (emptyScalar token.start)
      else parseNode fuel true false
    let _ ← peekToken
    return some root
  else return none

/-- How many characters of a text the reader hands on before it meets one outside the printable
set, if there is one. The reader takes the text in portions: each time it needs more it reads
up to 512 bytes past what it has decoded (a character cut by the end of a portion waits for the
next one), and a portion holding a refused character is refused as a whole. A byte-order mark
in front belongs to the first portion but is not handed on. -/
def readable (chars : List Char) (bom : Nat) : Option Nat :=
  match chars.findIdx? (fun c => !allowed c) with
  | none => none
  | some bad =>
    let widths := chars.map fun c => (Utf8.encode c.toString).length
    -- the byte offset at which each character ends
    let ends := (widths.foldl (fun (acc : List Nat × Nat) w => (acc.1 ++ [acc.2 + w], acc.2 + w))
      ([], bom)).1
    let badEnd := ends.getD bad 0
    let rec portions : Nat → Nat → Nat
      | 0, decoded => decoded
      | k + 1, decoded =>
        let reach := decoded + 512
        let next := (ends.filter (· ≤ reach)).getLast?.getD decoded
        if badEnd ≤ reach || next == decoded then decoded else portions k next
    let decoded := portions (chars.length + 1) 0
    some (ends.filter (· ≤ decoded)).length

/-- Reads the first document of a text; a leading byte-order mark is dropped. -/
def parse (text : String) : Except String (Option Document) :=
  let (chars, bom) := match text.toList with
    | c :: rest => if c.toNat == 0xFEFF then (rest, 3) else (c :: rest, 0)
    | [] => ([], 0)
  match parseDocument.run { scan := { rest := chars, readable := readable chars bom } } with
  | .ok (root, r) => .ok (root.map fun n => ⟨n, r.anchored⟩)
  | .error f => .error f.message

end MeshCall.Yaml
