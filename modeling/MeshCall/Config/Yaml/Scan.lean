import MeshCall.Text.Utf8
/-!
# YAML tokens

The first stage of reading YAML: characters to tokens. Indentation is turned into explicit
block-start and block-end tokens, and a scalar (or a flow collection) followed on the same line
by `: ` is marked as a key after the fact, by inserting a key token — and, when it opens a new
indentation level, a block-mapping-start token — in front of it. Such a *simple key* must fit on
one line and in 1024 characters; where the indentation demands a key, failing to find its `:`
is an error.

Tokens are produced on demand: the reader keeps at least three tokens ahead of the one asked
for, and more while that one may still turn out to be a key. This fixes which error is found
first when a document has several.

Every error keeps the position it belongs to; its message names the line as the reader reports
it (see `Failure.message`).
-/

namespace MeshCall.Yaml

/-- A position: characters from the start, line and column, all from zero. -/
structure Mark where
  index : Nat := 0
  line : Nat := 0
  column : Nat := 0
  deriving Inhabited, Repr, DecidableEq

/-- How a scalar was written. -/
inductive Style where
  | plain
  | singleQuoted
  | doubleQuoted
  | literal
  | folded
  deriving Inhabited, Repr, DecidableEq

inductive Kind where
  | streamStart
  | streamEnd
  | versionDirective (major minor : Nat)
  | tagDirective (handle pfx : String)
  | documentStart
  | documentEnd
  | blockSequenceStart
  | blockMappingStart
  | blockEnd
  | flowSequenceStart
  | flowSequenceEnd
  | flowMappingStart
  | flowMappingEnd
  | blockEntry
  | flowEntry
  | key
  | value
  | alias (name : String)
  | anchor (name : String)
  | tag (handle suffix : String)
  | scalar (text : String) (style : Style)
  deriving Inhabited, Repr, DecidableEq

structure Token where
  kind : Kind
  start : Mark
  stop : Mark
  deriving Inhabited, Repr

/-- A failure: whether the scanner found it, the mark of the construct it was in (zero when
none), what went wrong and where. -/
structure Failure where
  scanner : Bool
  context : Mark
  problem : String
  spot : Mark
  deriving Inhabited, Repr

/-- The message of a failure. The line named is the context's line when it is not the first,
else the problem's; lines count from zero here, and from one for the scanner's own errors. -/
def Failure.message (f : Failure) : String :=
  let bump := if f.scanner then 1 else 0
  let line :=
    if f.context.line != 0 then f.context.line + bump
    else if f.spot.line != 0 then f.spot.line + bump
    else 0
  "yaml: " ++ (if line != 0 then "line " ++ toString line ++ ": " else "") ++ f.problem

/-- A place where a simple key may start. -/
structure SimpleKey where
  possible : Bool := false
  required : Bool := false
  number : Nat := 0
  mark : Mark := {}
  deriving Inhabited, Repr

structure Scanner where
  rest : List Char
  mark : Mark := {}
  /-- Tokens scanned but not yet taken, the next first. -/
  queue : List Token := []
  /-- Tokens taken so far. -/
  taken : Nat := 0
  started : Bool := false
  finished : Bool := false
  indent : Int := -1
  indents : List Int := []
  /-- The possible simple key of each flow level, the innermost first. -/
  keys : List SimpleKey := []
  keyAllowed : Bool := false
  flowLevel : Nat := 0
  /-- How many characters the reader hands on before it meets one it refuses; none when it
  refuses none. -/
  readable : Option Nat := none
  deriving Inhabited

abbrev ScanM := StateT Scanner (Except Failure)

/-! ## Characters -/

def isBlank : Option Char → Bool
  | some ' ' | some '\t' => true
  | _ => false

def isBreak : Option Char → Bool
  | some c => c == '\r' || c == '\n' || c == '\x85' || c.toNat == 0x2028 || c.toNat == 0x2029
  | none => false

def isBlankz (c : Option Char) : Bool := isBlank c || isBreak c || c.isNone

def isBreakz (c : Option Char) : Bool := isBreak c || c.isNone

def isDigit : Option Char → Bool
  | some c => c.isDigit
  | none => false

def isHex : Option Char → Bool
  | some c => c.isDigit || ('a' ≤ c && c ≤ 'f') || ('A' ≤ c && c ≤ 'F')
  | none => false

def hexValue (c : Char) : Nat :=
  if c.isDigit then c.toNat - 48 else if 'a' ≤ c && c ≤ 'f' then c.toNat - 87 else c.toNat - 55

/-- Characters the reader accepts anywhere in a document. -/
def allowed (c : Char) : Bool :=
  let v := c.toNat
  v == 0x09 || v == 0x0A || v == 0x0D || (0x20 ≤ v && v ≤ 0x7E) || v == 0x85 ||
    (0xA0 ≤ v && v ≤ 0xD7FF) || (0xE000 ≤ v && v ≤ 0xFFFD) || (0x10000 ≤ v && v ≤ 0x10FFFF)

/-- Characters an anchor name may hold: ASCII letters and digits, `_` and `-`. -/
def isAnchorChar : Option Char → Bool
  | some c => (c.isAlphanum && c.toNat < 0x80) || c == '_' || c == '-'
  | none => false

/-! ## Moving through the text -/

/-- The character `k` places on. Looking at a character the reader cannot hand on is the
reader's error. -/
def ahead (k : Nat) : ScanM (Option Char) := do
  let s ← get
  match s.readable with
  | some n => if n ≤ s.mark.index + k then throw ⟨true, {}, "control characters are not allowed", {}⟩
  | none => pure ()
  return s.rest[k]?

def here : ScanM (Option Char) := ahead 0

/-- Moves past one character that is not a line break. -/
def skip : ScanM Unit := modify fun s =>
  match s.rest with
  | [] => s
  | _ :: r => { s with rest := r, mark := ⟨s.mark.index + 1, s.mark.line, s.mark.column + 1⟩ }

/-- Moves past a line break; `\r\n` is one. -/
def skipLine : ScanM Unit := modify fun s =>
  match s.rest with
  | '\r' :: '\n' :: r => { s with rest := r, mark := ⟨s.mark.index + 2, s.mark.line + 1, 0⟩ }
  | c :: r =>
    if isBreak (some c) then { s with rest := r, mark := ⟨s.mark.index + 1, s.mark.line + 1, 0⟩ }
    else s
  | [] => s

/-- Moves past one character, keeping it. -/
def read (acc : String) : ScanM String := do
  match ← here with
  | some c => skip; return acc.push c
  | none => return acc

/-- Moves past a line break, keeping it as `\n` (line and paragraph separators stay). -/
def readLine (acc : String) : ScanM String := do
  let s ← get
  match s.rest with
  | '\r' :: '\n' :: r =>
    set { s with rest := r, mark := ⟨s.mark.index + 2, s.mark.line + 1, 0⟩ }
    return acc.push '\n'
  | c :: r =>
    if c == '\r' || c == '\n' || c == '\x85' then
      set { s with rest := r, mark := ⟨s.mark.index + 1, s.mark.line + 1, 0⟩ }
      return acc.push '\n'
    else if c.toNat == 0x2028 || c.toNat == 0x2029 then
      set { s with rest := r, mark := ⟨s.mark.index + 1, s.mark.line + 1, 0⟩ }
      return acc.push c
    else return acc
  | [] => return acc

def fail (context : Mark) (problem : String) : ScanM α := do
  throw ⟨true, context, problem, (← get).mark⟩

/-- The fuel of a loop that takes at least one character per round. -/
def budget : ScanM Nat := return (← get).rest.length + 1

/-! ## The token queue -/

/-- Puts a token at a position of the queue, or at its end. -/
def insert (pos : Option Nat) (t : Token) : ScanM Unit := modify fun s =>
  match pos with
  | none => { s with queue := s.queue ++ [t] }
  | some p => { s with queue := s.queue.take p ++ t :: s.queue.drop p }

def emit (t : Token) : ScanM Unit := insert none t

/-- The number the next token will have. -/
def nextNumber : ScanM Nat := do
  let s ← get
  return s.taken + s.queue.length

/-! ## Simple keys -/

def topKey : ScanM SimpleKey := return (← get).keys.headD {}

def setTopKey (k : SimpleKey) : ScanM Unit :=
  modify fun s => { s with keys := k :: s.keys.drop 1 }

/-- Drops the possible key of this level; a required one is an error. -/
def removeKey : ScanM Unit := do
  let k ← topKey
  if k.possible then
    if k.required then throw ⟨true, k.mark, "could not find expected ':'", (← get).mark⟩
    setTopKey { k with possible := false }

/-- Notes that a simple key may start here. -/
def saveKey : ScanM Unit := do
  let s ← get
  let required := s.flowLevel == 0 && s.indent == (s.mark.column : Int)
  if s.keyAllowed then
    let k : SimpleKey := ⟨true, required, s.taken + s.queue.length, s.mark⟩
    removeKey
    setTopKey k

/-- Whether a possible key is still one: it must be on this line and within 1024 characters;
one that is not is dropped, and if it was required that is an error. -/
def stillKey (k : SimpleKey) (m : Mark) : Except Failure (Bool × SimpleKey) :=
  if !k.possible then .ok (false, k)
  else if k.mark.line < m.line || k.mark.index + 1024 < m.index then
    if k.required then .error ⟨true, k.mark, "could not find expected ':'", m⟩
    else .ok (false, { k with possible := false })
  else .ok (true, k)

/-! ## Indentation -/

/-- Opens an indentation level at `column` in block context, with a start token at token
number `number` (or at the end). -/
def rollIndent (column : Int) (number : Option Nat) (kind : Kind) (mark : Mark) : ScanM Unit := do
  let s ← get
  if s.flowLevel == 0 && s.indent < column then
    set { s with indents := s.indent :: s.indents, indent := column }
    if s.indents.length + 1 > 10000 then
      throw ⟨true, (← topKey).mark, "exceeded max depth of 10000", (← get).mark⟩
    insert (number.map (· - s.taken)) ⟨kind, mark, mark⟩

/-- Closes the indentation levels deeper than `column`, each with a block-end token placed just
before `scanMark`. -/
def unrollIndent (column : Int) (scanMark : Mark) : ScanM Unit := do
  let m : Mark := { scanMark with index := scanMark.index - 1 }
  let rec close : Nat → ScanM Unit
    | 0 => pure ()
    | n + 1 => do
      let s ← get
      if s.flowLevel == 0 && s.indent > column then
        set { s with queue := s.queue ++ [({ kind := .blockEnd, start := m, stop := m } : Token)],
                     indent := s.indents.headD (-1),
                     indents := s.indents.drop 1 }
        close n
  close ((← get).indents.length + 1)

/-! ## Whitespace and comments -/

def skipSpaces : Nat → ScanM Unit
  | 0 => pure ()
  | n + 1 => do
    let s ← get
    let c ← here
    if c == some ' ' || ((s.flowLevel > 0 || !s.keyAllowed) && c == some '\t') then
      skip; skipSpaces n

def skipToBreak : Nat → ScanM Unit
  | 0 => pure ()
  | n + 1 => do
    if !isBreakz (← here) then skip; skipToBreak n

/-- Moves to the start of the next token past blanks, comments and line breaks; in block context
a new line allows a simple key. -/
def toNextToken : Nat → ScanM Unit
  | 0 => pure ()
  | n + 1 => do
    if (← get).mark.column == 0 && (← here) == some (Char.ofNat 0xFEFF) then skip
    skipSpaces (← budget)
    if (← here) == some '#' then skipToBreak (← budget)
    if isBreak (← here) then
      skipLine
      if (← get).flowLevel == 0 then modify fun s => { s with keyAllowed := true }
      toNextToken n

/-! ## Scalars -/

/-- Folds the line breaks met inside a flow or plain scalar: a single break is a space, more
breaks keep all but the first. -/
def fold (leading trailing : String) : String :=
  if leading.startsWith "\n" then (if trailing.isEmpty then " " else trailing)
  else leading ++ trailing

/-- The body of a plain scalar: words separated by blanks and line breaks, ending at `: `, ` #`,
a flow indicator in flow context, a document marker, or a line indented no deeper than the
enclosing block. -/
def plainBody (indent : Int) (start : Mark) :
    Nat → String → String → String → String → Bool → Mark → ScanM (String × Mark × Bool)
  | 0, acc, _, _, _, blanks, stop => return (acc, stop, blanks)
  | n + 1, acc, leading, trailing, spaces, blanks, stop => do
    let c0 ← ahead 0
    let c1 ← ahead 1
    let c2 ← ahead 2
    let c3 ← ahead 3
    let column := (← get).mark.column
    if column == 0 && ((c0 == some '-' && c1 == some '-' && c2 == some '-') ||
        (c0 == some '.' && c1 == some '.' && c2 == some '.')) && isBlankz c3 then
      return (acc, stop, blanks)
    if c0 == some '#' then return (acc, stop, blanks)
    -- the non-blank characters of a word
    let (acc, leading, trailing, spaces, blanks, stop) ← word n acc leading trailing spaces blanks stop
    let c ← here
    if !(isBlank c || isBreak c) then return (acc, stop, blanks)
    let (leading, trailing, spaces, blanks) ← gap n leading trailing spaces blanks
    if (← get).flowLevel == 0 && ((← get).mark.column : Int) < indent then return (acc, stop, blanks)
    plainBody indent start n acc leading trailing spaces blanks stop
where
  word : Nat → String → String → String → String → Bool → Mark →
      ScanM (String × String × String × String × Bool × Mark)
    | 0, acc, l, t, w, b, stop => return (acc, l, t, w, b, stop)
    | k + 1, acc, l, t, w, b, stop => do
      let c0 ← ahead 0
      let c1 ← ahead 1
      if isBlankz c0 then return (acc, l, t, w, b, stop)
      let flow := (← get).flowLevel > 0
      if (c0 == some ':' && isBlankz c1) ||
          (flow && (c0 == some ',' || c0 == some '[' || c0 == some ']' || c0 == some '{' ||
            c0 == some '}')) then
        return (acc, l, t, w, b, stop)
      let acc := if b then acc ++ fold l t else acc ++ w
      let acc ← read acc
      word k acc "" "" "" false (← get).mark
  gap : Nat → String → String → String → Bool → ScanM (String × String × String × Bool)
    | 0, l, t, w, b => return (l, t, w, b)
    | k + 1, l, t, w, b => do
      let c ← here
      if isBlank c then
        if b && ((← get).mark.column : Int) < indent && c == some '\t' then
          throw ⟨true, start, "found a tab character that violates indentation", (← get).mark⟩
        if !b then gap k l t (← read w) b else do skip; gap k l t w b
      else if isBreak c then
        if !b then gap k (← readLine "") t "" true
        else gap k l (← readLine t) w b
      else return (l, t, w, b)

def scanPlain : ScanM Token := do
  let s ← get
  let start := s.mark
  let (text, stop, blanks) ← plainBody (s.indent + 1) start (← budget) "" "" "" "" false start
  if blanks then modify fun s => { s with keyAllowed := true }
  return ⟨.scalar text .plain, start, stop⟩

/-- The character an escape of a double-quoted scalar stands for. -/
def escapeOf : Char → Option Char
  | '0' => some '\x00'
  | 'a' => some '\x07'
  | 'b' => some '\x08'
  | 't' => some '\t'
  | '\t' => some '\t'
  | 'n' => some '\n'
  | 'v' => some '\x0b'
  | 'f' => some '\x0c'
  | 'r' => some '\r'
  | 'e' => some '\x1b'
  | ' ' => some ' '
  | '"' => some '"'
  | '\'' => some '\''
  | '\\' => some '\\'
  | 'N' => some '\x85'
  | '_' => some '\xa0'
  | 'L' => some (Char.ofNat 0x2028)
  | 'P' => some (Char.ofNat 0x2029)
  | _ => none

/-- Reads `k` hex digits of an escape. -/
def hexDigits (start : Mark) : Nat → Nat → ScanM Nat
  | 0, v => return v
  | k + 1, v => do
    match ← here with
    | some c =>
      if isHex (some c) then skip; hexDigits start k (v * 16 + hexValue c)
      else throw ⟨true, start, "did not find expected hexdecimal number", (← get).mark⟩
    | none => throw ⟨true, start, "did not find expected hexdecimal number", (← get).mark⟩

/-- The body of a quoted scalar, up to its closing quote. -/
def quotedBody (single : Bool) (start : Mark) : Nat → String → ScanM String
  | 0, acc => return acc
  | n + 1, acc => do
    let c0 ← ahead 0
    let c1 ← ahead 1
    let c2 ← ahead 2
    let c3 ← ahead 3
    if (← get).mark.column == 0 && ((c0 == some '-' && c1 == some '-' && c2 == some '-') ||
        (c0 == some '.' && c1 == some '.' && c2 == some '.')) && isBlankz c3 then
      throw ⟨true, start, "found unexpected document indicator", (← get).mark⟩
    if c0.isNone then throw ⟨true, start, "found unexpected end of stream", (← get).mark⟩
    let (acc, blanks) ← chars n acc
    let c ← here
    if (single && c == some '\'') || (!single && c == some '"') then return acc
    let (leading, trailing, spaces, blanks) ← gap n "" "" "" blanks
    let acc := if blanks then acc ++ fold leading trailing else acc ++ spaces
    quotedBody single start n acc
where
  chars : Nat → String → ScanM (String × Bool)
    | 0, acc => return (acc, false)
    | k + 1, acc => do
      let c0 ← ahead 0
      let c1 ← ahead 1
      if isBlankz c0 then return (acc, false)
      if single && c0 == some '\'' && c1 == some '\'' then
        skip; skip; chars k (acc.push '\'')
      else if single && c0 == some '\'' then return (acc, false)
      else if !single && c0 == some '"' then return (acc, false)
      else if !single && c0 == some '\\' && isBreak c1 then
        skip; skipLine; return (acc, true)
      else if !single && c0 == some '\\' then
        match c1 with
        | some 'x' => skip; skip; escaped k acc 2
        | some 'u' => skip; skip; escaped k acc 4
        | some 'U' => skip; skip; escaped k acc 8
        | some e =>
          match escapeOf e with
          | some r => skip; skip; chars k (acc.push r)
          | none => throw ⟨true, start, "found unknown escape character", (← get).mark⟩
        | none => throw ⟨true, start, "found unknown escape character", (← get).mark⟩
      else chars k (← read acc)
  escaped : Nat → String → Nat → ScanM (String × Bool)
    | k, acc, width => do
      let v ← hexDigits start width 0
      if (0xD800 ≤ v && v ≤ 0xDFFF) || v > 0x10FFFF then
        throw ⟨true, start, "found invalid Unicode character escape code", (← get).mark⟩
      chars k (acc.push (Char.ofNat v))
  gap : Nat → String → String → String → Bool → ScanM (String × String × String × Bool)
    | 0, l, t, w, b => return (l, t, w, b)
    | k + 1, l, t, w, b => do
      let c ← here
      if isBlank c then
        if !b then gap k l t (← read w) b else do skip; gap k l t w b
      else if isBreak c then
        if !b then gap k (← readLine "") t "" true
        else gap k l (← readLine t) w b
      else return (l, t, w, b)

def scanQuoted (single : Bool) : ScanM Token := do
  let start := (← get).mark
  skip
  let text ← quotedBody single start (← budget) ""
  skip
  return ⟨.scalar text (if single then .singleQuoted else .doubleQuoted), start, (← get).mark⟩

/-- Spaces and empty lines before the content of a block scalar; fixes the indentation when it
was not given. -/
def blockBreaks (start : Mark) (given : Nat) : Nat → String → Nat → Mark →
    ScanM (Nat × String × Mark)
  | 0, breaks, _, stop => return (given, breaks, stop)
  | n + 1, breaks, maxIndent, _ => do
    let stop := (← get).mark
    let rec spaces : Nat → ScanM Unit
      | 0 => pure ()
      | k + 1 => do
        if (given == 0 || (← get).mark.column < given) && (← here) == some ' ' then
          skip; spaces k
    spaces (← budget)
    let col := (← get).mark.column
    let maxIndent := max maxIndent col
    if (given == 0 || col < given) && (← here) == some '\t' then
      throw ⟨true, start, "found a tab character where an indentation space is expected",
        (← get).mark⟩
    if !isBreak (← here) then
      if given == 0 then
        let base := (← get).indent + 1
        let chosen : Int := max (max (maxIndent : Int) base) 1
        return (chosen.toNat, breaks, stop)
      else return (given, breaks, stop)
    let breaks ← readLine breaks
    blockBreaks start given n breaks maxIndent (← get).mark

/-- The lines of a block scalar at its indentation. -/
def blockLines (literal : Bool) (indent : Nat) (start : Mark) : Nat → String → String → String →
    Bool → Mark → ScanM (String × String × String × Mark)
  | 0, acc, leading, trailing, _, stop => return (acc, leading, trailing, stop)
  | n + 1, acc, leading, trailing, leadingBlank, stop => do
    if (← get).mark.column != indent || (← here).isNone then
      return (acc, leading, trailing, stop)
    let trailingBlank := isBlank (← here)
    let acc :=
      if !literal && !leadingBlank && !trailingBlank && leading.startsWith "\n" then
        (if trailing.isEmpty then acc.push ' ' else acc)
      else acc ++ leading
    let acc := acc ++ trailing
    let leadingBlank := isBlank (← here)
    let rec line : Nat → String → ScanM String
      | 0, acc => return acc
      | k + 1, acc => do
        if isBreakz (← here) then return acc else line k (← read acc)
    let acc ← line (← budget) acc
    let leading ← readLine ""
    let (_, trailing, stop) ← blockBreaks start indent (← budget) "" 0 stop
    blockLines literal indent start n acc leading trailing leadingBlank stop

def scanBlock (literal : Bool) : ScanM Token := do
  let start := (← get).mark
  skip
  let c ← here
  let (chomp, increment) ← do
    if c == some '+' || c == some '-' then
      skip
      let d ← here
      if isDigit d then
        if d == some '0' then throw ⟨true, start, "found an indentation indicator equal to 0", (← get).mark⟩
        skip
        pure ((if c == some '+' then 1 else -1 : Int), (d.getD '0').toNat - 48)
      else pure ((if c == some '+' then 1 else -1 : Int), 0)
    else if isDigit c then
      if c == some '0' then throw ⟨true, start, "found an indentation indicator equal to 0", (← get).mark⟩
      skip
      let e ← here
      if e == some '+' || e == some '-' then
        skip
        pure ((if e == some '+' then 1 else -1 : Int), (c.getD '0').toNat - 48)
      else pure (0, (c.getD '0').toNat - 48)
    else pure (0, 0)
  let rec blanks : Nat → ScanM Unit
    | 0 => pure ()
    | k + 1 => do if isBlank (← here) then skip; blanks k
  blanks (← budget)
  if (← here) == some '#' then skipToBreak (← budget)
  if !isBreakz (← here) then
    throw ⟨true, start, "did not find expected comment or line break", (← get).mark⟩
  if isBreak (← here) then skipLine
  let stop := (← get).mark
  let indentNow := (← get).indent
  let given : Nat := if increment > 0 then
      (if indentNow ≥ 0 then (indentNow + increment).toNat else increment) else 0
  let (indent, trailing, stop) ← blockBreaks start given (← budget) "" 0 stop
  let (acc, leading, trailing, stop) ← blockLines literal indent start (← budget) "" "" trailing false stop
  let acc := if chomp != -1 then acc ++ leading else acc
  let acc := if chomp == 1 then acc ++ trailing else acc
  return ⟨.scalar acc (if literal then .literal else .folded), start, stop⟩

/-! ## Anchors, aliases and tags -/

def scanAnchor (isAlias : Bool) : ScanM Token := do
  let start := (← get).mark
  skip
  let rec name : Nat → String → ScanM String
    | 0, acc => return acc
    | k + 1, acc => do if isAnchorChar (← here) then name k (← read acc) else return acc
  let text ← name (← budget) ""
  let c ← here
  if text.isEmpty || !(isBlankz c || c == some '?' || c == some ':' || c == some ',' ||
      c == some ']' || c == some '}' || c == some '%' || c == some '@' || c == some '`') then
    throw ⟨true, start, "did not find expected alphabetic or numeric character", (← get).mark⟩
  return ⟨if isAlias then .alias text else .anchor text, start, (← get).mark⟩

/-- Characters a tag's URI may hold besides letters, digits, `_` and `-`. -/
def isUriMark (c : Char) : Bool := ";/?:@&=+$,.!~*'()[]%".contains c

/-- Letters, digits, `_` and `-`: the characters of a tag handle's name and a directive's name. -/
def isWordChar : Option Char → Bool
  | some c => (c.isAlphanum && c.toNat < 0x80) || c == '_' || c == '-'
  | none => false

/-- The failure of a tag or of a `%TAG` directive. -/
def tagFail (context : Mark) (problem : String) : ScanM α := fail context problem

/-- The number of bytes a UTF-8 sequence has by its leading byte; zero for a byte that cannot
lead one. -/
def utf8Width (b : Nat) : Nat :=
  if b < 0x80 then 1 else if b / 32 == 6 then 2 else if b / 16 == 14 then 3
  else if b / 8 == 30 then 4 else 0

/-- A run of `%XX` escapes that spell one UTF-8 character, its bytes added to `acc`. -/
def uriEscapes (context : Mark) (acc : List UInt8) : ScanM (List UInt8) := do
  let rec octets : Nat → Nat → List UInt8 → ScanM (List UInt8)
    | 0, _, acc => return acc
    | k + 1, left, acc => do
      let c0 ← ahead 0
      let c1 ← ahead 1
      let c2 ← ahead 2
      match c0, c1, c2 with
      | some '%', some h1, some h2 =>
        if !(isHex (some h1) && isHex (some h2)) then
          tagFail context "did not find URI escaped octet"
        let octet := hexValue h1 * 16 + hexValue h2
        let left ← if left == 0 then do
            let w := utf8Width octet
            if w == 0 then tagFail context "found an incorrect leading UTF-8 octet"
            pure w
          else do
            if octet / 64 != 2 then tagFail context "found an incorrect trailing UTF-8 octet"
            pure left
        skip; skip; skip
        let acc := acc ++ [octet.toUInt8]
        if left == 1 then return acc else octets k (left - 1) acc
      | _, _, _ => tagFail context "did not find URI escaped octet"
  octets 5 0 acc

/-- A tag's URI: its characters (escapes decoded), after the text `head` carried over from a
handle that turned out to be none. An empty URI is an error unless something was carried over. -/
def tagUri (context : Mark) (head : String) : ScanM String := do
  let rec go : Nat → List UInt8 → ScanM (List UInt8)
    | 0, acc => return acc
    | k + 1, acc => do
      match ← here with
      | some c =>
        if c == '%' then go k (← uriEscapes context acc)
        else if isWordChar (some c) || isUriMark c then
          skip; go k (acc ++ Utf8.encode c.toString)
        else return acc
      | none => return acc
  let bytes ← go (← budget) []
  if bytes.isEmpty && head.isEmpty then tagFail context "did not find expected tag URI"
  return (head.drop 1).toString ++ Utf8.decode bytes

/-- A tag handle: `!`, then letters, digits, `_` and `-`, then a closing `!` if one follows. In a
`%TAG` directive the handle must be closed, unless it is the lone `!`. -/
def tagHandle (context : Mark) (directive : Bool) : ScanM String := do
  if (← here) != some '!' then tagFail context "did not find expected '!'"
  skip
  let rec word : Nat → String → ScanM String
    | 0, acc => return acc
    | k + 1, acc => do if isWordChar (← here) then word k (← read acc) else return acc
  let name ← word (← budget) "!"
  if (← here) == some '!' then skip; return name ++ "!"
  if directive && name != "!" then tagFail context "did not find expected '!'"
  return name

/-- A tag: `!<verbatim>`, `!handle!suffix`, `!!suffix`, `!suffix` or the lone `!`. It must be
followed by a blank, a line break, the end, or in a flow collection a `,`. -/
def scanTag : ScanM Token := do
  let start := (← get).mark
  let (handle, suffix) ← do
    if (← ahead 1) == some '<' then
      skip; skip
      let suffix ← tagUri start ""
      if (← here) != some '>' then tagFail start "did not find the expected '>'"
      skip
      pure ("", suffix)
    else
      let handle ← tagHandle start false
      if handle.length > 1 && handle.endsWith "!" then pure (handle, ← tagUri start "")
      else
        let suffix ← tagUri start handle
        if suffix.isEmpty then pure ("", "!") else pure ("!", suffix)
  let c ← here
  if !isBlankz c && ((← get).flowLevel == 0 || c != some ',') then
    tagFail start "did not find expected whitespace or line break"
  return ⟨.tag handle suffix, start, (← get).mark⟩

/-! ## Fetching tokens -/

def fetchStreamStart : ScanM Unit := do
  modify fun s => { s with indent := -1, keys := [{}], keyAllowed := true, started := true }
  let m := (← get).mark
  emit ⟨.streamStart, m, m⟩

def fetchStreamEnd : ScanM Unit := do
  let s ← get
  if s.mark.column != 0 then
    set { s with mark := { s.mark with column := 0, line := s.mark.line + 1 } }
  unrollIndent (-1) (← get).mark
  removeKey
  modify fun s => { s with keyAllowed := false, finished := true }
  let m := (← get).mark
  emit ⟨.streamEnd, m, m⟩

def fetchDocumentIndicator (kind : Kind) : ScanM Unit := do
  unrollIndent (-1) (← get).mark
  removeKey
  modify fun s => { s with keyAllowed := false }
  let start := (← get).mark
  skip; skip; skip
  emit ⟨kind, start, (← get).mark⟩

/-- Skips blanks. -/
def skipBlanks : Nat → ScanM Unit
  | 0 => pure ()
  | n + 1 => do if isBlank (← here) then skip; skipBlanks n

/-- One or two digits of a `%YAML` version number. -/
def versionNumber (context : Mark) : ScanM Nat := do
  let rec digits : Nat → Nat → Nat → ScanM (Nat × Nat)
    | 0, v, n => return (v, n)
    | k + 1, v, n => do
      match ← here with
      | some c =>
        if c.isDigit then
          if n + 1 > 2 then fail context "found extremely long version number"
          skip
          digits k (v * 10 + (c.toNat - 48)) (n + 1)
        else return (v, n)
      | none => return (v, n)
  let (v, n) ← digits 3 0 0
  if n == 0 then fail context "did not find expected version number"
  return v

/-- A directive: `%YAML major.minor` or `%TAG handle prefix`, then only blanks and a comment up
to the end of the line. -/
def fetchDirective : ScanM Unit := do
  unrollIndent (-1) (← get).mark
  removeKey
  modify fun s => { s with keyAllowed := false }
  let start := (← get).mark
  skip
  let rec word : Nat → String → ScanM String
    | 0, acc => return acc
    | k + 1, acc => do if isWordChar (← here) then word k (← read acc) else return acc
  let name ← word (← budget) ""
  if name.isEmpty then fail start "could not find expected directive name"
  if !isBlankz (← here) then fail start "found unexpected non-alphabetical character"
  let kind ← do
    if name == "YAML" then
      skipBlanks (← budget)
      let major ← versionNumber start
      if (← here) != some '.' then fail start "did not find expected digit or '.' character"
      skip
      let minor ← versionNumber start
      pure (Kind.versionDirective major minor)
    else if name == "TAG" then
      skipBlanks (← budget)
      let handle ← tagHandle start true
      if !isBlank (← here) then fail start "did not find expected whitespace"
      skipBlanks (← budget)
      let pfx ← tagUri start ""
      if !isBlankz (← here) then fail start "did not find expected whitespace or line break"
      pure (Kind.tagDirective handle pfx)
    else fail start "found unknown directive name"
  let stop := (← get).mark
  skipBlanks (← budget)
  if (← here) == some '#' then skipToBreak (← budget)
  if !isBreakz (← here) then fail start "did not find expected comment or line break"
  if isBreak (← here) then skipLine
  emit ⟨kind, start, stop⟩

def fetchFlowStart (kind : Kind) : ScanM Unit := do
  saveKey
  let s ← get
  set { s with keys := {} :: s.keys, flowLevel := s.flowLevel + 1 }
  if s.flowLevel + 1 > 10000 then
    throw ⟨true, (← topKey).mark, "exceeded max depth of 10000", (← get).mark⟩
  modify fun s => { s with keyAllowed := true }
  let start := (← get).mark
  skip
  emit ⟨kind, start, (← get).mark⟩

def fetchFlowEnd (kind : Kind) : ScanM Unit := do
  removeKey
  let s ← get
  if s.flowLevel > 0 then set { s with flowLevel := s.flowLevel - 1, keys := s.keys.drop 1 }
  modify fun s => { s with keyAllowed := false }
  let start := (← get).mark
  skip
  emit ⟨kind, start, (← get).mark⟩

def fetchFlowEntry : ScanM Unit := do
  removeKey
  modify fun s => { s with keyAllowed := true }
  let start := (← get).mark
  skip
  emit ⟨.flowEntry, start, (← get).mark⟩

def fetchBlockEntry : ScanM Unit := do
  let s ← get
  if s.flowLevel == 0 then
    if !s.keyAllowed then fail s.mark "block sequence entries are not allowed in this context"
    rollIndent s.mark.column none .blockSequenceStart s.mark
  removeKey
  modify fun s => { s with keyAllowed := true }
  let start := (← get).mark
  skip
  emit ⟨.blockEntry, start, (← get).mark⟩

def fetchKey : ScanM Unit := do
  let s ← get
  if s.flowLevel == 0 then
    if !s.keyAllowed then fail s.mark "mapping keys are not allowed in this context"
    rollIndent s.mark.column none .blockMappingStart s.mark
  removeKey
  modify fun s => { s with keyAllowed := s.flowLevel == 0 }
  let start := (← get).mark
  skip
  emit ⟨.key, start, (← get).mark⟩

def fetchValue : ScanM Unit := do
  let k ← topKey
  let (valid, k) ← match stillKey k (← get).mark with
    | .ok r => pure r
    | .error e => throw e
  setTopKey k
  if valid then
    let s ← get
    insert (some (k.number - s.taken)) ⟨.key, k.mark, k.mark⟩
    rollIndent k.mark.column (some k.number) .blockMappingStart k.mark
    setTopKey { k with possible := false }
    modify fun s => { s with keyAllowed := false }
  else
    let s ← get
    if s.flowLevel == 0 then
      if !s.keyAllowed then fail s.mark "mapping values are not allowed in this context"
      rollIndent s.mark.column none .blockMappingStart s.mark
    modify fun s => { s with keyAllowed := s.flowLevel == 0 }
  let start := (← get).mark
  skip
  emit ⟨.value, start, (← get).mark⟩

/-- Whether a plain scalar may start here. -/
def plainStart (c0 c1 : Option Char) (flow : Bool) : Bool :=
  let indicator := match c0 with
    | some c => "-?:,[]\x7b\x7d#&*!|>'\"%@`".contains c
    | none => true
  !(isBlankz c0 || indicator) ||
    (c0 == some '-' && !isBlank c1) ||
    (!flow && (c0 == some '?' || c0 == some ':') && !isBlankz c1)

/-- Scans the next token (or the tokens an indentation change produces). -/
def fetchNext : ScanM Unit := do
  if !(← get).started then fetchStreamStart
  else
    let scanMark := (← get).mark
    toNextToken (← budget)
    unrollIndent ((← get).mark.column : Int) scanMark
    let c0 ← ahead 0
    let c1 ← ahead 1
    let c2 ← ahead 2
    let c3 ← ahead 3
    let s ← get
    let flow := s.flowLevel > 0
    if c0.isNone then fetchStreamEnd
    else if s.mark.column == 0 && c0 == some '%' then fetchDirective
    else if s.mark.column == 0 && c0 == some '-' && c1 == some '-' && c2 == some '-' && isBlankz c3 then
      fetchDocumentIndicator .documentStart
    else if s.mark.column == 0 && c0 == some '.' && c1 == some '.' && c2 == some '.' && isBlankz c3 then
      fetchDocumentIndicator .documentEnd
    else if c0 == some '[' then fetchFlowStart .flowSequenceStart
    else if c0 == some '{' then fetchFlowStart .flowMappingStart
    else if c0 == some ']' then fetchFlowEnd .flowSequenceEnd
    else if c0 == some '}' then fetchFlowEnd .flowMappingEnd
    else if c0 == some ',' then fetchFlowEntry
    else if c0 == some '-' && isBlankz c1 then fetchBlockEntry
    else if c0 == some '?' && (flow || isBlankz c1) then fetchKey
    else if c0 == some ':' && (flow || isBlankz c1) then fetchValue
    else if c0 == some '*' then do saveKey; modify (fun s => { s with keyAllowed := false }); emit (← scanAnchor true)
    else if c0 == some '&' then do saveKey; modify (fun s => { s with keyAllowed := false }); emit (← scanAnchor false)
    else if c0 == some '!' then do saveKey; modify (fun s => { s with keyAllowed := false }); emit (← scanTag)
    else if c0 == some '|' && !flow then do removeKey; modify (fun s => { s with keyAllowed := true }); emit (← scanBlock true)
    else if c0 == some '>' && !flow then do removeKey; modify (fun s => { s with keyAllowed := true }); emit (← scanBlock false)
    else if c0 == some '\'' then do saveKey; modify (fun s => { s with keyAllowed := false }); emit (← scanQuoted true)
    else if c0 == some '"' then do saveKey; modify (fun s => { s with keyAllowed := false }); emit (← scanQuoted false)
    else if plainStart c0 c1 flow then do saveKey; modify (fun s => { s with keyAllowed := false }); emit (← scanPlain)
    else fail s.mark "found character that cannot start any token"

/-- Whether the scanner must look further before the next token can be handed out: fewer than
three tokens are waiting, or the next one may still become a key. -/
def needMore : ScanM Bool := do
  let s ← get
  if s.finished && !s.queue.isEmpty then return false
  if s.queue.length > 2 then
    match s.keys.findIdx? (fun k => k.possible && k.number == s.taken) with
    | none => return false
    | some i =>
      let k := s.keys.getD i {}
      match stillKey k s.mark with
      | .error e => throw e
      | .ok (valid, k') =>
        set { s with keys := s.keys.set i k' }
        return valid
  else return true

def fetchMore : Nat → ScanM Unit
  | 0 => pure ()
  | n + 1 => do
    if ← needMore then
      fetchNext
      fetchMore n

/-- The next token, scanning as far as needed. -/
def peek : ScanM Token := do
  fetchMore ((← get).rest.length * 4 + 16)
  match (← get).queue with
  | t :: _ => return t
  | [] => let m := (← get).mark; return ⟨.streamEnd, m, m⟩

/-- Takes the next token. -/
def take : ScanM Unit := modify fun s =>
  match s.queue with
  | _ :: q => { s with queue := q, taken := s.taken + 1 }
  | [] => s

end MeshCall.Yaml
