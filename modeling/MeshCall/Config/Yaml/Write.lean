import MeshCall.Config.Yaml.Decode
/-!
# Writing YAML

A flat mapping written as YAML, one `key: value` a line, the way a YAML library that keeps to
the 1.1 reading of plain words writes it. Truth values are `true` or `false`; a text takes the
first style that can hold it:

* a text holding a line feed is a literal block (`|`), with an indentation indicator when it
  starts with a space or a break, `-` when it does not end in a break and `+` when it ends in two;
  when a block cannot hold it, it is double-quoted;
* a text that would read back as something else when plain (a number, a truth value, null, a
  moment, one of the old truth words such as `yes` or `off`, or a sexagesimal number) is
  double-quoted;
* any other text is plain when it can be, else single-quoted, else double-quoted.

What a style can hold is read off the text (`Reach`): spaces or breaks at either end, a space
next to a break, tabs, indicator characters, and characters outside the printable set. A
double-quoted text escapes what is not printable, the breaks, the byte-order mark, the quote
and the backslash. Lines are never folded, and a block's lines are indented by four spaces.
A document whose last text keeps its final breaks ends with `...`.
-/

namespace MeshCall.Yaml

/-- Characters a YAML writer puts into its output as they are: the line feed, printable ASCII,
and the rest of the basic plane up to U+FFFD except surrogates and the byte-order mark. -/
def isPrintable (c : Char) : Bool :=
  let v := c.toNat
  v == 0x0A || (0x20 ≤ v && v ≤ 0x7E) || (0xA0 ≤ v && v ≤ 0xD7FF) ||
    (0xE000 ≤ v && v ≤ 0xFFFD && v != 0xFEFF)

def isLineBreak (c : Char) : Bool := isBreak (some c)

/-- What a survey of a text finds. -/
structure Survey where
  indicators : Bool := false
  lineBreaks : Bool := false
  special : Bool := false
  tabs : Bool := false
  leadingSpace : Bool := false
  leadingBreak : Bool := false
  trailingSpace : Bool := false
  trailingBreak : Bool := false
  breakSpace : Bool := false
  spaceBreak : Bool := false
  deriving Repr

/-- Characters that start a block indicator anywhere at the front of a text. -/
def frontIndicators : List Char := "#,[]\x7b\x7d&*!|>'\"%@\x60".toList

/-- Surveys the characters of a text, `first` telling whether they start it, with what came
before them: whether that was blank (or a break or NUL), a space, a break. -/
def surveyFrom (first blankBefore spaceBefore breakBefore : Bool) (acc : Survey) :
    List Char → Survey
  | [] => acc
  | c :: rest =>
    let blankAfter := match rest with
      | [] => true
      | d :: _ => d == ' ' || d == '\t'
    let indicator :=
      if first then
        frontIndicators.contains c || ((c == '?' || c == ':' || c == '-') && blankAfter)
      else (c == ':' && blankAfter) || (c == '#' && blankBefore)
    let acc := if indicator then { acc with indicators := true } else acc
    let acc :=
      if c == '\t' then { acc with tabs := true }
      else if !isPrintable c then { acc with special := true }
      else acc
    let last := rest.isEmpty
    if c == ' ' then
      surveyFrom false true true false
        { acc with leadingSpace := acc.leadingSpace || first
                   trailingSpace := acc.trailingSpace || last
                   breakSpace := acc.breakSpace || breakBefore } rest
    else if isLineBreak c then
      surveyFrom false true false true
        { acc with lineBreaks := true
                   leadingBreak := acc.leadingBreak || first
                   trailingBreak := acc.trailingBreak || last
                   spaceBreak := acc.spaceBreak || spaceBefore } rest
    else surveyFrom false (c == '\t' || c == '\x00') false false acc rest

/-- The survey of a text; a text starting `---` or `...` starts with an indicator. -/
def survey (s : String) : Survey :=
  let acc : Survey := { indicators := s.startsWith "---" || s.startsWith "..." }
  surveyFrom true true false false acc s.toList

/-- Which styles can hold a text. -/
structure Reach where
  plain : Bool
  singleQuoted : Bool
  block : Bool
  deriving Repr

def reach (s : String) : Reach :=
  if s.isEmpty then ⟨true, true, false⟩
  else
    let v := survey s
    let ends := v.leadingSpace || v.leadingBreak || v.trailingSpace || v.trailingBreak
    ⟨!(ends || v.breakSpace || v.spaceBreak || v.tabs || v.special || v.lineBreaks ||
        v.indicators),
      !(v.breakSpace || v.spaceBreak || v.tabs || v.special),
      !(v.trailingSpace || v.spaceBreak || v.special)⟩

/-- The truth words of YAML 1.1 that 1.2 reads as text. -/
def isOldTruth (s : String) : Bool :=
  ["y", "Y", "yes", "Yes", "YES", "on", "On", "ON", "n", "N", "no", "No", "NO", "off", "Off",
    "OFF"].contains s

/-- The groups `:d` or `:dd` (the first digit 0 to 5) of a sexagesimal number, at least one,
then an optional fraction of digits and underscores. -/
def sexagesimalTail (fuel : Nat) (seen : Bool) : List Char → Bool
  | [] => seen
  | '.' :: rest => seen && rest.all fun c => c.isDigit || c == '_'
  | ':' :: rest =>
    let ds := rest.takeWhile Char.isDigit
    let ok := ds.length == 1 ||
      (ds.length == 2 && (ds.head?.map fun d => decide (d ≤ '5')).getD false)
    match fuel with
    | 0 => false
    | fuel + 1 => ok && sexagesimalTail fuel true (rest.drop ds.length)
  | _ => false

/-- A sexagesimal number such as `1:20` or `-3:25:45.5`, which YAML 1.1 reads as a float. -/
def isSexagesimal (s : String) : Bool :=
  let cs := match s.toList with
    | '+' :: r | '-' :: r => r
    | r => r
  match cs with
  | d :: rest =>
    d.isDigit &&
      let tail := rest.dropWhile fun c => c.isDigit || c == '_'
      sexagesimalTail tail.length false tail
  | [] => false

/-- Whether a text written plain reads back as the same text. -/
def readsAsText (s : String) : Bool :=
  (resolvePlain s).1 == "!!str" && !isSexagesimal s && !isOldTruth s

/-- The style a text is written in after a key. -/
def styleFor (s : String) : Style :=
  let r := reach s
  if s.contains '\n' then (if r.block then .literal else .doubleQuoted)
  else if readsAsText s then
    if r.plain then .plain else if r.singleQuoted then .singleQuoted else .doubleQuoted
  else .doubleQuoted

/-- Upper-case hex digits of `v`, padded with zeros to `width`. -/
def upperHex (width v : Nat) : String :=
  let ds := (Nat.toDigits 16 v).map Char.toUpper
  String.ofList (List.replicate (width - ds.length) '0' ++ ds)

/-- The escape of a character inside double quotes. -/
def quotedEscape (c : Char) : String :=
  match c.toNat with
  | 0x00 => "\\0"
  | 0x07 => "\\a"
  | 0x08 => "\\b"
  | 0x09 => "\\t"
  | 0x0A => "\\n"
  | 0x0B => "\\v"
  | 0x0C => "\\f"
  | 0x0D => "\\r"
  | 0x1B => "\\e"
  | 0x22 => "\\\""
  | 0x5C => "\\\\"
  | 0x85 => "\\N"
  | 0xA0 => "\\_"
  | 0x2028 => "\\L"
  | 0x2029 => "\\P"
  | v =>
    if v ≤ 0xFF then "\\x" ++ upperHex 2 v
    else if v ≤ 0xFFFF then "\\u" ++ upperHex 4 v
    else "\\U" ++ upperHex 8 v

/-- Whether a character is escaped inside double quotes. -/
def escapedInQuotes (c : Char) : Bool :=
  !isPrintable c || c.toNat == 0xFEFF || isLineBreak c || c == '"' || c == '\\'

def doubleQuoted (s : String) : String :=
  "\"" ++ String.join (s.toList.map fun c =>
    if escapedInQuotes c then quotedEscape c else c.toString) ++ "\""

/-- The indentation of a value's continuation lines. -/
def indent : String := "    "

/-- The body of a single-quoted text, `breaks` telling whether a break came last: a quote is
doubled, a line feed is written twice, and a line after a break is indented. -/
def singleBody : Bool → List Char → String → String
  | breaks, [], acc => if breaks then acc ++ indent else acc
  | breaks, c :: rest, acc =>
    if isLineBreak c then
      singleBody true rest ((if !breaks && c == '\n' then acc.push '\n' else acc).push c)
    else
      let acc := if breaks then acc ++ indent else acc
      singleBody false rest (if c == '\'' then acc ++ "''" else acc.push c)

def singleQuoted (s : String) : String := "'" ++ singleBody false s.toList "" ++ "'"

/-- The header of a literal block: its indentation indicator, its chomping indicator, and
whether the text keeps its final breaks (so that the document needs an explicit end). -/
def blockHeader (cs : List Char) : String × Bool :=
  let indentHint := match cs with
    | c :: _ => if c == ' ' || isLineBreak c then toString indent.length else ""
    | [] => ""
  match cs.reverse with
  | [] => (indentHint ++ "-", false)
  | l :: before =>
    if !isLineBreak l then (indentHint ++ "-", false)
    else match before with
      | [] => (indentHint ++ "+", true)
      | p :: _ => if isLineBreak p then (indentHint ++ "+", true) else (indentHint, false)

/-- The lines of a literal block: each line not empty is indented. -/
def blockBody : Bool → List Char → String → String
  | _, [], acc => acc
  | breaks, c :: rest, acc =>
    if isLineBreak c then blockBody true rest (acc.push c)
    else blockBody false rest ((if breaks then acc ++ indent else acc).push c)

/-- A text as it follows `key:`, and whether it keeps its final breaks. -/
def textAfterKey (s : String) : String × Bool :=
  match styleFor s with
  | .plain => (" " ++ s, false)
  | .singleQuoted => (" " ++ singleQuoted s, false)
  | .literal =>
    let (header, keeps) := blockHeader s.toList
    (" |" ++ header ++ "\n" ++ blockBody true s.toList "", keeps)
  | _ => (" " ++ doubleQuoted s, false)

/-- A value a flat mapping can hold. -/
inductive Leaf where
  | truth (b : Bool)
  | text (s : String)
  deriving Repr

/-- A key as written: plain when it can be, else quoted. -/
def keyWritten (k : String) : String :=
  if readsAsText k && (reach k).plain then k
  else if !k.isEmpty && readsAsText k && (reach k).singleQuoted && !(survey k).lineBreaks then
    singleQuoted k
  else doubleQuoted k

/-- Whether written text ends a line. -/
def endsLine (s : String) : Bool :=
  match s.back? with
  | some c => isLineBreak c
  | none => true

/-- A flat mapping as a YAML document. -/
def mappingText (pairs : List (String × Leaf)) : String :=
  let (body, keeps) := pairs.foldl (fun (acc : String × Bool) (k, v) =>
    let (text, keeps) := match v with
      | .truth b => (if b then " true" else " false", false)
      | .text s => textAfterKey s
    let start := if endsLine acc.1 then acc.1 else acc.1.push '\n'
    (start ++ keyWritten k ++ ":" ++ text, keeps)) ("", false)
  let body := if endsLine body then body else body.push '\n'
  if keeps then body ++ "...\n" else body

end MeshCall.Yaml
