import MeshCall.Text.Utf8
/-!
# Comma-separated values

List-valued flags are written as one record of comma-separated values. Reading takes the first
record of a text: empty lines before it are skipped, a field may be quoted (a doubled quote
stands for a quote, and a quoted field may run over line breaks), and a quote anywhere else is an
error. Writing quotes exactly the fields that need it: those holding a comma, a quote or a line
break, and those starting with white space.
-/

namespace MeshCall.Csv

/-- Why a record cannot be read; lines and columns count from one, columns in bytes. -/
inductive Problem where
  | bareQuote
  | extraneousQuote
  | endOfInput
  deriving DecidableEq, Repr

structure ReadError where
  startLine : Nat
  line : Nat
  column : Nat
  problem : Problem
  deriving DecidableEq, Repr

def ReadError.message (e : ReadError) : String :=
  match e.problem with
  | .endOfInput => "EOF"
  | p =>
    let what := match p with
      | .bareQuote => "bare \" in non-quoted-field"
      | _ => "extraneous or missing \" in quoted-field"
    if e.startLine != e.line then
      "record on line " ++ toString e.startLine ++ "; parse error on line " ++ toString e.line ++
        ", column " ++ toString e.column ++ ": " ++ what
    else "parse error on line " ++ toString e.line ++ ", column " ++ toString e.column ++ ": " ++ what

/-- Splits bytes into lines, each keeping its `\n`; `\r\n` becomes `\n`, and a last line without
a break loses a final `\r`. -/
def lines (bs : List UInt8) : List (List UInt8) :=
  let rec go : Nat → List UInt8 → List UInt8 → List (List UInt8)
    | 0, _, _ => []
    | _ + 1, acc, [] =>
      if acc.isEmpty then []
      else
        let acc := if acc.getLast? == some 13 then acc.dropLast else acc
        [acc]
    | n + 1, acc, b :: rest =>
      if b == 10 then
        let acc := if acc.getLast? == some 13 then acc.dropLast else acc
        (acc ++ [10]) :: go n [] rest
      else go n (acc ++ [b]) rest
  go (bs.length + 2) [] bs

/-- The length of a line's break: one when it ends in `\n`. -/
def breakLength (l : List UInt8) : Nat := if l.getLast? == some 10 then 1 else 0

/-- Reads the fields of a record starting at `line`, which is line number `lineNo`. -/
def fields (startLine : Nat) : Nat → List UInt8 → Nat → Nat → List (List UInt8) → List String →
    Except ReadError (List String)
  | 0, _, _, _, _, acc => .ok acc
  | fuel + 1, line, lineNo, col, more, acc =>
    match line with
    | 34 :: body =>
      -- a quoted field
      quoted fuel body lineNo (col + 1) col more [] acc
    | _ =>
      let stop := line.takeWhile (· != 44)
      let isLast := stop.length == line.length
      let field := if isLast then line.take (line.length - breakLength line) else stop
      match field.findIdx? (· == 34) with
      | some j => .error ⟨startLine, lineNo, col + j, .bareQuote⟩
      | none =>
        let acc := acc ++ [Utf8.decode field]
        if isLast then .ok acc
        else fields startLine fuel (line.drop (stop.length + 1)) lineNo (col + stop.length + 1) more acc
where
  quoted : Nat → List UInt8 → Nat → Nat → Nat → List (List UInt8) → List UInt8 → List String →
      Except ReadError (List String)
    | 0, _, _, _, _, _, _, acc => .ok acc
    | fuel + 1, line, lineNo, col, fieldCol, more, field, acc =>
      match line.findIdx? (· == 34) with
      | some i =>
        let field := field ++ line.take i
        let line := line.drop (i + 1)
        let col := col + i + 1
        match line with
        | 34 :: rest => quoted fuel rest lineNo (col + 1) fieldCol more (field ++ [34]) acc
        | 44 :: rest =>
          fields startLine fuel rest lineNo (col + 1) more (acc ++ [Utf8.decode field])
        | _ =>
          if breakLength line == line.length then .ok (acc ++ [Utf8.decode field])
          else .error ⟨startLine, lineNo, col - 1, .extraneousQuote⟩
      | none =>
        if !line.isEmpty then
          let field := field ++ line
          match more with
          | next :: more =>
            quoted fuel next (lineNo + 1) 1 fieldCol more field acc
          | [] => .error ⟨startLine, lineNo, col + line.length, .extraneousQuote⟩
        else .error ⟨startLine, lineNo, col, .extraneousQuote⟩

/-- The first record of a text. -/
def readRecord (s : String) : Except ReadError (List String) :=
  let ls := lines (Utf8.encode s)
  let numbered := ls.zipIdx.map fun (l, i) => (l, i + 1)
  match numbered.dropWhile (fun (l, _) => l.length == breakLength l) with
  | [] => .error ⟨0, 0, 0, .endOfInput⟩
  | (l, n) :: more =>
    fields n (Utf8.encode s).length.succ l n 1 (more.map (·.1)) []

/-- Whether a field must be quoted. -/
def needsQuotes (f : String) : Bool :=
  if f.isEmpty then false
  else if f == "\\." then true
  else if f.any (fun c => c == '\n' || c == '\r' || c == '"' || c == ',') then true
  else match f.toList with
    | c :: _ => c == ' ' || c == '\t' || c == '\n' || c == '\x0b' || c == '\x0c' || c == '\r' ||
        c.toNat == 0x85 || c.toNat == 0xA0 || c.toNat == 0x1680 ||
        (0x2000 ≤ c.toNat && c.toNat ≤ 0x200A) || c.toNat == 0x2028 || c.toNat == 0x2029 ||
        c.toNat == 0x202F || c.toNat == 0x205F || c.toNat == 0x3000
    | [] => false

/-- One record, without its final line break. -/
def writeRecord (fs : List String) : String :=
  ",".intercalate (fs.map fun f =>
    if needsQuotes f then "\"" ++ f.replace "\"" "\"\"" ++ "\"" else f)

end MeshCall.Csv
