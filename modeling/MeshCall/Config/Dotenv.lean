import MeshCall.Text.Space
import MeshCall.Text.Utf8
/-!
# Environment files

An environment file assigns one variable a line: `KEY=value`, `KEY: value` or
`export KEY=value`. A line ends at a line feed, a carriage return, or the two together. Blank
lines and lines starting with `#` say nothing, a line's own white space at either end is dropped,
and a byte order mark at the very start of the file is ignored.

* A key is letters, digits, `_` and `.`; it is followed by `=` (blanks around it allowed) or by
  `:` and at least one blank.
* A value is quoted in single or double quotes, or bare up to a `#` or the end of the line; a
  `#` after the value starts a comment. A quoted value opened and not closed on its line goes on
  over the following lines up to the line holding the closing quote.
* Between double quotes, `\n` and `\r` stand for a line feed and a carriage return, and a
  backslash before any other character but `$` stands for that character.
* Outside single quotes, `$NAME` and `${NAME}` (a name of capitals, digits and `_`) are
  replaced by the value of the variable: the environment's when it sets the variable, else
  the value the file gave it on an earlier line, else nothing. A `$` with no name after it
  stays, and `\$` stands for a plain `$`.

A line that fits none of this is an error, and so is a quote that is never closed.
-/

namespace MeshCall.Dotenv

/-- The blanks of the line grammar: tab, line feed, form feed, carriage return and space. -/
def isBlank (c : Char) : Bool :=
  c == '\t' || c == '\n' || c == '\x0c' || c == '\r' || c == ' '

/-- The characters of a key. -/
def isKeyChar (c : Char) : Bool := (c.isAlphanum && c.toNat < 0x80) || c == '_' || c == '.'

/-- The characters of a variable name in a value. -/
def isNameChar (c : Char) : Bool := c.isUpper || c.isDigit || c == '_'

/-- Whether a line may end after a value with these characters: blanks, then either nothing or
a comment, which runs to the end without a line break. -/
def closes (cs : List Char) : Bool :=
  match cs.dropWhile isBlank with
  | [] => true
  | '#' :: rest => !rest.contains '\n'
  | _ => false

/-- A value in quotes `q` at the front of `t`: it reaches to the last quote after which the line
can close. -/
def quotedValue (q : Char) (t : List Char) : Option (List Char) :=
  match t with
  | c :: rest =>
    if c != q then none
    else
      let ends := (List.range rest.length).filter fun j =>
        rest[j]? == some q && closes (rest.drop (j + 1))
      ends.getLast?.map fun j => t.take (j + 2)
  | [] => none

/-- A bare value at the front of `t`: everything up to a `#` or a line break, if the line can
close there. -/
def bareValue (t : List Char) : Option (List Char) :=
  let v := t.takeWhile fun c => c != '#' && c != '\n'
  if !v.isEmpty && closes (t.drop v.length) then some v else none

/-- The value that the rest `t` of a line holds, if the rest fits: a single-quoted value first,
then a double-quoted one, then a bare one, and else no value at all (empty) when the line closes
at once. -/
def valueAt (t : List Char) : Option (List Char) :=
  quotedValue '\'' t <|> quotedValue '"' t <|> bareValue t <|> (if closes t then some [] else none)

/-- The value after a `:`: one blank at least, taken one at a time until a value fits. -/
def afterColon : List Char → Option (List Char)
  | c :: rest => if isBlank c then valueAt rest <|> afterColon rest else none
  | [] => none

/-- The key of a line starting at `cs`, and its value. -/
def keyed (cs : List Char) : Option (List Char × List Char) :=
  let key := cs.takeWhile isKeyChar
  if key.isEmpty then none
  else
    let rest := cs.drop key.length
    let value := match rest.dropWhile isBlank with
      | '=' :: after => valueAt (after.dropWhile isBlank)
      | _ => match rest with
        | ':' :: after => afterColon after
        | _ => none
    value.map (key, ·)

/-- The key and the raw value of a whole line, if it fits the grammar; an `export` in front
counts when a key follows it. -/
def assignment (line : List Char) : Option (List Char × List Char) :=
  let line := line.dropWhile isBlank
  let exported := match line with
    | 'e' :: 'x' :: 'p' :: 'o' :: 'r' :: 't' :: c :: rest =>
      if isBlank c then keyed (rest.dropWhile isBlank) else none
    | _ => none
  exported <|> keyed line

/-- A backslash before any character but `$` stands for that character. -/
def unescape : List Char → List Char
  | '\\' :: c :: rest => if c == '$' then '\\' :: unescape (c :: rest) else c :: unescape rest
  | c :: rest => c :: unescape rest
  | [] => []
termination_by cs => cs.length

/-- A variable reference after its `$`: an optional `{`, the name, an optional `}`; the text it
covers, the name, and what follows. -/
def reference (cs : List Char) : List Char × String × List Char :=
  let opening := if cs.head? == some '{' then ['{'] else []
  let cs := cs.drop opening.length
  let name := cs.takeWhile isNameChar
  let cs := cs.drop name.length
  let closing := if cs.head? == some '}' then ['}'] else []
  (opening ++ name ++ closing, String.ofList name, cs.drop closing.length)

/-- A reference ends no later than the text it is read from. -/
theorem reference_length (cs : List Char) : (reference cs).2.2.length ≤ cs.length := by
  simp only [reference, List.length_drop]
  omega

/-- Replaces the variable references of a value by what `lookup` gives for their names. -/
def expand (lookup : String → String) : List Char → List Char
  | '\\' :: '$' :: rest =>
    '$' :: (reference rest).1 ++ expand lookup (reference rest).2.2
  | '$' :: rest =>
    let (covered, name, _) := reference rest
    (if name.isEmpty then '$' :: covered else (lookup name).toList) ++
      expand lookup (reference rest).2.2
  | c :: rest => c :: expand lookup rest
  | [] => []
termination_by cs => cs.length
decreasing_by
  all_goals have := reference_length rest
  all_goals simp only [List.length_cons]
  all_goals omega

/-- The variables a file has set so far, in the order they were first set. -/
abbrev Env := List (String × String)

/-- Sets a variable, keeping its place if it was set before. -/
def Env.set (env : Env) (key value : String) : Env :=
  if env.any (·.1 == key) then env.map fun (k, v) => if k == key then (k, value) else (k, v)
  else env ++ [(key, value)]

def Env.get? (env : Env) (key : String) : Option String := (env.find? (·.1 == key)).map (·.2)

/-- What a variable reference stands for: the environment's value when the environment sets the
variable at all, even to nothing; else the file's. -/
def resolve (outside : String → Option String) (env : Env) (name : String) : String :=
  match outside name with
  | some v => v
  | none => (env.get? name).getD ""

/-- The value of an assignment, given its raw text and the variables set so far. -/
def valueOf (outside : String → Option String) (env : Env) (raw : String) : String × Bool × Bool :=
  let v := Space.trim raw
  let cs := v.toList
  let double := 2 ≤ cs.length && cs.head? == some '"' && cs.getLast? == some '"'
  let single := 2 ≤ cs.length && cs.head? == some '\'' && cs.getLast? == some '\''
  let v := if double || single then String.ofList ((cs.drop 1).dropLast) else v
  let v := if double then
      String.ofList (unescape ((v.replace "\\n" "\n").replace "\\r" "\r").toList)
    else v
  let v := if single then v else String.ofList (expand (resolve outside env) v.toList)
  (v, single, double)

/-- The fault of a line that fits no assignment. -/
def misfit (env : Env) (line : String) : String :=
  let st := Space.trim line
  let unset := if st.startsWith "export" then
      match st.splitOn " " with
      | _ :: rest@(_ :: _) => (env.get? (" ".intercalate rest)).isNone
      | _ => false
    else false
  if unset then "line `" ++ st ++ "` has an unset variable"
  else "line `" ++ line ++ "` doesn't match format"

/-- Reads one assembled line into the variables. -/
def readLine (outside : String → Option String) (env : Env) (line : String) : Except String Env :=
  match assignment line.toList with
  | none => .error (misfit env line)
  | some (key, raw) =>
    let (v, _, _) := valueOf outside env (String.ofList raw)
    .ok (env.set (String.ofList key) v)

/-- The lines of a text, last character first in `cur` for the one being read: a line ends at a
line feed, a carriage return, or a carriage return and a line feed; no empty line follows a final
break. -/
def splitLines : List Char → List Char → List String
  | [], cur => if cur.isEmpty then [] else [String.ofList cur.reverse]
  | '\r' :: '\n' :: rest, cur => String.ofList cur.reverse :: splitLines rest []
  | '\r' :: rest, cur => String.ofList cur.reverse :: splitLines rest []
  | '\n' :: rest, cur => String.ofList cur.reverse :: splitLines rest []
  | c :: rest, cur => splitLines rest (c :: cur)

def lines (text : String) : List String := splitLines text.toList []

/-- The quote a trimmed line leaves open, if any: its value after the first `=` (or else the first
`:`) starts with a quote and the line holds no closing one. A closing quote is the last quote of
the value, not counting the opening one, unless the byte standing that many bytes into the value
is a backslash. -/
def openQuote (line : String) : Option Char :=
  let cs := line.toList
  let idx := match cs.idxOf? '=' with
    | some i => some i
    | none => cs.idxOf? ':'
  match idx with
  | some i =>
    if 0 < i && i + 1 < cs.length then
      let v := (Space.trim (String.ofList (cs.drop (i + 1)))).toList
      match v with
      | q :: rest =>
        if q == '"' || q == '\'' then
          let t := Utf8.encode (Space.trim (String.ofList rest))
          let quote := q.toNat.toUInt8
          match (List.range t.length).filter (fun j => t[j]? == some quote) |>.getLast? with
          | some j => if (Utf8.encode (String.ofList v))[j]? != some 0x5C then none else some q
          | none => some q
        else none
      | [] => none
    else none
  | none => none

/-- Whether a line closes a quote `q` left open: its last `q` is not right after a backslash. -/
def closesQuote (q : Char) (l : String) : Bool :=
  let cs := l.toList
  match (List.range cs.length).filter (fun j => cs[j]? == some q) |>.getLast? with
  | some j => !(0 < j && cs[j - 1]? == some '\\')
  | none => false

/-- Takes following lines onto a line whose quote `q` is open, up to the line that closes it. The
assembled line, the lines left, and whether the quote was closed. -/
def gather (q : Char) (line : String) : List String → String × List String × Bool
  | [] => (line, [], false)
  | l :: rest =>
    if closesQuote q l then (line ++ "\n" ++ l, rest, true) else gather q (line ++ "\n" ++ l) rest

/-- Gathering hands on no more lines than it was given. -/
theorem gather_length (q : Char) (line : String) (rest : List String) :
    (gather q line rest).2.1.length ≤ rest.length := by
  induction rest generalizing line with
  | nil => simp [gather]
  | cons l rest ih =>
    simp only [gather]
    split
    · simp
    · exact Nat.le_succ_of_le (ih _)

/-- A text without the byte order mark it starts with, if any. -/
def dropMark (text : String) : String :=
  if text.front == '\uFEFF' then (text.drop 1).toString else text

/-- Reads the lines, one assignment each, into the variables. Each step reads at least one line,
so `fuel` as large as the number of lines never runs out. -/
def readLines (outside : String → Option String) (env : Env) :
    Nat → List String → Except String Env
  | _, [] => .ok env
  | 0, _ :: _ => .ok env
  | fuel + 1, raw :: rest =>
    let line := Space.trim raw
    if line.isEmpty || line.startsWith "#" then readLines outside env fuel rest
    else
      match openQuote line with
      | some q =>
        let (whole, more, closed) := gather q line rest
        if !closed then .error "missing quotes"
        else (readLine outside env whole).bind fun env => readLines outside env fuel more
      | none => (readLine outside env line).bind fun env => readLines outside env fuel rest

/-- The variables an environment file sets, in the order they were first set; `outside` gives
the environment's own variables. -/
def read (outside : String → Option String) (text : String) : Except String Env :=
  let ls := lines (dropMark text)
  readLines outside [] ls.length ls

end MeshCall.Dotenv
