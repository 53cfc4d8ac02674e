import MeshCall.Roster.View
import MeshCall.Text.Width
/-!
# The terminal roster

Presents a call as text. Membership and connection changes are printed as they happen, one line
each behind a `│ ` gutter; the full roster, one row per participant with the local one first and
the rest by name, is rendered on demand as a table whose columns are padded to the widest cell
by display width, followed by a blank line and the control bar.

Printed text passes through the colour-markup filter of the printer, which, when a text holds
the closing tag `</>`, drops every markup tag such as `<red>` or `</>`. A name in a printed line
is styled first: one more pass of that filter, and, on each of its lines that holds a reset
code's `[0m`, every colour code `ESC[…m` dropped. Table cells are printed as they are; a cell's
width leaves out its colour codes (when the line holds `[0m`) and counts a complete hyperlink
`ESC ]8;;target ESC \ text ESC ]8;; ESC \` (either end may be the bell instead) as its text.
-/

namespace MeshCall

/-- One participant as the roster shows it. -/
structure Tile where
  name : String
  audio : Bool
  speaking : Bool := false
  state : SessionState := .new
  isLocal : Bool := false
  deriving DecidableEq, Repr, Inhabited

/-- The roster: tiles by participant id, and the control buttons. -/
structure Terminal where
  localId : String := ""
  tiles : List (String × Tile) := []
  buttons : Buttons := {}
  deriving Repr, Inhabited

namespace Markup

def isTagChar (c : Char) : Bool :=
  c.isAlpha || c.isDigit || c == '_' || c == '=' || c == ',' || c == ';'

/-- The length of a markup tag at the front: `<`, an optional `/`, tag characters, `>`. -/
def tagLength : List Char → Option Nat
  | '<' :: rest =>
    let (slash, body) := match rest with
      | '/' :: b => (1, b)
      | b => (0, b)
    let name := body.takeWhile isTagChar
    match body.drop name.length with
    | '>' :: _ => some (2 + slash + name.length)
    | _ => none
  | _ => none

theorem tagLength_pos {cs : List Char} {n : Nat} (h : tagLength cs = some n) : 0 < n := by
  unfold tagLength at h
  split at h
  · split at h
    · simp only at h
      split at h
      · simp only [Option.some.injEq] at h
        omega
      · simp at h
  · simp at h

/-- Drops every markup tag, scanning left to right. -/
def dropTags : List Char → List Char
  | [] => []
  | c :: cs =>
    match h : tagLength (c :: cs) with
    | some n =>
      have _hn := tagLength_pos h
      dropTags ((c :: cs).drop n)
    | none => c :: dropTags cs
  termination_by cs => cs.length
  decreasing_by
    all_goals simp only [List.length_drop, List.length_cons]
    all_goals omega

/-- One pass of the filter: tags are dropped only when the text holds `</>`. -/
def clearOnce (s : String) : String :=
  if (s.splitOn "</>").length > 1 then String.ofList (dropTags s.toList) else s

/-- The filter as the printer applies it, several times over. -/
def clear (s : String) : String := clearOnce (clearOnce (clearOnce (clearOnce (clearOnce s))))

def isCodeChar (c : Char) : Bool := c.isDigit || c == ';' || c == '?'

/-- The length of a colour code at the front: escape, `[`, digits, `;` or `?`, then `m`. -/
def codeLength : List Char → Option Nat
  | '\x1b' :: '[' :: rest =>
    let body := rest.takeWhile isCodeChar
    if !body.isEmpty && (rest.drop body.length).head? == some 'm' then some (body.length + 3)
    else none
  | _ => none

/-- Drops every colour code, scanning left to right. -/
def dropCodes : List Char → List Char
  | [] => []
  | c :: cs =>
    match codeLength (c :: cs) with
    | some n => dropCodes (cs.drop (n - 1))
    | none => c :: dropCodes cs
  termination_by cs => cs.length
  decreasing_by
    all_goals simp only [List.length_drop, List.length_cons]
    all_goals omega

/-- Colour codes are dropped only from a text that holds a reset code's `[0m`. -/
def clearCodes (s : String) : String :=
  if (s.splitOn "[0m").length > 1 then String.ofList (dropCodes s.toList) else s

/-- The place and length of the first end of a hyperlink sequence: the bell, or escape and
backslash. -/
def findTerminator : List Char → Option (Nat × Nat)
  | [] => none
  | '\x07' :: _ => some (0, 1)
  | '\x1b' :: '\\' :: _ => some (0, 2)
  | _ :: rest => (findTerminator rest).map fun (i, n) => (i + 1, n)

/-- The place and length of the first sequence that closes a hyperlink: escape, `]8;;` and an
end. -/
def findClose : List Char → Option (Nat × Nat)
  | [] => none
  | '\x1b' :: ']' :: '8' :: ';' :: ';' :: '\x07' :: _ => some (0, 6)
  | '\x1b' :: ']' :: '8' :: ';' :: ';' :: '\x1b' :: '\\' :: _ => some (0, 7)
  | _ :: rest => (findClose rest).map fun (i, n) => (i + 1, n)

/-- A hyperlink at the front, `ESC ]8;;` target end, text, `ESC ]8;;` end: its text, and how many
characters it takes after its first five. The target ends at the first end after the opening,
and the text at the first closing sequence after that. -/
def link? : List Char → Option (List Char × Nat)
  | '\x1b' :: ']' :: '8' :: ';' :: ';' :: rest =>
    match findTerminator rest with
    | none => none
    | some (i, n) =>
      let body := rest.drop (i + n)
      (findClose body).map fun (j, m) => (body.take j, i + n + j + m)
  | _ => none

/-- Replaces every hyperlink by its text, scanning left to right. -/
def dropLinks : List Char → List Char
  | [] => []
  | c :: cs =>
    match link? (c :: cs) with
    | some (text, k) => text ++ dropLinks (cs.drop (k + 4))
    | none => c :: dropLinks cs
  termination_by cs => cs.length
  decreasing_by
    all_goals simp only [List.length_drop, List.length_cons]
    all_goals omega

/-- Text as a styled print of it reads with colours off: one pass of the tag filter, then each
line cleared of colour codes. -/
def styled (s : String) : String :=
  "\n".intercalate ((clearOnce s).splitOn "\n" |>.map clearCodes)

end Markup

def micLabel (enabled : Bool) : String := if enabled then "mic on" else "muted"

/-- The control bar under the roster. -/
def controlBar (b : Buttons) : String :=
  (if b.muted then "[m] unmute" else "[m] mute") ++ "   " ++
  (if b.cameraOff then "[c] camera on" else "[c] camera off") ++ "   " ++
  (if b.sharing then "[s] stop sharing" else "[s] share screen") ++ "   [l] list   [q] leave"

/-- The columns a line of a cell takes: each hyperlink counts as its text, then colour codes are
cleared (so a code that only the removal of a link brings together stays, and a link that only
the clearing of a code would complete is not one). -/
def lineWidth (l : String) : Nat :=
  Width.ofString (Markup.clearCodes (String.ofList (Markup.dropLinks l.toList)))

/-- A table: each cell split into its lines, each column as wide as its widest line, and each
row as tall as its tallest cell. A row prints line by line, every cell's line (empty below the
cell's last) padded to its column's width and separated by ` | `, each line ending in a
newline. -/
def renderTable (rows : List (List String)) : String :=
  let cells := rows.map fun r => r.map fun c => c.splitOn "\n"
  let columns := (rows.map List.length).foldl max 0
  let widths := (List.range columns).map fun i =>
    (cells.map fun r => ((r.getD i []).map lineWidth).foldl max 0).foldl max 0
  let rowText (r : List (List String)) : String :=
    let height := (r.map List.length).foldl max 1
    String.join ((List.range height).map fun k =>
      " | ".intercalate ((r.zip widths).map fun (cell, w) =>
        let l := cell.getD k ""
        l ++ String.ofList (List.replicate (w - lineWidth l) ' ')) ++ "\n")
  String.join (cells.map rowText)

namespace Terminal

def tile? (t : Terminal) (id : String) : Option Tile := (t.tiles.find? (·.1 == id)).map (·.2)

/-- Sets the tile of `id`, adding it when it is new. -/
def put (t : Terminal) (id : String) (x : Tile) : Terminal :=
  if t.tiles.any (·.1 == id) then
    { t with tiles := t.tiles.map fun p => if p.1 == id then (id, x) else p }
  else { t with tiles := t.tiles ++ [(id, x)] }

/-- A printed line, behind the gutter. -/
def say (s : String) : String := Markup.clear ("│ " ++ s) ++ "\n"

/-- Applies one change; the answer also holds the text printed. -/
def apply (t : Terminal) : ViewCall → Terminal × String
  | .showLocal id name audio =>
    ({ t.put id { name := name, audio := audio, state := .connected, isLocal := true } with
        localId := id },
      say ("you joined as " ++ Markup.styled name ++ " (" ++ id ++ ")"))
  | .addTile id name audio =>
    match t.tile? id with
    | some cur => (t.put id { cur with name := name, audio := audio, state := .new }, "")
    | none =>
      (t.put id { name := name, audio := audio }, say (Markup.styled name ++ " is joining"))
  | .removeTile id =>
    match t.tile? id with
    | some cur =>
      if cur.isLocal then (t, "")
      else
        ({ t with tiles := t.tiles.filter (·.1 != id) }, say (Markup.styled cur.name ++ " left"))
    | none => (t, "")
  | .setName id name =>
    match t.tile? id with
    | some cur => if cur.isLocal then (t, "") else (t.put id { cur with name := name }, "")
    | none => (t, "")
  | .setPeerState id state =>
    match t.tile? id with
    | some cur =>
      if cur.state = state then (t, "")
      else
        let out := match state with
          | .connected => say (Markup.styled cur.name ++ " connected")
          | .failed => say (Markup.styled cur.name ++ " connection failed, retrying")
          | _ => ""
        (t.put id { cur with state := state }, out)
    | none => (t, "")
  | .setMic id enabled =>
    match t.tile? id with
    | some cur =>
      if cur.audio == enabled then (t, "")
      else
        (t.put id { cur with audio := enabled, speaking := cur.speaking && enabled },
          say (Markup.styled cur.name ++ " " ++ micLabel enabled))
    | none => (t, "")
  | .setSpeaking id speaking =>
    match t.tile? id with
    | some cur => (t.put id { cur with speaking := speaking }, "")
    | none => (t, "")
  | .setButtons b => ({ t with buttons := b }, "")
  | .clear => ({ t with tiles := [], localId := "" }, say "call ended")

/-- Roster order: the local participant first, then by name, then by id. -/
def before (a b : String × Tile) : Bool :=
  if a.2.isLocal != b.2.isLocal then a.2.isLocal
  else if a.2.name != b.2.name then decide (a.2.name < b.2.name)
  else decide (a.1 < b.1)

def stateLabel (x : Tile) : String := if x.isLocal then "" else x.state.name

/-- The roster table and the control bar. -/
def render (t : Terminal) : String :=
  let sorted := t.tiles.mergeSort fun a b => !before b a
  let rows := sorted.map fun (id, x) =>
    [if x.isLocal then x.name ++ " (you)" else x.name, id, micLabel x.audio,
      if x.speaking then "●" else "", stateLabel x]
  renderTable (["Participant", "ID", "Mic", "Speaking", "Connection"] :: rows) ++ "\n" ++
    controlBar t.buttons

/-- Writes the rendered roster as printed text. -/
def print (t : Terminal) : String := Markup.clear t.render ++ "\n"

end Terminal

end MeshCall
