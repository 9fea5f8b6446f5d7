import VolumeController.Text.Hexadecimal
import VolumeController.Yaml.Cursor
/-!
The texts of scalars: plain, between quotes, and in blocks of indented lines. Lines that run on are
folded: one line break between two of them is a space, and of several the first is dropped.

Indentation is given as a margin: one more than the column of the innermost open block collection, zero
outside all of them. What is left of the margin does not belong to the collection. The words and lines of
a scalar are fewer than any bound above the number of characters that are left.
-/

namespace VolumeController.Yaml

/-- What stands between two words: blanks before the first line break, and the line breaks. -/
structure Gap where
  blanks : List Char
  breaks : List Char

namespace Gap

/-- The text that a gap stands for. -/
def fold (gap : Gap) : List Char :=
  match gap.breaks with
  | [] => gap.blanks
  | ['\n'] => [' ']
  | '\n' :: more => more
  | breaks => breaks

/-- Passes over blanks and line breaks. Blanks after a line break belong to no text, but a tab among
them that stands left of the margin is refused. -/
def take (margin : Nat) (broken : Bool) (line column : Nat) : List Char → Option (Gap × Cursor)
  | [] => some (⟨[], []⟩, ⟨[], line, column⟩)
  | c :: rest =>
    if isBreak c then
      (take margin true (line + 1) 0 rest).map fun (gap, cur) =>
        ({ gap with breaks := c :: gap.breaks }, cur)
    else if isBlank c then
      if broken && c == '\t' && column < margin then none
      else (take margin broken line (column + 1) rest).map fun (gap, cur) =>
        (if broken then gap else { gap with blanks := c :: gap.blanks }, cur)
    else some (⟨[], []⟩, ⟨c :: rest, line, column⟩)

end Gap

/-! Plain scalars. -/

/-- The signs that end a plain scalar inside brackets. -/
def isFlowSign (c : Char) : Bool := c == ',' || c == '[' || c == ']' || c == '{' || c == '}'

/-- One word of a plain scalar. A colon ends it before a blank; inside brackets the signs of brackets
end it too, and a colon right before one of them, or before a question mark, is refused. -/
def plainWord (inFlow : Bool) : List Char → Option (List Char)
  | [] => some []
  | c :: rest =>
    if isBlank c || isBreak c then some []
    else if inFlow && c == ':' && rest.head?.any (fun d => isFlowSign d || d == '?') then none
    else if (c == ':' && endsWord rest) || (inFlow && isFlowSign c) then some []
    else (plainWord inFlow rest).map (c :: ·)

/-- A scalar as far as it was read. -/
structure Scanned where
  text : List Char
  /-- Whether a line break was passed after its last word. -/
  broken : Bool
  next : Cursor

/-- The words of a plain scalar after a gap. It ends at a comment, at the edge of a document, left of
the margin, and where a word cannot begin. -/
def plainWords (inFlow : Bool) (margin : Nat) (gap : Gap) (cur : Cursor) : Nat → Option Scanned
  | 0 => none
  | fuel + 1 => do
    let stop : Scanned := ⟨[], !gap.breaks.isEmpty, cur⟩
    if cur.atDocumentMarker || cur.rest.head? == some '#' then return stop
    let word ← plainWord inFlow cur.rest
    if word.isEmpty then return stop
    let cur := cur.advance word.length
    let (next, cur) ← Gap.take margin false cur.line cur.column cur.rest
    if !inFlow && cur.column < margin then
      return ⟨gap.fold ++ word, !next.breaks.isEmpty, cur⟩
    let more ← plainWords inFlow margin next cur fuel
    return { more with text := gap.fold ++ word ++ more.text }

/-- A plain scalar of fewer words than the bound. -/
def plainScalar (bound : Nat) (inFlow : Bool) (margin : Nat) (cur : Cursor) : Option Scanned :=
  plainWords inFlow margin ⟨[], []⟩ cur bound

/-! Quoted scalars. -/

/-- The character that a one-letter escape stands for. -/
def escaped? (c : Char) : Option Char :=
  match c with
  | '0' => some '\x00'
  | 'a' => some '\x07'
  | 'b' => some '\x08'
  | 't' => some '\t'
  | '\t' => some '\t'
  | 'n' => some '\n'
  | 'v' => some '\x0b'
  | 'f' => some '\x0c'
  | 'r' => some '\r'
  | 'e' => some '\x1b'
  | ' ' => some ' '
  | '"' => some '"'
  | '/' => some '/'
  | '\\' => some '\\'
  | 'N' => some '\x85'
  | '_' => some '\xa0'
  | 'L' => some '\u2028'
  | 'P' => some '\u2029'
  | _ => none

/-- The number of hexadecimal digits after the letter of a code point escape. -/
def escapeWidth? (c : Char) : Option Nat :=
  match c with
  | 'x' => some 2
  | 'u' => some 4
  | 'U' => some 8
  | _ => none

/-- Reads an escape after its backslash: the character, and how much of the text it takes. -/
def escape? : List Char → Option (Char × Nat)
  | [] => none
  | c :: rest =>
    match escapeWidth? c with
    | none => (escaped? c).map (·, 1)
    | some width => do
      if rest.length < width then none
      let code ← Text.hexNumber? (rest.take width)
      if code.isValidChar then return (.ofNat code, width + 1) else none

/-- One word between quotes, up to a blank, a line break, the closing quote, or an escaped line break,
which is passed over and reported. A quote inside single quotes is written twice. -/
def quotedWord (double : Bool) (line column : Nat) (text : List Char) :
    Option (List Char × Bool × Cursor) :=
  match text with
  | [] => some ([], false, ⟨[], line, column⟩)
  | c :: rest =>
    if isBlank c || isBreak c || (c == '"' && double) then some ([], false, ⟨c :: rest, line, column⟩)
    else if c == '\\' && double then
      if rest.head?.any isBreak then some ([], true, ⟨rest.tail, line + 1, 0⟩)
      else do
        let (char, width) ← escape? rest
        let (word, broken, cur) ← quotedWord double line (column + 1 + width) (rest.drop width)
        return (char :: word, broken, cur)
    else if c == '\'' && !double then
      if rest.head? == some '\'' then
        (quotedWord double line (column + 2) rest.tail).map fun (word, next) => (c :: word, next)
      else some ([], false, ⟨c :: rest, line, column⟩)
    else (quotedWord double line (column + 1) rest).map fun (word, next) => (c :: word, next)
termination_by text.length
decreasing_by all_goals (simp only [List.length_drop, List.length_tail, List.length_cons]; omega)

/-- The words between quotes, up to and with the closing quote. No document may begin or end in them. -/
def quotedWords (double : Bool) (cur : Cursor) : Nat → Option (List Char × Cursor)
  | 0 => none
  | fuel + 1 => do
    if cur.atDocumentMarker || cur.rest.isEmpty then none
    let (word, broken, cur) ← quotedWord double cur.line cur.column cur.rest
    if cur.rest.head? == some (if double then '"' else '\'') then return (word, cur.advance 1)
    let (gap, cur) ← Gap.take 0 broken cur.line cur.column cur.rest
    let (more, cur) ← quotedWords double cur fuel
    return (word ++ (if broken then gap.breaks else gap.fold) ++ more, cur)

/-- A quoted scalar of fewer words than the bound, from its opening quote on. -/
def quotedScalar (bound : Nat) (double : Bool) (cur : Cursor) : Option (List Char × Cursor) :=
  quotedWords double (cur.advance 1) bound

/-! Block scalars. -/

/-- What becomes of the line breaks at the end of a block scalar. -/
inductive Chomping where
  | strip
  | clip
  | keep

/-- A line of a block scalar without its indentation, its line break, and the empty lines after it. -/
structure BlockLine where
  text : List Char
  ending : List Char
  after : List Char

namespace BlockLine

/-- Whether the line is indented further than the scalar. -/
def isIndented (line : BlockLine) : Bool := line.text.head?.any isBlank

/-- The lines as one text, without the end of the last line. Line breaks of a folded scalar are folded
between lines that are not indented further. -/
def join (literal : Bool) : List BlockLine → List Char
  | [] => []
  | [line] => line.text
  | line :: next :: rest =>
    let folds := !literal && line.ending == ['\n'] && !line.isIndented && !next.isIndented
    let between :=
      if folds then (if line.after.isEmpty then [' '] else line.after) else line.ending ++ line.after
    line.text ++ between ++ join literal (next :: rest)

/-- What is kept of the end of the last line. -/
def tail (chomping : Chomping) : List BlockLine → List Char
  | [] => []
  | [line] => match chomping with
    | .strip => []
    | .clip => line.ending
    | .keep => line.ending ++ line.after
  | _ :: rest => tail chomping rest

end BlockLine

/-- Empty lines and the indentation of the line after them, with the deepest column met. Indentation
ends at the given column, or at the first other character if none is given; a tab in it is refused. -/
def blockBreaks (indent : Option Nat) (deepest line column : Nat) :
    List Char → Option (List Char × Nat × Cursor)
  | [] => some ([], max deepest column, ⟨[], line, column⟩)
  | c :: rest =>
    let inside := indent.all fun indent => column < indent
    if inside && c == ' ' then blockBreaks indent deepest line (column + 1) rest
    else if inside && c == '\t' then none
    else if isBreak c then
      (blockBreaks indent (max deepest column) (line + 1) 0 rest).map fun (breaks, next) =>
        (c :: breaks, next)
    else some ([], max deepest column, ⟨c :: rest, line, column⟩)

/-- The lines of a block scalar: those that reach its indentation. -/
def blockLines (indent : Nat) (cur : Cursor) : Nat → Option (List BlockLine × Cursor)
  | 0 => none
  | fuel + 1 => do
    if cur.column != indent || cur.rest.isEmpty then return ([], cur)
    let (text, edge) := cur.takeWhile fun c => !isBreak c
    let next := edge.nextLine
    let (after, _, cur) ← blockBreaks (some indent) 0 next.line next.column next.rest
    let (lines, cur) ← blockLines indent cur fuel
    return (⟨text, edge.rest.take 1, after⟩ :: lines, cur)

/-- The sign of what becomes of the last line breaks, if it is here. -/
def chompingSign (cur : Cursor) : Chomping × Cursor :=
  match cur.rest with
  | '+' :: _ => (.keep, cur.advance 1)
  | '-' :: _ => (.strip, cur.advance 1)
  | _ => (.clip, cur)

/-- The digit of an indentation, if it is here. It is not zero. -/
def indentSign (cur : Cursor) : Option (Option Nat × Cursor) :=
  match cur.rest with
  | [] => some (none, cur)
  | c :: _ =>
    if !c.isDigit then some (none, cur)
    else if c == '0' then none
    else some (some (c.toNat - 48), cur.advance 1)

/-- The signs after the one that opens a block scalar, in either order. -/
def blockHeader (cur : Cursor) : Option (Chomping × Option Nat × Cursor) := do
  let (indent, before) ← indentSign cur
  let (chomping, after) := chompingSign before
  if indent.isSome || after.column == before.column then return (chomping, indent, after)
  let (indent, after) ← indentSign after
  return (chomping, indent, after)

/-- A block scalar of fewer lines than the bound, from the sign that opens it on. Its indentation is
given, or that of its first line and deeper than the collection around it. -/
def blockScalar (bound : Nat) (literal : Bool) (margin : Nat) (cur : Cursor) :
    Option (List Char × Cursor) := do
  let (chomping, given, cur) ← blockHeader (cur.advance 1)
  let cur ← cur.finishLine?
  let indent := given.map (margin - 1 + ·)
  let (breaks, deepest, cur) ← blockBreaks indent 0 cur.line cur.column cur.rest
  let indent := indent.getD (max 1 (max deepest margin))
  let (lines, cur) ← blockLines indent cur bound
  match lines, chomping with
  | [], .keep => return (breaks, cur)
  | [], _ => return ([], cur)
  | lines, chomping =>
    return (breaks ++ BlockLine.join literal lines ++ BlockLine.tail chomping lines, cur)

end VolumeController.Yaml
