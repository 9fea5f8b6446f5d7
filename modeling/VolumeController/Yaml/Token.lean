import VolumeController.Yaml.Scalar
/-!
The tokens of a YAML text. Besides the signs and scalars that are written, there are tokens for what
indentation and colons say: where a block collection begins and ends, and where a key begins. A key is
known only by the colon after it, so its place is kept while the colon may still come, and the tokens of
the key and of its collection are then put in there.
-/

namespace VolumeController.Yaml

/-- How a scalar is written, as far as its value depends on it. -/
inductive Style where
  | plain
  | quoted
  | literal
  | folded
  deriving DecidableEq

/-- A token. -/
inductive Token where
  | version (major minor : Nat)
  /-- The declaration of what a tag handle stands for. -/
  | handle (handle expansion : String)
  | documentStart
  | documentEnd
  | blockSequence
  | blockMapping
  | blockEnd
  | flowSequence
  | flowSequenceEnd
  | flowMapping
  | flowMappingEnd
  | blockEntry
  | flowEntry
  | key
  | value
  | alias (name : String)
  | anchor (name : String)
  | tag (handle suffix : String)
  | scalar (style : Style) (text : String)
  deriving DecidableEq

/-! Tags and directives. -/

/-- The signs that a tag may hold besides the characters of names; between angle brackets also the signs
of a list. -/
def isTagChar (verbatim : Bool) (c : Char) : Bool :=
  isNameChar c || ";/?:@&=+$.!~*'()".toList.contains c || (verbatim && ",[]".toList.contains c)

/-- The number of octets that must follow the first octet of a character. -/
def octetsAfter? (octet : Nat) : Option Nat :=
  if octet < 0x80 then some 0
  else if 0xC0 ≤ octet && octet < 0xE0 then some 1
  else if 0xE0 ≤ octet && octet < 0xF0 then some 2
  else if 0xF0 ≤ octet && octet < 0xF8 then some 3
  else none

/-- The characters of a tag, and how much of the text they take. An escaped octet is kept as the
character of its number; `owed` octets must still come. -/
def tagText (verbatim : Bool) : (owed : Nat) → List Char → Option (List Char × Nat)
  | owed, '%' :: a :: b :: rest => do
    let octet ← Text.hexNumber? [a, b]
    let owed ←
      if owed = 0 then octetsAfter? octet
      else if 0x80 ≤ octet && octet < 0xC0 then some (owed - 1) else none
    let (text, width) ← tagText verbatim owed rest
    return (.ofNat octet :: text, width + 3)
  | owed, c :: rest =>
    if owed ≠ 0 || c == '%' then none
    else if isTagChar verbatim c then
      (tagText verbatim 0 rest).map fun (text, width) => (c :: text, width + 1)
    else some ([], 0)
  | owed, [] => if owed = 0 then some ([], 0) else none

/-- A tag handle: an exclamation mark, perhaps a name, and perhaps another exclamation mark. -/
def handleText (cur : Cursor) : Option (List Char × Cursor) :=
  match cur.rest with
  | '!' :: _ =>
    let (name, cur) := (cur.advance 1).takeWhile isNameChar
    match cur.rest with
    | '!' :: _ => some ('!' :: name ++ ['!'], cur.advance 1)
    | _ => some ('!' :: name, cur)
  | _ => none

/-- The handle and suffix of a tag: verbatim between angle brackets, a handle with a suffix, or a suffix
behind one exclamation mark. That mark alone is a tag of its own. -/
def tagParts (cur : Cursor) : Option (List Char × List Char × Cursor) := do
  match cur.rest with
  | '!' :: '<' :: rest =>
    let (text, width) ← tagText true 0 rest
    let cur := cur.advance (2 + width)
    if text.isEmpty || cur.rest.head? != some '>' then none
    return ([], text, cur.advance 1)
  | _ =>
    let (handle, cur) ← handleText cur
    let (text, width) ← tagText false 0 cur.rest
    let cur := cur.advance width
    if 1 < handle.length && handle.getLast? == some '!' then
      if text.isEmpty then none
      return (handle, text, cur)
    match handle.drop 1 ++ text with
    | [] => return ([], ['!'], cur)
    | suffix => return (['!'], suffix, cur)

/-- A tag, which ends at a blank or between brackets at a comma. -/
def tagToken (inFlow : Bool) (cur : Cursor) : Option (Token × Cursor) := do
  let (handle, suffix, cur) ← tagParts cur
  if endsWord cur.rest || (inFlow && cur.rest.head? == some ',') then
    return (.tag (.ofList handle) (.ofList suffix), cur)
  else none

/-- A number of at most nine digits. -/
def versionNumber (cur : Cursor) : Option (Nat × Cursor) :=
  let (digits, cur) := cur.takeWhile (·.isDigit)
  if digits.isEmpty || 9 < digits.length then none
  else some (digits.foldl (fun n c => n * 10 + (c.toNat - 48)) 0, cur)

/-- The version of a directive: two numbers with a point between them. -/
def versionToken (cur : Cursor) : Option (Token × Cursor) := do
  let (major, cur) ← versionNumber cur
  if cur.rest.head? != some '.' then none
  let (minor, cur) ← versionNumber (cur.advance 1)
  return (.version major minor, cur)

/-- The handle of a directive and what it stands for. -/
def handleToken (cur : Cursor) : Option (Token × Cursor) := do
  let (handle, cur) ← handleText cur
  if handle.length ≠ 1 && handle.getLast? != some '!' then none
  if !cur.rest.head?.any isBlank then none
  let cur := cur.skipBlanks
  let (text, width) ← tagText true 0 cur.rest
  let cur := cur.advance width
  if text.isEmpty || !endsWord cur.rest then none
  return (.handle (.ofList handle) (.ofList text), cur)

/-- A directive, from its percent sign to the end of its line. -/
def directiveToken (cur : Cursor) : Option (Token × Cursor) := do
  let (name, cur) := (cur.advance 1).takeWhile isNameChar
  if !endsWord cur.rest then none
  let read ←
    if name == "YAML".toList then some versionToken
    else if name == "TAG".toList then some handleToken
    else none
  let (token, cur) ← read cur.skipBlanks
  let cur ← cur.finishLine?
  return (token, cur)

/-- The name after the sign of an anchor or alias. -/
def anchorName (cur : Cursor) : Option (String × Cursor) :=
  let (name, cur) := (cur.advance 1).takeWhile isNameChar
  if name.isEmpty then none
  else if endsWord cur.rest || cur.rest.head?.any ("?:,]\x7d%@\x60".toList.contains ·) then
    some (.ofList name, cur)
  else none

/-! Keys and collections. -/

/-- A place where a key may have begun. -/
structure PossibleKey where
  /-- Whether nothing but a key may stand there. -/
  required : Bool
  /-- The number of tokens before it. -/
  position : Nat
  line : Nat
  column : Nat

/-- How far a text has been read. -/
structure Reading where
  cursor : Cursor
  /-- A number above that of the characters of the text. -/
  bound : Nat
  tokens : Array Token := #[]
  /-- One more than the column of the innermost open block collection; zero outside all of them. -/
  margin : Nat := 0
  /-- The margins outside the innermost open block collection. -/
  margins : List Nat := []
  /-- The possible key of the innermost bracket, or of the text outside all of them. -/
  possible : Option PossibleKey := none
  /-- The possible keys outside each open bracket. -/
  outer : List (Option PossibleKey) := []
  /-- Whether a key may begin here. -/
  keyAllowed : Bool := true

namespace Reading

/-- Whether a bracket is open. -/
def inFlow (r : Reading) : Bool := !r.outer.isEmpty

/-- Adds a token. -/
def push (r : Reading) (token : Token) : Reading := { r with tokens := r.tokens.push token }

/-- Adds a sign of some characters as a token. -/
def sign (r : Reading) (token : Token) (width : Nat) : Reading :=
  { r.push token with cursor := r.cursor.advance width }

/-- Forgets the possible key, unless it has to be one. -/
def dropKey (r : Reading) : Option Reading :=
  if r.possible.any (·.required) then none else some { r with possible := none }

/-- Notes that a key may begin here. -/
def noteKey (r : Reading) : Option Reading :=
  if r.keyAllowed then do
    let here := r.cursor
    let required := !r.inFlow && r.margin == here.column + 1
    let r ← r.dropKey
    return { r with possible := some ⟨required, r.tokens.size, here.line, here.column⟩ }
  else some r

/-- Whether a possible key is too long to be one: a key stands on one line and takes at most 1024
characters. -/
def isStale (cur : Cursor) (key : PossibleKey) : Bool :=
  key.line < cur.line || key.column + 1024 < cur.column

/-- Forgets the possible keys that have become too long. -/
def dropStale (r : Reading) : Option Reading :=
  let stale (key : Option PossibleKey) : Bool := key.any (isStale r.cursor)
  let blocked (key : Option PossibleKey) : Bool := key.any fun key => isStale r.cursor key && key.required
  if (r.possible :: r.outer).any blocked then none
  else
    let keep (key : Option PossibleKey) : Option PossibleKey := if stale key then none else key
    some { r with possible := keep r.possible, outer := r.outer.map keep }

/-- Opens a block collection at a column, unless one is open there or right of it. Its token goes before
the token of the given number. -/
def openBlock (r : Reading) (column position : Nat) (token : Token) : Reading :=
  if r.inFlow || column < r.margin then r
  else { r with
    tokens := r.tokens.insertIdxIfInBounds position token
    margin := column + 1
    margins := r.margin :: r.margins }

/-- How many open block collections end right of a margin, and the margins that are left. -/
def closing (margin : Nat) : (current : Nat) → (outer : List Nat) → Nat × Nat × List Nat
  | current, [] => if margin < current then (1, 0, []) else (0, current, [])
  | current, next :: rest =>
    if margin < current then
      let (count, left) := closing margin next rest
      (count + 1, left)
    else (0, current, next :: rest)

/-- Closes the open block collections right of a margin, outside brackets. -/
def closeTo (r : Reading) (margin : Nat) : Reading :=
  if r.inFlow then r
  else
    let (count, current, outer) := closing margin r.margin r.margins
    { r with
      tokens := count.repeat (·.push .blockEnd) r.tokens
      margin := current
      margins := outer }

/-- Passes over blanks, comments and line breaks to the next token. A new line outside brackets may begin
with a key; where a key may begin, tabs may not. A byte order mark at the left edge of a line takes a
column and is nothing else. -/
def skipTo (inFlow : Bool) : (inComment keyAllowed : Bool) → (line column : Nat) → List Char →
    Bool × Cursor
  | _, keyAllowed, line, column, [] => (keyAllowed, ⟨[], line, column⟩)
  | inComment, keyAllowed, line, column, c :: rest =>
    if isBreak c then skipTo inFlow false (keyAllowed || !inFlow) (line + 1) 0 rest
    else if inComment || c == ' ' || (c == '\t' && (inFlow || !keyAllowed)) ||
        (c == '\uFEFF' && column == 0) then
      skipTo inFlow inComment keyAllowed line (column + 1) rest
    else if c == '#' then skipTo inFlow true keyAllowed line (column + 1) rest
    else (keyAllowed, ⟨c :: rest, line, column⟩)

/-- Goes to the next token and settles what its place decides. -/
def settle (r : Reading) : Option Reading := do
  let cur := r.cursor
  let (keyAllowed, cur) := skipTo r.inFlow false r.keyAllowed cur.line cur.column cur.rest
  let r ← { r with keyAllowed, cursor := cur }.dropStale
  return r.closeTo (cur.column + 1)

/-! The tokens by their first characters. -/

/-- A directive or the edge of a document, which end everything that is open. -/
def edge (r : Reading) (read : Cursor → Option (Token × Cursor)) : Option Reading := do
  let r ← (r.closeTo 0).dropKey
  let (token, cur) ← read r.cursor
  return { r.push token with keyAllowed := false, cursor := cur }

/-- An opening bracket. -/
def openFlow (r : Reading) (token : Token) : Option Reading := do
  let r ← r.noteKey
  return { r.sign token 1 with possible := none, outer := r.possible :: r.outer, keyAllowed := true }

/-- A closing bracket. -/
def closeFlow (r : Reading) (token : Token) : Option Reading := do
  let r ← r.dropKey
  let r := match r.outer with
    | [] => r
    | possible :: outer => { r with possible, outer }
  return { r.sign token 1 with keyAllowed := false }

/-- A comma between brackets. -/
def flowEntry (r : Reading) : Option Reading := do
  let r ← r.dropKey
  return { r.sign .flowEntry 1 with keyAllowed := true }

/-- Opens a collection for an entry or key of a block, which may stand only where a key may begin. -/
def beginEntry (r : Reading) (token : Token) : Option Reading :=
  if r.inFlow then some r
  else if r.keyAllowed then some (r.openBlock r.cursor.column r.tokens.size token)
  else none

/-- The dash of an entry. -/
def blockEntry (r : Reading) : Option Reading := do
  let r ← r.beginEntry .blockSequence
  let r ← r.dropKey
  return { r.sign .blockEntry 1 with keyAllowed := true }

/-- The question mark of a key. -/
def explicitKey (r : Reading) : Option Reading := do
  let r ← r.beginEntry .blockMapping
  let r ← r.dropKey
  return { r.sign .key 1 with keyAllowed := !r.inFlow }

/-- The colon of a value. What could have been a key before it is one. -/
def value (r : Reading) : Option Reading :=
  match r.possible with
  | some key =>
    let r := { r with tokens := r.tokens.insertIdxIfInBounds key.position .key, possible := none }
    let r := r.openBlock key.column key.position .blockMapping
    some { r.sign .value 1 with keyAllowed := false }
  | none => do
    let r ← r.beginEntry .blockMapping
    return { r.sign .value 1 with keyAllowed := !r.inFlow }

/-- A token that a key may begin with. -/
def keyPart (r : Reading) (read : Cursor → Option (Token × Cursor)) : Option Reading := do
  let r ← r.noteKey
  let (token, cur) ← read r.cursor
  return { r.push token with keyAllowed := false, cursor := cur }

/-- A plain scalar. A key may begin after it if it passed over a line break. -/
def plain (r : Reading) : Option Reading := do
  let r ← r.noteKey
  let s ← plainScalar r.bound r.inFlow r.margin r.cursor
  return { r.push (.scalar .plain (.ofList s.text)) with keyAllowed := s.broken, cursor := s.next }

/-- A block scalar. -/
def block (r : Reading) (literal : Bool) : Option Reading := do
  let r ← r.dropKey
  let (text, cur) ← blockScalar r.bound literal r.margin r.cursor
  let style := if literal then Style.literal else .folded
  return { r.push (.scalar style (.ofList text)) with keyAllowed := true, cursor := cur }

/-- Reads the name of an anchor or alias as a token. -/
def named (make : String → Token) (cur : Cursor) : Option (Token × Cursor) :=
  (anchorName cur).map fun (name, cur) => (make name, cur)

/-- Reads the three signs of the edge of a document as a token. -/
def marker (token : Token) (cur : Cursor) : Option (Token × Cursor) :=
  some (token, cur.advance 3)

/-- Reads a quoted scalar as a token. -/
def quoted (bound : Nat) (double : Bool) (cur : Cursor) : Option (Token × Cursor) :=
  (quotedScalar bound double cur).map fun (text, cur) => (.scalar .quoted (.ofList text), cur)

/-- The signs that no plain scalar begins with, apart from those of entries, keys and values. -/
def isReserved (c : Char) : Bool :=
  ",[]\x7b\x7d#&*!|>'\"%@\x60".toList.contains c

/-- Reads the token that begins with a character. -/
def token (r : Reading) (c : Char) (rest : List Char) : Option Reading :=
  let alone := endsWord rest
  if r.cursor.column == 0 && c == '%' then r.edge directiveToken
  else if r.cursor.atMarker '-' then r.edge (marker .documentStart)
  else if r.cursor.atMarker '.' then r.edge (marker .documentEnd)
  else if c == '[' then r.openFlow .flowSequence
  else if c == '{' then r.openFlow .flowMapping
  else if c == ']' then r.closeFlow .flowSequenceEnd
  else if c == '}' then r.closeFlow .flowMappingEnd
  else if c == ',' then r.flowEntry
  else if c == '-' && alone then r.blockEntry
  else if c == '?' && (r.inFlow || alone) then r.explicitKey
  else if c == ':' && (r.inFlow || alone) then r.value
  else if c == '*' then r.keyPart (named .alias)
  else if c == '&' then r.keyPart (named .anchor)
  else if c == '!' then r.keyPart (tagToken r.inFlow)
  else if c == '|' && !r.inFlow then r.block true
  else if c == '>' && !r.inFlow then r.block false
  else if c == '\'' then r.keyPart (quoted r.bound false)
  else if c == '"' then r.keyPart (quoted r.bound true)
  else if isBlank c || isReserved c then none
  else r.plain

/-- Reads the tokens up to the end of the text. -/
def finish (r : Reading) : Nat → Option (Array Token)
  | 0 => none
  | fuel + 1 => do
    let r ← r.settle
    match r.cursor.rest with
    | [] => (r.closeTo 0).dropKey.map (·.tokens)
    | c :: rest =>
      let r ← r.token c rest
      r.finish fuel

end Reading

/-- The tokens of a text; none if it breaks the rules of tokens. Every token takes a character, so the
length of the text bounds their number. -/
def Token.ofText (text : List Char) : Option (List Token) :=
  if text.all isAllowed then
    let bound := text.length + 1
    let start : Reading := { cursor := .start text, bound }
    (start.finish bound).map (·.toList)
  else none

end VolumeController.Yaml
