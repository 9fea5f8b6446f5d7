/-!
Places in a YAML text. A text is taken in once, with every character checked and every line break made
one character; a cursor then stands before a character of a known line and column.
-/

namespace VolumeController.Yaml

/-- The characters that a text may hold. -/
def isAllowed (c : Char) : Bool :=
  let n := c.toNat
  n == 0x09 || n == 0x0A || n == 0x0D || (0x20 ≤ n && n ≤ 0x7E) || n == 0x85 ||
  (0xA0 ≤ n && n ≤ 0xFFFD) || 0x10000 ≤ n

/-- Makes a carriage return with a line feed, either alone, and a next-line character one line feed.
The line and paragraph separators stay as they are. -/
def unifyBreaks : List Char → List Char
  | [] => []
  | '\r' :: '\n' :: rest => '\n' :: unifyBreaks rest
  | c :: rest => (if c = '\r' ∨ c = '\x85' then '\n' else c) :: unifyBreaks rest

/-- Space and tab. -/
def isBlank (c : Char) : Bool := c == ' ' || c == '\t'

/-- The characters that end a line. -/
def isBreak (c : Char) : Bool := c == '\n' || c == '\u2028' || c == '\u2029'

/-- Letters, digits, and the two signs that a name may hold besides. -/
def isNameChar (c : Char) : Bool :=
  c.isAlphanum || c == '_' || c == '-'

/-- Whether a word cannot go on here: at a blank, at a line break, or at the end. -/
def endsWord : List Char → Bool
  | [] => true
  | c :: _ => isBlank c || isBreak c

/-- A place in a text: what follows, and the line and column that it begins at. -/
structure Cursor where
  rest : List Char
  line : Nat
  column : Nat
  deriving Inhabited

namespace Cursor

/-- The beginning of a text. -/
def start (text : List Char) : Cursor := ⟨unifyBreaks text, 0, 0⟩

/-- The place some characters further on the same line. -/
def advance (cur : Cursor) (count : Nat) : Cursor :=
  ⟨cur.rest.drop count, cur.line, cur.column + count⟩

/-- The place after a line break, if there is one. -/
def nextLine (cur : Cursor) : Cursor :=
  match cur.rest with
  | c :: rest => if isBreak c then ⟨rest, cur.line + 1, 0⟩ else cur
  | [] => cur

/-- The characters before the first one outside a class, and the place of that one. -/
def takeWhile (cur : Cursor) (p : Char → Bool) : List Char × Cursor :=
  let taken := cur.rest.takeWhile p
  (taken, cur.advance taken.length)

/-- The place after blanks. -/
def skipBlanks (cur : Cursor) : Cursor := (cur.takeWhile isBlank).2

/-- The place after a comment, if one begins here. -/
def skipComment (cur : Cursor) : Cursor :=
  match cur.rest with
  | '#' :: _ => (cur.takeWhile fun c => !isBreak c).2
  | _ => cur

/-- The next line, if nothing but blanks and a comment is left of this one. -/
def finishLine? (cur : Cursor) : Option Cursor :=
  let cur := cur.skipBlanks.skipComment
  match cur.rest with
  | [] => some cur
  | c :: _ => if isBreak c then some cur.nextLine else none

/-- Whether three of a sign stand at the left edge as a word of their own. -/
def atMarker (cur : Cursor) (sign : Char) : Bool :=
  match cur.rest with
  | a :: b :: c :: rest => cur.column == 0 && a == sign && b == sign && c == sign && endsWord rest
  | _ => false

/-- Whether a document begins or ends here. -/
def atDocumentMarker (cur : Cursor) : Bool := cur.atMarker '-' || cur.atMarker '.'

end Cursor

end VolumeController.Yaml
