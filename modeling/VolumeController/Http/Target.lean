/-!
Request targets: the path that a target names. A target is a path, an absolute address with a scheme and
an authority before the path, an authority alone, or an asterisk; a query and a fragment may follow a
path and are not part of it.
-/

namespace VolumeController.Http.Target

/-- The characters of a scheme. -/
def isSchemeChar (c : Char) : Bool :=
  c.isAlphanum || "+-.~".toList.contains c

/-- The signs that may stand in an authority, besides letters and digits. -/
def authoritySigns : List Char := "!$&'()*+,-.:;=@[]_~%".toList

/-- What has been seen of an authority. What stands before an at sign and in brackets is free of the rules
for ports and escapes. -/
structure Authority where
  /-- The colons that count. -/
  colons : Nat := 0
  opened : Bool := false
  closed : Bool := false
  /-- Whether there is a percent sign that counts. -/
  escaped : Bool := false
  /-- Whether the last character was an at sign. -/
  atSign : Bool := false

namespace Authority

/-- Takes the next character, if it may stand there. -/
def next (a : Authority) (c : Char) : Option Authority :=
  let a := { a with atSign := false }
  if c = ':' then (if a.colons < 8 then some { a with colons := a.colons + 1 } else none)
  else if c = '[' then (if a.escaped || a.opened then none else some { a with opened := true })
  else if c = ']' then
    if a.opened && !a.closed then some { a with closed := true, colons := 0, escaped := false } else none
  else if c = '@' then some { a with atSign := true, colons := 0, escaped := false }
  else if c = '%' then some { a with escaped := true }
  else if c.isAlphanum || authoritySigns.contains c then some a
  else none

/-- Whether an authority may end here: every bracket is closed, and there is at most one port. -/
def isComplete (a : Authority) : Bool :=
  a.opened == a.closed && a.colons ≤ 1 && !a.atSign && !a.escaped

end Authority

/-- Whether a text is an authority. -/
def isAuthority (text : List Char) : Bool :=
  (text.foldlM Authority.next {}).any Authority.isComplete

/-- The characters that a path may hold. -/
def isPathChar (c : Char) : Bool :=
  0x20 < c.toNat && !"<>\x60".toList.contains c

/-- The characters that a query may hold. -/
def isQueryChar (c : Char) : Bool :=
  0x20 < c.toNat && !"\"<>".toList.contains c

/-- The path of a text that is a path with perhaps a query and a fragment. -/
def pathOf? (text : List Char) : Option (List Char) :=
  let main := text.takeWhile (· != '#')
  let path := main.takeWhile (· != '?')
  let query := (main.dropWhile (· != '?')).drop 1
  if path.all isPathChar && query.all isQueryChar then some path else none

/-- The scheme of an absolute address and what follows it; none for a text without a scheme. -/
def splitScheme? (text : List Char) : Option (List Char × List Char) :=
  let scheme := text.takeWhile isSchemeChar
  match text.drop scheme.length with
  | ':' :: '/' :: '/' :: rest => if scheme.isEmpty && rest.isEmpty then none else some (scheme, rest)
  | _ => none

/-- Whether a character ends an authority. -/
def endsAuthority (c : Char) : Bool := c == '/' || c == '?' || c == '#'

/-- The path of what follows the scheme of an absolute address. Without a path it is the root. -/
def absolutePath? (rest : List Char) : Option (List Char) :=
  let authority := rest.takeWhile fun c => !endsAuthority c
  if authority.isEmpty || !isAuthority authority then none
  else (pathOf? (rest.drop authority.length)).map fun path => if path.isEmpty then ['/'] else path

/-- The path that a target names; an authority alone has an empty one. None if the target is not well
formed. -/
def path? (target : String) : Option String :=
  let text := target.toList
  match text with
  | ['*'] => some "*"
  | '/' :: _ => (pathOf? text).map .ofList
  | _ =>
    match splitScheme? text with
    | some (scheme, rest) => if scheme.length ≤ 64 then (absolutePath? rest).map .ofList else none
    | none => if !text.isEmpty && isAuthority text then some "" else none

end VolumeController.Http.Target
