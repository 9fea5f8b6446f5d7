/-!
Media types: which content types announce JSON.
-/

namespace VolumeController.Http.MediaType

/-- The characters of a token. -/
def isTokenChar (c : Char) : Bool :=
  c.isAlphanum || "!#$%&'*+-.^_|~\x60".toList.contains c

/-- The characters that may stand in a quoted parameter value: all of ASCII that is visible, and the
space. -/
def isQuotedChar (c : Char) : Bool :=
  31 < c.toNat && c.toNat < 127

/-- Where the reading of parameters stands. -/
inductive ParameterState where
  /-- Before a parameter, behind a semicolon or blanks. -/
  | before
  | name
  /-- Right behind the equals sign. -/
  | valueStart
  | value
  | quotedStart
  | quoted
  /-- Behind a closing quote. -/
  | afterQuoted

/-- Whether the text behind the first semicolon is a list of parameters: names and values with an equals
sign between them, values as tokens or between quotes, semicolons between parameters. -/
def areParameters : ParameterState → List Char → Bool
  | .before, [] => true
  | .name, [] => false
  | .valueStart, [] => true
  | .value, [] => true
  | .quotedStart, [] => false
  | .quoted, [] => false
  | .afterQuoted, [] => true
  | .before, c :: rest =>
    if c = ' ' then areParameters .before rest else isTokenChar c && areParameters .name rest
  | .name, c :: rest =>
    if c = '=' then areParameters .valueStart rest else isTokenChar c && areParameters .name rest
  | .valueStart, c :: rest =>
    if c = '"' then areParameters .quotedStart rest else isTokenChar c && areParameters .value rest
  | .value, c :: rest =>
    if c = ';' then areParameters .before rest else isTokenChar c && areParameters .value rest
  | .quotedStart, c :: rest => isQuotedChar c && areParameters .quoted rest
  | .quoted, c :: rest =>
    if c = '"' then areParameters .afterQuoted rest else isQuotedChar c && areParameters .quoted rest
  | .afterQuoted, c :: rest =>
    if c = ';' then areParameters .before rest
    else c = ' ' && areParameters .afterQuoted rest

/-- Lower-case ASCII letters. -/
def lower (text : List Char) : List Char := text.map Char.toLower

/-- Whether a subtype is JSON: by its name before the last plus sign, or by what stands after it. A plus
sign in front is part of the name. -/
def isJsonSubtype (subtype : List Char) : Bool :=
  let suffix := (subtype.reverse.takeWhile (· != '+')).reverse
  let name := subtype.take (subtype.length - suffix.length - 1)
  if name.isEmpty then lower subtype = "json".toList
  else lower name = "json".toList || lower suffix = "json".toList

/-- Whether a content type announces JSON. Case and parameters do not count, but they must be well
formed. -/
def isJson (contentType : String) : Bool :=
  let text := contentType.toList
  match text.dropWhile (· != '/') with
  | [] => false
  | _ :: rest =>
    let subtype := rest.takeWhile (· != ';')
    lower (text.takeWhile (· != '/')) = "application".toList &&
      !subtype.isEmpty && subtype.all isTokenChar && isJsonSubtype subtype &&
      areParameters .before ((rest.dropWhile (· != ';')).drop 1)

end VolumeController.Http.MediaType
