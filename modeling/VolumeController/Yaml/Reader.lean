import VolumeController.Dict
import VolumeController.Yaml.Node
/-!
Taking values out of a YAML document. A scalar is what its reader asks for: any scalar is a text, and a
number or truth value has to be written plainly. A value with nothing written is an empty list, map or
record.
-/

namespace VolumeController.Yaml

/-- Access to a document: the nodes with an anchor, the last of a number first, and how many aliases may
still be followed. -/
abbrev Access := ReaderT (List (Nat × Node)) (StateT Nat Option)

/-- How values of a type are taken out of a node. -/
abbrev Reader (α : Type) := Node → Access α

/-- The node that an alias stands for, or the node itself. -/
def follow : Node → Access Node
  | .alias anchor => do
    let left ← get
    if left = 0 then failure
    set (left - 1)
    match (← read).lookup anchor with
    | some node => return node
    | none => failure
  | node => return node

namespace Reader

variable {α β : Type}

/-- The tag of a type that every document knows. -/
def coreTag (name : String) : String := "tag:yaml.org,2002:" ++ name

/-- The text of a scalar of a type: written plainly, or as a literal block with the tag of the type. -/
def literal (type : String) : Reader String := fun node => do
  match ← follow node with
  | .scalar _ tag style text =>
    if style = .plain || (style = .literal && tag == some (coreTag type)) then return text else failure
  | _ => failure

/-- A text is what any scalar says. -/
def text : Reader String := fun node => do
  match ← follow node with
  | .scalar _ _ _ text => return text
  | _ => failure

/-- A truth value, in small letters, in capitals, or with one capital. -/
def bool : Reader Bool := fun node => do
  let text ← literal "bool" node
  if ["true", "True", "TRUE"].contains text then return true
  else if ["false", "False", "FALSE"].contains text then return false
  else failure

/-- The value of a row of at least one digit of a base up to sixteen. -/
def digits? (base : Nat) (digits : List Char) : Option Nat :=
  if digits.isEmpty then none
  else digits.foldlM (fun n c => (Text.hexValue? c).bind fun d =>
    if d < base then some (n * base + d) else none) 0

/-- The natural number of a plain text: decimal without leading zeros, or hexadecimal, octal or binary
behind a sign of the base, with an optional plus sign before all. -/
def natural? (text : List Char) : Option Nat :=
  match text with
  | '+' :: rest => unsigned rest
  | text => unsigned text
where
  /-- A natural number without a plus sign. -/
  unsigned : List Char → Option Nat
    | '0' :: 'x' :: rest => digits? 16 rest
    | '0' :: 'o' :: rest => digits? 8 rest
    | '0' :: 'b' :: rest => digits? 2 rest
    | '0' :: c :: rest => if (c :: rest).all Char.isDigit then none else digits? 10 ('0' :: c :: rest)
    | digits => digits? 10 digits

/-- A natural number below a bound. -/
def natural (bound : Nat) : Reader Nat := fun node => do
  match natural? (← literal "int" node).toList with
  | some n => if n < bound then return n else failure
  | none => failure

/-- An unsigned 16-bit integer. -/
def uint16 : Reader UInt16 := fun node => UInt16.ofNat <$> natural UInt16.size node

/-- An unsigned 64-bit integer. -/
def uint64 : Reader UInt64 := fun node => UInt64.ofNat <$> natural UInt64.size node

/-- The plain texts of no value. -/
def isNull (text : String) : Bool := ["null", "Null", "NULL", "~"].contains text

/-- A value that may be absent: nothing written, or a plain text of no value. With the tag of no value
it has to be such a text; with any other it is present. -/
def option (r : Reader α) : Reader (Option α) := fun node => do
  let node ← follow node
  match node with
  | .scalar _ tag .plain text =>
    match tag with
    | none => if text.isEmpty || isNull text then return none else some <$> r node
    | some tag =>
      if tag ≠ coreTag "null" then some <$> r node
      else if isNull text then return none
      else failure
  | node => some <$> r node

/-- Whether a node has nothing written. -/
def isBlank : Node → Bool
  | .scalar _ _ .plain text => text.isEmpty
  | _ => false

/-- A list is a sequence. -/
def list (r : Reader α) : Reader (List α) := fun node => do
  match ← follow node with
  | .sequence _ items => items.mapM r
  | node => if isBlank node then return [] else failure

/-- The entries of a mapping. -/
def entries : Reader (List (Node × Node)) := fun node => do
  match ← follow node with
  | .mapping _ entries => return entries
  | node => if isBlank node then return [] else failure

/-- A map is a mapping, in which the last entry of a key counts. -/
def dict (r : Reader α) : Reader (Dict α) := fun node => do
  (← entries node).foldlM (fun m (key, value) => do
    let key ← text key
    let value ← r value
    return m.insert key value) .empty

/-- How a field with a name is put into a record. -/
structure Setting (α : Type) where
  name : String
  put : Node → α → Access α

/-- The setting of a field that is read as a value. -/
def setting (name : String) (r : Reader β) (put : β → α → α) : Setting α :=
  ⟨name, fun node a => do return put (← r node) a⟩

/-- A record is a mapping of settings, each given once at most and put into the record that has none.
An entry without a setting is passed over. -/
def record (blank : α) (settings : List (Setting α)) : Reader α := fun node => do
  let (a, _) ← (← entries node).foldlM (fun (a, (seen : List String)) (key, value) => do
    let key ← text key
    match settings.find? (·.name == key) with
    | none => return (a, seen)
    | some s => if seen.contains key then failure else return (← s.put value a, key :: seen))
    (blank, [])
  return a

/-- The number of aliases that may be followed for each unit of a document's size. -/
def aliasesPerNode : Nat := 100

/-- Takes a value out of the document with a root. -/
def run (r : Reader α) (root : Node) : Option α :=
  ((r root).run root.anchored.reverse).run' (aliasesPerNode * root.size)

end Reader

end VolumeController.Yaml
