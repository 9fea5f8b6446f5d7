import VolumeController.Yaml.Token
/-!
The nodes of a YAML document: scalars, sequences, mappings, and aliases of nodes that bear an anchor. A
text holds one document at most; `Node.ofText` reads it, or finds that it breaks the grammar.
-/

namespace VolumeController.Yaml

/-- A node. An anchor is kept as a number, and an alias holds the number of its anchor. -/
inductive Node where
  | scalar (anchor : Option Nat) (tag : Option String) (style : Style) (text : String)
  | sequence (anchor : Option Nat) (items : List Node)
  | mapping (anchor : Option Nat) (entries : List (Node × Node))
  | alias (anchor : Nat)
  deriving Inhabited

namespace Node

/-- A scalar with nothing written. -/
def empty (anchor : Option Nat) (tag : Option String) : Node := .scalar anchor tag .plain ""

/-- A pair of an anchor's number and its node, if a node bears an anchor. -/
def anchorEntry (anchor : Option Nat) (node : Node) : List (Nat × Node) :=
  match anchor with
  | some n => [(n, node)]
  | none => []

mutual

/-- The nodes with an anchor, an outer one before those inside it. -/
def anchored : Node → List (Nat × Node)
  | .scalar anchor tag style text => anchorEntry anchor (.scalar anchor tag style text)
  | .sequence anchor items => anchorEntry anchor (.sequence anchor items) ++ anchoredItems items
  | .mapping anchor entries => anchorEntry anchor (.mapping anchor entries) ++ anchoredEntries entries
  | .alias _ => []

/-- The nodes with an anchor among the items of a sequence. -/
def anchoredItems : List Node → List (Nat × Node)
  | [] => []
  | item :: items => anchored item ++ anchoredItems items

/-- The nodes with an anchor among the keys and values of a mapping. -/
def anchoredEntries : List (Node × Node) → List (Nat × Node)
  | [] => []
  | (key, value) :: entries => anchored key ++ anchored value ++ anchoredEntries entries

end

mutual

/-- The size of a node: one for a scalar or alias, two for a collection besides what is in it. -/
def size : Node → Nat
  | .scalar _ _ _ _ => 1
  | .sequence _ items => 2 + sizeItems items
  | .mapping _ entries => 2 + sizeEntries entries
  | .alias _ => 1

/-- The size of the items of a sequence. -/
def sizeItems : List Node → Nat
  | [] => 0
  | item :: items => size item + sizeItems items

/-- The size of the keys and values of a mapping. -/
def sizeEntries : List (Node × Node) → Nat
  | [] => 0
  | (key, value) :: entries => size key + size value + sizeEntries entries

end

end Node

/-- What is left of a token list, with the names that were given so far. -/
structure Composing where
  tokens : List Token
  /-- What the tag handles stand for. -/
  handles : List (String × String)
  /-- The numbers of the anchors, one entry for each name. -/
  anchors : List (String × Nat)

/-- A part of a document read from tokens. -/
abbrev Compose := StateT Composing Option

namespace Compose

/-- The next token. -/
def peek : Compose (Option Token) := return (← get).tokens.head?

/-- Passes over a token. -/
def skip : Compose Unit := modify fun c => { c with tokens := c.tokens.tail }

/-- Numbers an anchor by the count of names before it; a name used again is given to the later node. -/
def number (name : String) : Compose Nat := do
  let c ← get
  let n := c.anchors.length
  set { c with anchors := (name, n) :: c.anchors.filter (·.1 != name) }
  return n

/-- The anchor before a node. -/
def anchor : Compose (Option Nat) := do
  match ← peek with
  | some (.anchor name) => skip; some <$> number name
  | _ => return none

/-- The tag before a node, with its handle replaced. -/
def tag : Compose (Option String) := do
  match ← peek with
  | some (.tag handle suffix) =>
    skip
    if handle.isEmpty then return some suffix
    match (← get).handles.lookup handle with
    | some expansion => return some (expansion ++ suffix)
    | none => failure
  | _ => return none

/-- Where a node stands. -/
structure Place where
  /-- Whether it may be a block collection. -/
  block : Bool
  /-- Whether it may be a sequence that is not indented. -/
  indentless : Bool

/-- The tokens before which a value in a block is empty. -/
def endsBlockPart : Option Token → Bool
  | some .key | some .value | some .blockEnd => true
  | _ => false

/-- The tokens before which an item of a sequence that is not indented is empty. -/
def endsIndentlessItem : Option Token → Bool
  | some .blockEntry => true
  | token => endsBlockPart token

/-- The tokens before which a value in brackets is empty. -/
def endsFlowPart (close : Token) (token : Option Token) : Bool :=
  token == some .flowEntry || token == some close

/-- The value after a colon, if one stands here: empty before an ending token. -/
def valuePart (ends : Option Token → Bool) (node : Compose Node) : Compose Node := do
  if (← peek) != some .value then return .empty none none
  skip
  if ends (← peek) then return .empty none none
  node

mutual

/-- A node: an alias, or properties and a scalar or collection. Properties alone are an empty scalar. -/
def node (place : Place) : Nat → Compose Node
  | 0 => failure
  | fuel + 1 => do
    if let some (.alias name) ← peek then
      skip
      match (← get).anchors.lookup name with
      | some n => return .alias n
      | none => failure
    let before ← anchor
    let (tag, anchor) ← do
      let tag ← tag
      if before.isSome || tag.isNone then pure (tag, before) else pure (tag, ← anchor)
    match ← peek with
    | some .blockEntry =>
      if place.indentless then return .sequence anchor (← indentlessItems fuel)
      content anchor tag
    | some (.scalar style text) => skip; return .scalar anchor tag style text
    | some .flowSequence => skip; return .sequence anchor (← flowItems true fuel)
    | some .flowMapping => skip; return .mapping anchor (← flowEntries true fuel)
    | some .blockSequence =>
      if place.block then
        skip
        return .sequence anchor (← blockItems fuel)
      content anchor tag
    | some .blockMapping =>
      if place.block then
        skip
        return .mapping anchor (← blockEntries fuel)
      content anchor tag
    | _ => content anchor tag
where
  /-- The node of properties without content. -/
  content (anchor : Option Nat) (tag : Option String) : Compose Node :=
    if anchor.isSome || tag.isSome then return .empty anchor tag else failure

/-- The items of a block sequence, up to its end. -/
def blockItems : Nat → Compose (List Node)
  | 0 => failure
  | fuel + 1 => do
    match ← peek with
    | some .blockEntry =>
      skip
      let next ← peek
      let item ←
        if next == some .blockEntry || next == some .blockEnd then pure (.empty none none)
        else node ⟨true, false⟩ fuel
      return item :: (← blockItems fuel)
    | some .blockEnd => skip; return []
    | _ => failure

/-- The items of a sequence at the indentation of its key. It ends before any other token. -/
def indentlessItems : Nat → Compose (List Node)
  | 0 => failure
  | fuel + 1 => do
    match ← peek with
    | some .blockEntry =>
      skip
      let item ←
        if endsIndentlessItem (← peek) then pure (.empty none none) else node ⟨true, false⟩ fuel
      return item :: (← indentlessItems fuel)
    | _ => return []

/-- The entries of a block mapping, up to its end. -/
def blockEntries : Nat → Compose (List (Node × Node))
  | 0 => failure
  | fuel + 1 => do
    match ← peek with
    | some .key =>
      skip
      let key ←
        if endsBlockPart (← peek) then pure (.empty none none) else node ⟨true, true⟩ fuel
      let value ← valuePart endsBlockPart (node ⟨true, true⟩ fuel)
      return (key, value) :: (← blockEntries fuel)
    | some .blockEnd => skip; return []
    | _ => failure

/-- The items of a sequence in brackets, up to the closing one. A key with a value is a mapping of its
own. -/
def flowItems (first : Bool) : Nat → Compose (List Node)
  | 0 => failure
  | fuel + 1 => do
    if (← peek) == some .flowSequenceEnd then
      skip
      return []
    if !first then
      if (← peek) != some .flowEntry then failure
      skip
    match ← peek with
    | some .flowSequenceEnd => skip; return []
    | some .key =>
      skip
      let ends := fun token => token == some .value || endsFlowPart .flowSequenceEnd token
      let key ←
        if ends (← peek) then do skip; pure (.empty none none) else node ⟨false, false⟩ fuel
      let value ← valuePart (endsFlowPart .flowSequenceEnd) (node ⟨false, false⟩ fuel)
      return .mapping none [(key, value)] :: (← flowItems false fuel)
    | _ =>
      let item ← node ⟨false, false⟩ fuel
      return item :: (← flowItems false fuel)

/-- The entries of a mapping in brackets, up to the closing one. -/
def flowEntries (first : Bool) : Nat → Compose (List (Node × Node))
  | 0 => failure
  | fuel + 1 => do
    if (← peek) == some .flowMappingEnd then
      skip
      return []
    if !first then
      if (← peek) != some .flowEntry then failure
      skip
    match ← peek with
    | some .flowMappingEnd => skip; return []
    | some .key =>
      skip
      let ends := endsFlowPart .flowMappingEnd
      let next ← peek
      let key ←
        if next == some .value || ends next then pure (.empty none none)
        else node ⟨false, false⟩ fuel
      let value ← valuePart ends (node ⟨false, false⟩ fuel)
      return (key, value) :: (← flowEntries false fuel)
    | _ =>
      let key ← node ⟨false, false⟩ fuel
      return (key, .empty none none) :: (← flowEntries false fuel)

end

/-- The tag handles of a document: those that its directives declare, each once, before those that every
document has. A version is given once at most and is 1.1 or 1.2. -/
def directives (versioned : Bool) (handles : List (String × String)) : List Token →
    Option (List (String × String) × List Token)
  | .version major minor :: rest =>
    if versioned || major ≠ 1 || (minor ≠ 1 && minor ≠ 2) then none
    else directives true handles rest
  | .handle handle expansion :: rest =>
    if (handles.lookup handle).isSome then none
    else directives versioned ((handle, expansion) :: handles) rest
  | rest => some (handles ++ [("!", "!"), ("!!", "tag:yaml.org,2002:")], rest)

/-- Whether a document has no content before a token. -/
def endsDocument : Option Token → Bool
  | none => true
  | some .documentStart | some .documentEnd | some (.version _ _) | some (.handle _ _) => true
  | _ => false

end Compose

namespace Node

open Compose

/-- The root of the only document of a token list; none if there is no document. Every part of a node
takes a token or is the part of one that does, so twice their number bounds the depth. -/
def ofTokens (tokens : List Token) : Option (Option Node) := do
  if tokens.isEmpty then return none
  let (handles, content) ← directives false [] tokens
  let (root, rest) ←
    match content with
    | .documentStart :: content =>
      if endsDocument content.head? then some (.empty none none, content) else compose handles content
    | content => if content.length = tokens.length then compose handles content else none
  if (rest.dropWhile (· == .documentEnd)).isEmpty then return some root else none
where
  /-- Reads the root. -/
  compose (handles : List (String × String)) (tokens : List Token) : Option (Node × List Token) :=
    ((node ⟨true, false⟩ (2 * tokens.length + 2)).run ⟨tokens, handles, []⟩).map
      fun (root, c) => (root, c.tokens)

/-- The root of the only document of a text; none if there is no document. -/
def ofText (text : String) : Option (Option Node) := do
  ofTokens (← Token.ofText text.toList)

end Node

end VolumeController.Yaml
