import TaintReview.Yaml.Token.Lexer

namespace TaintReview.Yaml

/-!
# Documents

The tree of a document's nodes, read from its tokens.  A side of an entry that is left out
is an empty plain scalar.  An anchor is numbered by how many names were in use before it; an
alias stands for the last node of its number.
-/

/-- A node of a document. -/
inductive Node where
  | scalar (anchor : Option Nat) (tag : Option (List Char)) (style : Style) (text : List Char)
  | sequence (anchor : Option Nat) (items : List Node)
  | mapping (anchor : Option Nat) (entries : List (Node × Node))
  | alias (number : Nat)

/-- What stands where nothing is written. -/
def Node.missing : Node := .scalar none none .plain []

/-! ### Reading state -/

/-- The handles of a document's tags and what they stand for. -/
abbrev TagHandles := List (List Char × List Char)

/-- The handles every document knows. -/
def defaultHandles : TagHandles :=
  [(['!'], ['!']), (['!', '!'], "tag:yaml.org,2002:".toList)]

/-- The tokens still to be read, and the number that each anchor's name stands for. -/
structure NodeReader where
  tokens : List Token
  anchors : List (List Char × Nat) := []

/-- A reading step, which fails on tokens that fit nowhere. -/
abbrev ReadM := StateT NodeReader Option

namespace NodeReader

/-- The next token. -/
def peek : ReadM (Option Token) := do return (← get).tokens.head?

/-- Step over the next token. -/
def advance : ReadM Unit := modify fun r => { r with tokens := r.tokens.tail }

/-- Step over the next token when it is this one. -/
def accept (t : Token) : ReadM Bool := do
  if (← peek) == some t then advance; pure true else pure false

/-- Give a name the next number. -/
def register (name : List Char) : ReadM Nat := do
  let r ← get
  let number := r.anchors.length
  let others := r.anchors.filter (·.1 != name)
  set { r with anchors := (name, number) :: others }
  pure number

/-- The full form of a tag. -/
def expandTag? (handles : TagHandles) (handle suffix : List Char) : Option (List Char) :=
  if handle.isEmpty then some suffix else (handles.lookup handle).map (· ++ suffix)

/-- Read a tag, when there is one. -/
def tagged (handles : TagHandles) : ReadM (Option (List Char)) := do
  match ← peek with
  | some (.tag handle suffix) =>
    advance
    let tag ← (expandTag? handles handle suffix : Option (List Char))
    pure (some tag)
  | _ => pure none

/-- Read an anchor, when there is one. -/
def anchored : ReadM (Option (List Char)) := do
  match ← peek with
  | some (.anchor name) => advance; pure (some name)
  | _ => pure none

/-- Read the anchor and the tag of a node, in either order. -/
def properties (handles : TagHandles) : ReadM (Option Nat × Option (List Char)) := do
  let first ← anchored
  let tag ← tagged handles
  let anchor ← if first.isNone && tag.isSome then anchored else pure first
  match anchor with
  | some name => pure (some (← register name), tag)
  | none => pure (none, tag)

/-- The number of an alias. -/
def aliasNumber (name : List Char) : ReadM Nat := do
  ((← get).anchors.lookup name : Option Nat)

/-! ### Nodes -/

mutual

/-- Read a node.  Only in a block may it begin with indentation, and only as a side of an
    entry may it be a sequence that is not indented. -/
def node (handles : TagHandles) : Nat → Bool → Bool → ReadM Node
  | 0, _, _ => failure
  | fuel + 1, block, indentless => do
    match ← peek with
    | some (.alias name) =>
      advance
      return .alias (← aliasNumber name)
    | _ =>
      let (anchor, tag) ← properties handles
      match ← peek with
      | some (.scalar style text) => advance; return .scalar anchor tag style text
      | some .flowSequenceStart =>
        advance
        return .sequence anchor (← flowItems handles fuel true)
      | some .flowMappingStart =>
        advance
        return .mapping anchor (← flowEntries handles fuel true)
      | some .blockEntry =>
        if indentless then return .sequence anchor (← indentlessItems handles fuel)
        else bare anchor tag
      | some .blockSequenceStart =>
        if block then advance; return .sequence anchor (← blockItems handles fuel)
        else bare anchor tag
      | some .blockMappingStart =>
        if block then advance; return .mapping anchor (← blockEntries handles fuel)
        else bare anchor tag
      | _ => bare anchor tag
where
  /-- A node that is nothing but its anchor or its tag. -/
  bare (anchor : Option Nat) (tag : Option (List Char)) : ReadM Node :=
    if anchor.isSome || tag.isSome then pure (.scalar anchor tag .plain []) else failure

/-- Read a node unless one of the tokens comes first, before which it is left out. -/
def nodeUnless (handles : TagHandles) :
    Nat → List Token → Bool → Bool → ReadM Node
  | 0, _, _, _ => failure
  | fuel + 1, stops, block, indentless => do
    match ← peek with
    | none => node handles fuel block indentless
    | some t =>
      if stops.contains t then pure .missing else node handles fuel block indentless

/-- Read the items of an indented sequence. -/
def blockItems (handles : TagHandles) : Nat → ReadM (List Node)
  | 0 => failure
  | fuel + 1 => do
    if ← accept .blockEntry then
      let item ← nodeUnless handles fuel [.blockEntry, .blockEnd] true false
      return item :: (← blockItems handles fuel)
    else if ← accept .blockEnd then return []
    else failure

/-- Read the items of a sequence that is not indented. -/
def indentlessItems (handles : TagHandles) : Nat → ReadM (List Node)
  | 0 => failure
  | fuel + 1 => do
    if ← accept .blockEntry then
      let item ← nodeUnless handles fuel [.blockEntry, .key, .value, .blockEnd] true false
      return item :: (← indentlessItems handles fuel)
    else return []

/-- Read the entries of an indented mapping. -/
def blockEntries (handles : TagHandles) : Nat → ReadM (List (Node × Node))
  | 0 => failure
  | fuel + 1 => do
    if ← accept .key then
      let key ← nodeUnless handles fuel [.key, .value, .blockEnd] true true
      let value ←
        if ← accept .value then nodeUnless handles fuel [.key, .value, .blockEnd] true true
        else pure .missing
      return (key, value) :: (← blockEntries handles fuel)
    else if ← accept .blockEnd then return []
    else failure

/-- Read the items of a sequence in brackets. -/
def flowItems (handles : TagHandles) : Nat → Bool → ReadM (List Node)
  | 0, _ => failure
  | fuel + 1, first => do
    if ← accept .flowSequenceEnd then return []
    if !first then
      unless ← accept .flowEntry do failure
    if ← accept .key then
      let pair ← flowPair handles fuel
      return pair :: (← flowItems handles fuel false)
    else if ← accept .flowSequenceEnd then return []
    else
      let item ← node handles fuel false false
      return item :: (← flowItems handles fuel false)

/-- Read a mapping of one entry within brackets.  Where the key is left out the token after
    it is passed over. -/
def flowPair (handles : TagHandles) : Nat → ReadM Node
  | 0 => failure
  | fuel + 1 => do
    let stops : List Token := [.value, .flowEntry, .flowSequenceEnd]
    let token ← peek
    let key ←
      if token.any stops.contains then advance; pure .missing
      else node handles fuel false false
    let value ←
      if ← accept .value then nodeUnless handles fuel [.flowEntry, .flowSequenceEnd] false false
      else pure .missing
    return .mapping none [(key, value)]

/-- Read the entries of a mapping in braces. -/
def flowEntries (handles : TagHandles) : Nat → Bool → ReadM (List (Node × Node))
  | 0, _ => failure
  | fuel + 1, first => do
    if ← accept .flowMappingEnd then return []
    if !first then
      unless ← accept .flowEntry do failure
    if ← accept .key then
      let key ← nodeUnless handles fuel [.value, .flowEntry, .flowMappingEnd] false false
      let value ←
        if ← accept .value then nodeUnless handles fuel [.flowEntry, .flowMappingEnd] false false
        else pure .missing
      return (key, value) :: (← flowEntries handles fuel false)
    else if ← accept .flowMappingEnd then return []
    else
      let key ← node handles fuel false false
      return (key, .missing) :: (← flowEntries handles fuel false)

end

/-! ### Documents -/

/-- Read the directives before a document.  Each may be given once, and only the versions 1.1
    and 1.2 are known. -/
def directives : Nat → Bool → TagHandles → ReadM TagHandles
  | 0, _, _ => failure
  | fuel + 1, versioned, handles => do
    match ← peek with
    | some (.version major minor) =>
      if versioned || major != 1 || (minor != 1 && minor != 2) then failure
      advance
      directives fuel true handles
    | some (.tagDirective handle expansion) =>
      if (handles.lookup handle).isSome then failure
      advance
      directives fuel versioned (handles ++ [(handle, expansion)])
    | _ => pure handles

/-- Is this token the beginning of a marked document? -/
def beginsMarked : Token → Bool
  | .version .. | .tagDirective .. | .documentStart => true
  | _ => false

/-- Read the only document of a text; nothing when the text has none. -/
def document (fuel : Nat) : ReadM (Option Node) := do
  match ← peek with
  | none => pure none
  | some t =>
    if beginsMarked t then
      let handles ← directives fuel false []
      unless ← accept .documentStart do failure
      match ← peek with
      | none => pure (some .missing)
      | some t =>
        if beginsMarked t || t == .documentEnd then pure (some .missing)
        else some <$> node (handles ++ defaultHandles) fuel true false
    else some <$> node defaultHandles fuel true false

end NodeReader

namespace Node

mutual

/-- The nodes with anchors, each before those inside it. -/
def anchored : Node → List (Nat × Node)
  | .scalar anchor tag style text => (own anchor (.scalar anchor tag style text))
  | .sequence anchor items => own anchor (.sequence anchor items) ++ anchoredItems items
  | .mapping anchor entries => own anchor (.mapping anchor entries) ++ anchoredEntries entries
  | .alias _ => []
where
  /-- A node under its number. -/
  own (anchor : Option Nat) (node : Node) : List (Nat × Node) :=
    match anchor with
    | some number => [(number, node)]
    | none => []

/-- The nodes with anchors among items. -/
def anchoredItems : List Node → List (Nat × Node)
  | [] => []
  | item :: rest => anchored item ++ anchoredItems rest

/-- The nodes with anchors among entries. -/
def anchoredEntries : List (Node × Node) → List (Nat × Node)
  | [] => []
  | (key, value) :: rest => anchored key ++ anchored value ++ anchoredEntries rest

end

end Node

/-- A document: its root, when there is one, and the nodes its aliases stand for. -/
structure Document where
  root : Option Node
  anchors : List (Nat × Node)

/-- Read a text that holds at most one document. -/
def Document.parse? (text : List Char) : Option Document := do
  let tokens ← Token.scan? text
  let (root, rest) ← (NodeReader.document (4 * tokens.length + 8)).run { tokens }
  if rest.tokens.all (· == .documentEnd) then
    pure { root, anchors := ((root.map Node.anchored).getD []).reverse }
  else none

/-- The node an alias stands for; any other node is itself. -/
def Document.resolve? (d : Document) : Node → Option Node
  | .alias number => d.anchors.lookup number
  | node => some node

end TaintReview.Yaml
