import Montage.Yaml.Tag
import Montage.Yaml.Token.Lexer

/-!
The tree that the words of a stream form. An alias stands for the node of its anchor.
-/

namespace Montage.Yaml

/-- A node with its kind. -/
inductive Node where
  | scalar (tag : Tag) (text : String)
  | sequence (tag : Tag) (items : List Node)
  | mapping (tag : Tag) (entries : List (Node × Node))

namespace Node

instance : Inhabited Node := ⟨scalar .null ""⟩

/-- The node of nothing. -/
def empty : Node := scalar .null ""

end Node

/-- What is left of a stream, with what its document has declared so far. -/
structure Stream where
  tokens : List Token
  /-- What the handles of tags stand for. -/
  handles : List (String × String)
  anchors : List (String × Node)

/-- A reader of words. -/
abbrev Grammar (β : Type) := StateT Stream (Except Failure) β

namespace Grammar

/-- The stream holds no document. -/
def refuse {β : Type} : Grammar β := throw .notDocument

/-- The next word, none at the end of the stream. -/
def peek? : Grammar (Option Token) := do
  match (← get).tokens with
  | [] => return none
  | .broken failure :: _ => throw failure
  | token :: _ => return some token

/-- Passes over a word. -/
def advance : Grammar Unit :=
  modify fun stream => { stream with tokens := stream.tokens.drop 1 }

/-- The next word is one of some words. -/
def isNext (tokens : List Token) : Grammar Bool := do
  return (← peek?).any tokens.contains

/-- Passes over a word if it is the next one. -/
def skip? (token : Token) : Grammar Bool := do
  if ← isNext [token] then
    advance
    return true
  else return false

/-- Passes over a comma, which has to be here. -/
def separate : Grammar Unit := do
  if !(← skip? .comma) then refuse

/-- The name of an anchor, if one is here. -/
def anchor? : Grammar (Option String) := do
  match ← peek? with
  | some (.anchor name) =>
    advance
    return some name
  | _ => return none

/-- A tag in full, if one is here. A single exclamation mark stays as it is. -/
def tag? : Grammar (Option String) := do
  match ← peek? with
  | some (.tag none suffix) =>
    advance
    return some suffix
  | some (.tag (some handle) suffix) =>
    advance
    match (← get).handles.lookup handle with
    | some start => return some (start ++ suffix)
    | none => refuse
  | _ => return none

/-- Anchor and tag of a node, in any order. -/
def properties : Grammar (Option String × Option String) := do
  match ← anchor? with
  | some name => return (some name, ← tag?)
  | none =>
    let tag ← tag?
    return (← if tag.isSome then anchor? else pure none, tag)

/-- The kind of a node: by its tag, else by what it is. -/
def kind (tag : Option String) (other : Tag) : Tag :=
  match tag with
  | none | some "!" => other
  | some tag => .ofText tag

/-- A scalar with a tag. Plain text, and any text whose tag is a single exclamation mark, has the
kind that it looks like. -/
def scalarNode (tag : Option String) (text : String) (plain : Bool) : Node :=
  let looks := (plain && tag.isNone) || tag == some "!"
  .scalar (kind tag (if looks then .implicit text else .text)) text

/-- No anchor has this name yet. -/
def checkAnchor (name : Option String) : Grammar Unit := do
  match name with
  | some name => if ((← get).anchors.lookup name).isSome then refuse
  | none => return

/-- Remembers a node under the name of its anchor. -/
def register (name : Option String) (node : Node) : Grammar Unit := do
  checkAnchor name
  match name with
  | some name => modify fun stream => { stream with anchors := (name, node) :: stream.anchors }
  | none => return

mutual

/-- A node. In a block it can be a block itself; where a sequence may stand without indentation,
items can follow at once. -/
def node (inBlock indentless : Bool) : Nat → Grammar Node
  | 0 => refuse
  | fuel + 1 => do
    match ← peek? with
    | some (.alias name) =>
      advance
      match (← get).anchors.lookup name with
      | some node => return node
      | none => refuse
    | _ =>
      let (anchor, tag) ← properties
      checkAnchor anchor
      let node ← content inBlock indentless anchor.isSome tag fuel
      register anchor node
      return node

/-- What a node holds besides anchor and tag. -/
def content (inBlock indentless anchored : Bool) (tag : Option String) : Nat → Grammar Node
  | 0 => refuse
  | fuel + 1 => do
    let next ← peek?
    if next == some .item && indentless then
      return .sequence (kind tag .sequence) (← looseItems fuel)
    match next with
    | some (.scalar text plain) =>
      advance
      return scalarNode tag text plain
    | some .flowSequence =>
      advance
      return .sequence (kind tag .sequence) (← flowItems true fuel)
    | some .flowMapping =>
      advance
      return .mapping (kind tag .mapping) (← flowEntries true fuel)
    | _ =>
      if inBlock && next == some .blockSequence then
        advance
        return .sequence (kind tag .sequence) (← blockItems fuel)
      else if inBlock && next == some .blockMapping then
        advance
        return .mapping (kind tag .mapping) (← blockEntries fuel)
      else if anchored || tag.isSome then return .scalar (kind tag .null) ""
      else refuse

/-- A node in a block, nothing if one of some words follows. -/
def blockPart (indentless : Bool) (ends : List Token) : Nat → Grammar Node
  | 0 => refuse
  | fuel + 1 => do
    if ← isNext ends then return .empty else node true indentless fuel

/-- The items of a sequence in a block. -/
def blockItems : Nat → Grammar (List Node)
  | 0 => refuse
  | fuel + 1 => do
    if ← skip? .item then
      let item ← blockPart false [.item, .blockEnd] fuel
      return item :: (← blockItems fuel)
    else if ← skip? .blockEnd then return []
    else refuse

/-- The items of a sequence that is not indented. -/
def looseItems : Nat → Grammar (List Node)
  | 0 => refuse
  | fuel + 1 => do
    if ← skip? .item then
      let item ← blockPart false [.item, .key, .value, .blockEnd] fuel
      return item :: (← looseItems fuel)
    else return []

/-- The entries of a mapping in a block. -/
def blockEntries : Nat → Grammar (List (Node × Node))
  | 0 => refuse
  | fuel + 1 => do
    let ends := [Token.key, .value, .blockEnd]
    if ← skip? .key then
      let key ← blockPart true ends fuel
      let value ← if ← skip? .value then blockPart true ends fuel else pure .empty
      return (key, value) :: (← blockEntries fuel)
    else if ← skip? .blockEnd then return []
    else refuse

/-- A node in a flow, nothing if one of some words follows. -/
def flowPart (ends : List Token) : Nat → Grammar Node
  | 0 => refuse
  | fuel + 1 => do
    if ← isNext ends then return .empty else node false false fuel

/-- A value after a colon in a flow, nothing if there is no colon. -/
def flowValue (close : Token) : Nat → Grammar Node
  | 0 => refuse
  | fuel + 1 => do
    if ← skip? .value then flowPart [.comma, close] fuel else return .empty

/-- The items of a sequence in brackets. A key makes an item a mapping of one entry. -/
def flowItems (first : Bool) : Nat → Grammar (List Node)
  | 0 => refuse
  | fuel + 1 => do
    let close := Token.flowSequenceEnd
    if ← skip? close then return []
    unless first do separate
    if ← skip? .key then
      let key ← flowPart [.value, .comma, close] fuel
      let value ← flowValue close fuel
      return .mapping .mapping [(key, value)] :: (← flowItems false fuel)
    else if ← skip? close then return []
    else
      let item ← node false false fuel
      return item :: (← flowItems false fuel)

/-- The entries of a mapping in braces. -/
def flowEntries (first : Bool) : Nat → Grammar (List (Node × Node))
  | 0 => refuse
  | fuel + 1 => do
    let close := Token.flowMappingEnd
    if ← skip? close then return []
    unless first do separate
    if ← skip? .key then
      let key ← flowPart [.value, .comma, close] fuel
      let value ← flowValue close fuel
      return (key, value) :: (← flowEntries false fuel)
    else if ← skip? close then return []
    else
      let key ← node false false fuel
      return (key, .empty) :: (← flowEntries false fuel)

end

/-- The handles that every document has. -/
def commonHandles : List (String × String) := [("!", "!"), ("!!", commonStart)]

/-- The directives before a document: a version at most once, and each handle at most once. -/
def directives (versioned : Bool) (handles : List (String × String)) : Nat → Grammar Unit
  | 0 => refuse
  | fuel + 1 => do
    match ← peek? with
    | some (.version major) =>
      if versioned || major != 1 then refuse
      advance
      directives true handles fuel
    | some (.tagHandle handle start) =>
      if (handles.lookup handle).isSome then refuse
      advance
      directives versioned ((handle, start) :: handles) fuel
    | some .directive =>
      advance
      directives versioned handles fuel
    | _ => modify fun stream => { stream with handles := handles ++ commonHandles }

/-- A directive comes next. -/
def isDirectiveNext : Grammar Bool := do
  return (← peek?).any fun
    | .version _ | .tagHandle _ _ | .directive => true
    | _ => false

/-- Passes over the ends of documents. -/
def skipEnds : Nat → Grammar Unit
  | 0 => refuse
  | fuel + 1 => do if ← skip? .documentEnd then skipEnds fuel

/-- The only document of a stream, none of an empty stream. -/
def document (fuel : Nat) : Grammar (Option Node) := do
  if (← peek?).isNone then return none
  let node ← if (← isDirectiveNext) || (← isNext [.documentStart]) then do
      directives false [] fuel
      if !(← skip? .documentStart) then refuse
      let ends ← isNext [.documentStart, .documentEnd]
      if ends || (← isDirectiveNext) || (← peek?).isNone then pure .empty
      else node true false fuel
    else node true false fuel
  skipEnds fuel
  if (← peek?).isSome then refuse
  return some node

end Grammar

/-- The tree of the only document that words write, none if they are none. -/
def Node.ofTokens? (tokens : List Token) : Except Failure (Option Node) := do
  let fuel := 3 * (tokens.length + 1)
  let (node, _) ← (Grammar.document fuel).run ⟨tokens, Grammar.commonHandles, []⟩
  return node

end Montage.Yaml
