import Montage.Value
import Montage.Yaml.Node
import Montage.Yaml.Scalar

/-!
The value of a YAML document.

Collections are filled level by level: what is wrong with a value further out is found before what
is wrong further in, except in the keys of mappings, which are read at once.
-/

namespace Montage.Yaml

/-- What is wrong at a level of a document. -/
structure Flaw where
  level : Nat
  failure : Failure
  deriving DecidableEq, Repr

/-- A part of a document, or what is first found wrong with it. -/
abbrev Built (β : Type) := Except Flaw β

/-- Two parts. Of two flaws the one further out counts, on one level the left one. -/
def both {β γ : Type} (left : Built β) (right : Built γ) : Built (β × γ) :=
  match left, right with
  | .ok left, .ok right => .ok (left, right)
  | .error flaw, .ok _ => .error flaw
  | .ok _, .error flaw => .error flaw
  | .error left, .error right => .error (if right.level < left.level then right else left)

/-- All parts of a list. -/
def gather {β : Type} : List (Built β) → Built (List β)
  | [] => .ok []
  | part :: rest => (both part (gather rest)).map fun (part, rest) => part :: rest

namespace Node

/-- The kind of a node. -/
def tag : Node → Tag
  | scalar tag _ | sequence tag _ | mapping tag _ => tag

/-- The key of a default value, taken as text. -/
def asKey : Node → Node
  | scalar .default text => scalar .text text
  | key => key

mutual

/-- The text of a scalar, or of the default value of a mapping. -/
def text? : Node → Option String
  | scalar _ text => some text
  | sequence _ _ => none
  | mapping _ entries => defaultText? entries

/-- The text of the first default value among entries. -/
def defaultText? : List (Node × Node) → Option String
  | [] => none
  | (key, value) :: rest => if key.tag = .default then value.text? else defaultText? rest

end

mutual

/-- The entries of a mapping with those that are merged into it, which come first. -/
def mergedEntries : Node → Except Failure (List (Node × Node))
  | mapping _ entries => do
    let (merged, own) ← splitMerges entries
    return merged ++ own
  | _ => .error .notDocument

/-- The entries that are merged and the other ones. -/
def splitMerges : List (Node × Node) → Except Failure (List (Node × Node) × List (Node × Node))
  | [] => .ok ([], [])
  | (key, value) :: rest => do
    if key.tag = .merge then
      let here ← mergeSource value
      let (merged, own) ← splitMerges rest
      return (here ++ merged, own)
    else
      let (merged, own) ← splitMerges rest
      return (merged, (key.asKey, value) :: own)

/-- The entries of a mapping, or of the mappings of a sequence with those of the last one first. -/
def mergeSource : Node → Except Failure (List (Node × Node))
  | mapping tag entries => mergedEntries (mapping tag entries)
  | sequence _ items => mergeItems items
  | scalar _ _ => .error .notDocument

/-- The entries of mappings, those of the last one first. -/
def mergeItems : List Node → Except Failure (List (Node × Node))
  | [] => .ok []
  | item :: rest => do
    let here ← mergedEntries item
    return (← mergeItems rest) ++ here

end

/-- The value of a scalar of a kind. -/
def scalarValue (node : Node) (kind : Tag) : Except Failure Value :=
  match node.text? with
  | none => .error .notDocument
  | some text =>
    match kind with
    | .null => .ok .null
    | .bool => (readTruth text).map .bool
    | .int => (readWhole text).map .int
    | .float => (readFloat text).map .double
    | .binary => (readBinary text).map .bytes
    | .timestamp =>
      match node with
      | scalar _ text => readTimestamp text
      | _ => .error (.fault .wrongKind)
    | _ => .ok (.text text)

/-- Entries as those of a map. -/
def collectEntries (entries : List (Value × Value)) : List (Value × Value) :=
  entries.foldl (fun entries (key, value) => Value.setEntry key value entries) []

/-- The value of a node that is read at a level; all of it at once, or collections by level. -/
def build (atOnce : Bool) (level : Nat) (node : Node) : Nat → Built Value
  | 0 => .error ⟨level, .notDocument⟩
  | fuel + 1 =>
    let below := if atOnce then level else level + 1
    let refuse {β : Type} : Built β := .error ⟨below, .notDocument⟩
    let entry := fun ((key, value) : Node × Node) =>
      let key := key.build true below fuel
      let usable := key.bind fun key => if key.isKey then .ok key else refuse
      both usable (value.build atOnce below fuel)
    let entries : Unit → Built (List (Value × Value)) := fun _ =>
      match node.mergedEntries with
      | .error failure => .error ⟨below, failure⟩
      | .ok entries => (gather (entries.map entry)).map collectEntries
    match node.tag with
    | .sequence =>
      match node with
      | sequence _ items => (gather (items.map (·.build atOnce below fuel))).map .list
      | _ => refuse
    | .mapping => (entries ()).map .map
    | .set => (entries ()).map fun entries => .set (entries.map Prod.fst)
    | .orderedMap | .pairs =>
      match node with
      | sequence _ items =>
        (gather (items.map fun
          | mapping _ [(key, value)] =>
            (both (key.build atOnce below fuel) (value.build atOnce below fuel)).map
              fun (key, value) => Value.tuple [key, value]
          | _ => refuse)).map .list
      | _ => refuse
    | .merge | .default | .unknown => .error ⟨level, .notDocument⟩
    | kind => (node.scalarValue kind).mapError fun failure => ⟨level, failure⟩

mutual

/-- More than the number of nodes on the way to any node within. -/
def depth : Node → Nat
  | scalar _ _ => 1
  | sequence _ items => depthOfItems items + 1
  | mapping _ entries => depthOfEntries entries + 1

/-- The greatest depth of items. -/
def depthOfItems : List Node → Nat
  | [] => 0
  | item :: rest => max item.depth (depthOfItems rest)

/-- The greatest depth of keys and values. -/
def depthOfEntries : List (Node × Node) → Nat
  | [] => 0
  | (key, value) :: rest => max (max key.depth value.depth) (depthOfEntries rest)

end

/-- The value of a node. -/
def value (node : Node) : Except Failure Value :=
  (node.build false 0 node.depth).mapError Flaw.failure

end Node

/-- The value of the only document of a stream, null of an empty one. -/
def read (text : List Char) : Except Failure Value := do
  match ← Node.ofTokens? (tokensOf text) with
  | some node => node.value
  | none => return .null

end Montage.Yaml
