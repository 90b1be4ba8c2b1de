import LabelPress.Yaml.Layout
import LabelPress.Yaml.Scalar

/-!
# Nodes of a document

The tokens of a document describe scalars, sequences and mappings, each with a tag. Anchors name
nodes, and an alias stands for the very node so named; it may even stand inside it. So the nodes of
a document form a graph: they are numbered, and a collection holds the numbers of its parts.

* `Node`, `Graph`: the nodes.
* `graph?`: the graph of a document; more than one document is refused.

A token is looked at only when it decides what comes next, because what is wrong first is told.
Collections nest no deeper than `depthLimit`. Each call of a reader has taken a token since the last
but two, so three times the number of tokens bounds how deep the calls nest.
-/

namespace LabelPress.Yaml

/-- A node with its tag. -/
inductive Node where
  /-- A scalar. -/
  | scalar (tag : List Char) (text : Letters)
  /-- A sequence of nodes. -/
  | sequence (tag : List Char) (items : List Nat)
  /-- Keys and values, in the order in which they are written. -/
  | mapping (tag : List Char) (pairs : List (Nat × Nat))
deriving Repr, DecidableEq

/-- The tag of a node. -/
def Node.tag : Node → List Char
  | scalar t _ | sequence t _ | mapping t _ => t

/-- The nodes of a document. -/
structure Graph where
  /-- The nodes by their numbers. -/
  nodes : Array Node
  /-- The number of the node that the document is. -/
  root : Nat
deriving Repr

/-- What is known while nodes are read. -/
structure Growth where
  /-- The tokens still to be read. -/
  tokens : TokenStream
  /-- What handles of tags stand for. -/
  handles : List (List Char × List Char) := []
  /-- The nodes that have a name. -/
  anchors : List (List Char × Nat) := []
  /-- The nodes so far. -/
  nodes : Array Node := #[]
  /-- How many collections are open. -/
  depth : Nat := 0

/-- A reader of nodes. -/
abbrev Build := StateT Growth (Except SyntaxError)

namespace Build

/-- The next token; none at the end of the document. -/
def peek : Build (Option Token) := do
  let s := (← get).tokens
  match s.ready.head?, s.failure with
  | some t, _ => return some t
  | none, none => return none
  | none, some e => throw e

/-- Go past the next token. -/
def skip : Build Unit :=
  modify fun g => { g with tokens := { g.tokens with ready := g.tokens.ready.drop 1 } }

/-- Go past the next token if it is the given one. -/
def accept (t : Token) : Build Bool := do
  if (← peek) = some t then
    skip
    return true
  return false

/-- Go past the next token, which must be the given one. -/
def expect (t : Token) : Build Unit := do
  if !(← accept t) then throw .malformed

/-- Is one of these tokens the next? -/
def nextIn (ts : List Token) : Build Bool := return (← peek).any (ts.contains ·)

end Build

open Build

/-- The handles that every document knows. -/
def defaultHandles : List (List Char × List Char) :=
  [(['!'], ['!']), (['!', '!'], coreTag "")]

/-- The anchor before a node, if there is one. -/
def takeAnchor : Build (Option (List Char)) := do
  match ← peek with
  | some (.anchor name) =>
    skip
    return some name
  | _ => return none

/-- The tag before a node, if there is one: its handle and the rest of it. -/
def takeTag : Build (Option (Option (List Char) × List Char)) := do
  match ← peek with
  | some (.tag handle suffix) =>
    skip
    return some (handle, suffix)
  | _ => return none

/-- A tag with its handle replaced. -/
def expandTag : Option (Option (List Char) × List Char) → Build (Option (List Char))
  | none => return none
  | some (none, suffix) => return some suffix
  | some (some handle, suffix) => do
    match (← get).handles.lookup handle with
    | some beginning => return some (beginning ++ suffix)
    | none => throw .malformed

/-- Anchor and tag before a node, in either order. -/
def takeProperties : Build (Option (List Char) × Option (List Char)) := do
  match ← takeAnchor with
  | some name => return (some name, ← expandTag (← takeTag))
  | none =>
    match ← takeTag with
    | none => return (none, none)
    | tag => return (← takeAnchor, ← expandTag tag)

/-- The node that an alias stands for. -/
def namedNode (name : List Char) : Build Nat := do
  match (← get).anchors.lookup name with
  | some k => return k
  | none => throw .malformed

/-- Add a node; its name, if it has one, must not be another's. -/
def addNode (anchor : Option (List Char)) (node : Node) : Build Nat := do
  let g ← get
  let k := g.nodes.size
  match anchor with
  | none => set { g with nodes := g.nodes.push node }
  | some name =>
    if (g.anchors.lookup name).isSome then throw .malformed
    set { g with nodes := g.nodes.push node, anchors := (name, k) :: g.anchors }
  return k

/-- How deep collections may nest. -/
def depthLimit : Nat := 488

/-- Add a collection, which may be named inside itself. -/
def addCollection {α : Type} (anchor : Option (List Char)) (node : List α → Node)
    (parts : Build (List α)) : Build Nat := do
  let k ← addNode anchor (node [])
  let depth := (← get).depth
  if depthLimit ≤ depth then throw .tooDeep
  modify fun g => { g with depth := depth + 1 }
  let xs ← parts
  modify fun g => { g with nodes := g.nodes.setIfInBounds k (node xs), depth }
  return k

/-- The tag of a collection; an open one is left to the kind of node. -/
def collectionTag (tag : Option (List Char)) (default : String) : List Char :=
  if tag.isNone || tag = some ['!'] then coreTag default else tag.getD []

/-- A scalar as written. -/
def scalarNode (tag : Option (List Char)) (text : Letters) (isPlain : Bool) : Node :=
  let implicit := (text.chars?.map implicitTag).getD (coreTag "str")
  let tag := match tag with
    | none => if isPlain then implicit else coreTag "str"
    | some t => if t = ['!'] then implicit else t
  .scalar tag text

/-- A scalar that is not written. -/
def addEmpty : Build Nat := addNode none (scalarNode none [] true)

mutual

/-- A node. Entries that are not indented may stand for a sequence where `bare` allows it; blocks
may stand where `block` allows them. -/
def readNode : Nat → (block bare : Bool) → Build Nat
  | 0, _, _ => throw .malformed
  | n + 1, block, bare => do
    if let some (.alias name) ← peek then
      skip
      return ← namedNode name
    let (anchor, tag) ← takeProperties
    let sequence (items : Build (List Nat)) : Build Nat :=
      addCollection anchor (.sequence (collectionTag tag "seq")) items
    let mapping (pairs : Build (List (Nat × Nat))) : Build Nat :=
      addCollection anchor (.mapping (collectionTag tag "map")) pairs
    match ← peek with
    | some .blockEntry =>
      if bare then return ← sequence (readBareItems n)
    | some (.scalar text isPlain) =>
      skip
      return ← addNode anchor (scalarNode tag text isPlain)
    | some .flowSequenceStart =>
      skip
      return ← sequence (readFlowItems n true)
    | some .flowMappingStart =>
      skip
      return ← mapping (readFlowPairs n true)
    | some .blockSequenceStart =>
      if block then
        skip
        return ← sequence (readBlockItems n)
    | some .blockMappingStart =>
      if block then
        skip
        return ← mapping (readBlockPairs n)
    | _ => pure ()
    if anchor.isSome || tag.isSome then
      return ← addNode anchor (scalarNode tag [] true)
    throw .malformed

/-- A node, or an empty one if one of these tokens comes first. -/
def readNodeUnless : Nat → List Token → (block bare : Bool) → Build Nat
  | 0, _, _, _ => throw .malformed
  | n + 1, stops, block, bare => do
    if ← nextIn stops then return ← addEmpty
    readNode n block bare

/-- The entries of a block. -/
def readBlockItems : Nat → Build (List Nat)
  | 0 => throw .malformed
  | n + 1 => do
    if ← accept .blockEntry then
      let item ← readNodeUnless n [.blockEntry, .blockEnd] true false
      return item :: (← readBlockItems n)
    expect .blockEnd
    return []

/-- Entries as far indented as the keys around them. -/
def readBareItems : Nat → Build (List Nat)
  | 0 => throw .malformed
  | n + 1 => do
    if ← accept .blockEntry then
      let item ← readNodeUnless n [.blockEntry, .key, .value, .blockEnd] true false
      return item :: (← readBareItems n)
    return []

/-- The value after a key, if one is written. -/
def readBlockValue : Nat → Build Nat
  | 0 => throw .malformed
  | n + 1 => do
    if ← accept .value then readNodeUnless n [.key, .value, .blockEnd] true true
    else addEmpty

/-- The keys and values of a block. -/
def readBlockPairs : Nat → Build (List (Nat × Nat))
  | 0 => throw .malformed
  | n + 1 => do
    if ← accept .key then
      let key ← readNodeUnless n [.key, .value, .blockEnd] true true
      let value ← readBlockValue n
      return (key, value) :: (← readBlockPairs n)
    expect .blockEnd
    return []

/-- The value after a key between brackets, if one is written before `stop` or a comma. -/
def readFlowValue : Nat → (stop : Token) → Build Nat
  | 0, _ => throw .malformed
  | n + 1, stop => do
    if ← accept .value then readNodeUnless n [.flowEntry, stop] false false
    else addEmpty

/-- A key after its mark and its value, between brackets that close by `stop`. -/
def readFlowPair : Nat → (stop : Token) → Build (Nat × Nat)
  | 0, _ => throw .malformed
  | n + 1, stop => do
    let key ← readNodeUnless n [.value, .flowEntry, stop] false false
    return (key, ← readFlowValue n stop)

/-- Items between brackets; a key among them makes a mapping of one pair. -/
def readFlowItems : Nat → (first : Bool) → Build (List Nat)
  | 0, _ => throw .malformed
  | n + 1, first => do
    if ← accept .flowSequenceEnd then return []
    if !first then expect .flowEntry
    if ← accept .key then
      let item ← addCollection none (.mapping (coreTag "map"))
        (do return [← readFlowPair n .flowSequenceEnd])
      return item :: (← readFlowItems n false)
    if ← accept .flowSequenceEnd then return []
    let item ← readNode n false false
    return item :: (← readFlowItems n false)

/-- Keys and values between braces; a node without a key before it is a key without a value. -/
def readFlowPairs : Nat → (first : Bool) → Build (List (Nat × Nat))
  | 0, _ => throw .malformed
  | n + 1, first => do
    if ← accept .flowMappingEnd then return []
    if !first then expect .flowEntry
    if ← accept .key then
      let pair ← readFlowPair n .flowMappingEnd
      return pair :: (← readFlowPairs n false)
    if ← accept .flowMappingEnd then return []
    let key ← readNode n false false
    let value ← addEmpty
    return (key, value) :: (← readFlowPairs n false)

end

/-! ## Documents -/

/-- Directives before a document: one version at most, of the first major number, and each handle
once. The answer is what handles stand for. -/
def readDirectives : Nat → (seenVersion : Bool) → (handles : List (List Char × List Char)) →
    Build (List (List Char × List Char))
  | 0, _, handles => return handles
  | n + 1, seen, handles => do
    match ← peek with
    | some (.directive (.version major _)) =>
      skip
      if seen || major != 1 then throw .malformed
      readDirectives n true handles
    | some (.directive (.handle h beginning)) =>
      skip
      if (handles.lookup h).isSome then throw .malformed
      readDirectives n seen ((h, beginning) :: handles)
    | some (.directive .other) =>
      skip
      readDirectives n seen handles
    | _ => return handles

/-- The head of a document: directives and the mark of its beginning. -/
def readHead : Build Unit := do
  let handles ← readDirectives ((← get).tokens.ready.length + 1) false []
  expect .documentStart
  modify fun g => { g with handles := handles ++ defaultHandles }

/-- Is a document introduced by a mark left empty here? -/
def isLeftEmpty : Option Token → Bool
  | none | some .documentStart | some .documentEnd | some (.directive _) => true
  | _ => false

/-- The node that a document is; none at the end of the text. -/
def readDocument : Build (Option Nat) := do
  let depth := 3 * (← get).tokens.ready.length + 3
  match ← peek with
  | none => return none
  | some .documentStart | some (.directive _) =>
    readHead
    if isLeftEmpty (← peek) then return some (← addEmpty)
    return some (← readNode depth true false)
  | some _ =>
    modify fun g => { g with handles := defaultHandles }
    return some (← readNode depth true false)

/-- Go past marks of ended documents. -/
def skipEnds : Nat → Build Unit
  | 0 => return ()
  | n + 1 => do
    if ← accept .documentEnd then skipEnds n

/-- Nothing may follow a document; whatever does is read as the head of another one. -/
def readEnd : Build Unit := do
  skipEnds ((← get).tokens.ready.length + 1)
  if (← peek).isSome then
    readHead
    throw .malformed

/-- The graph of a document, none if there is no document. -/
def readGraph : Build (Option Graph) := do
  match ← readDocument with
  | none => return none
  | some root =>
    readEnd
    return some ⟨(← get).nodes, root⟩

/-- **The graph of a document.** If it holds characters that it may not hold, the portions before
them are read, because something else may be wrong there. -/
def graph? (text : List Char) : Except SyntaxError (Option Graph) :=
  let before := readable text
  let read := readGraph.run { tokens := tokens before }
  if before.length = text.length then read.map Prod.fst
  else match read with
    | .error e => .error e
    | .ok _ => .error .malformed

end LabelPress.Yaml
