import LabelPress.Yaml.Node
import LabelPress.Yaml.ScalarValue

/-!
# The document of a text

Values are made of the nodes of a graph. A scalar has its value at once; a collection has its place
at once and is filled in its turn, after those that were met before it, so that it can stand inside
itself. Before a mapping is filled, its merge keys are replaced by the pairs of the mappings that
they bring in, over which its own pairs have precedence.

* `flatten`: the merge keys of a mapping replaced.
* `valueOf`: the value of a node.
* `fill`: the parts of a collection.
* `document?`: the document of a text.
-/

namespace LabelPress.Yaml

/-- What is known while values are made. -/
structure Making where
  /-- The nodes, some of which have had their merge keys replaced. -/
  nodes : Array Node
  /-- The nodes that have a value, and the value. -/
  values : Array (Option Value)
  /-- The collections at the places of their nodes. -/
  collections : Array Collection
  /-- The collections in the order in which they are to be filled. -/
  met : Array Nat := #[]

/-- A maker of values. -/
abbrev Make := StateT Making (Except ValueError)

namespace Make

/-- A node. -/
def node (k : Nat) : Make Node := do
  match (← get).nodes[k]? with
  | some n => return n
  | none => throw .malformed

/-- Change a node. -/
def setNode (k : Nat) (n : Node) : Make Unit :=
  modify fun s => { s with nodes := s.nodes.setIfInBounds k n }

/-- The pairs of a mapping. -/
def pairs (k : Nat) : Make (List (Nat × Nat)) := do
  match ← node k with
  | .mapping _ pairs => return pairs
  | _ => throw .malformed

/-- The items of a sequence. -/
def items (k : Nat) : Make (List Nat) := do
  match ← node k with
  | .sequence _ items => return items
  | _ => throw .malformed

end Make

open Make

/-! ## Merge keys -/

/-- Change the pairs of a mapping. -/
def setPairs (k : Nat) (pairs : List (Nat × Nat)) : Make Unit := do
  setNode k (.mapping (← node k).tag pairs)

/-- Is a node a merge key? -/
def isMergeKey (nodes : Array Node) (k : Nat) : Bool :=
  (nodes[k]?.map Node.tag) = some (coreTag "merge")

/-- How many merge keys the mappings among nodes have. -/
def mergeCount (nodes : Array Node) : Nat :=
  nodes.foldl (fun n node => match node with
    | .mapping _ pairs => n + pairs.countP fun (k, _) => isMergeKey nodes k
    | _ => n) 0

/-- The node with another tag. -/
def Node.withTag (tag : List Char) : Node → Node
  | .scalar _ text => .scalar tag text
  | .sequence _ items => .sequence tag items
  | .mapping _ pairs => .mapping tag pairs

/-- The sign of a mapping's own value becomes a text if the mapping is taken as one. -/
def nameKey (k : Nat) : Make Unit := do
  let n ← node k
  if n.tag = coreTag "value" then setNode k (n.withTag (coreTag "str"))

/-- The first merge key among pairs: what precedes it, its value, and what follows. -/
def splitMerge? (nodes : Array Node) :
    List (Nat × Nat) → Option (List (Nat × Nat) × Nat × List (Nat × Nat))
  | [] => none
  | (k, v) :: rest =>
    if isMergeKey nodes k then some ([], v, rest)
    else (splitMerge? nodes rest).map fun (before, w, after) => ((k, v) :: before, w, after)

/-- The pairs that the value of a merge key brings in, once the merge keys of their mappings are
replaced: those of a mapping, or of several, of which the first has precedence. -/
def broughtIn (settle : (k : Nat) → Make Unit) (v : Nat) : Make (List (Nat × Nat)) := do
  match ← node v with
  | .mapping _ _ =>
    settle v
    pairs v
  | .sequence _ items =>
    let each ← items.mapM fun item => do
      let _ ← pairs item
      settle item
      pairs item
    return each.reverse.flatten
  | .scalar _ _ => throw .malformed

/-- **Replace the merge keys of a mapping**; `merged` are the pairs that earlier ones brought in.
Each call finds one merge key less in the graph. -/
def flatten : Nat → (k : Nat) → (merged : List (Nat × Nat)) → Make Unit
  | 0, _, _ => throw .malformed
  | n + 1, k, merged => do
    let own ← pairs k
    match splitMerge? (← get).nodes own with
    | none =>
      for (key, _) in own do
        nameKey key
      setPairs k (merged ++ own)
    | some (before, v, after) =>
      setPairs k (before ++ after)
      let brought ← broughtIn (flatten n · []) v
      flatten n k (merged ++ brought)

/-! ## Values -/

/-- The text that a scalar is, or that a mapping stands for: that of the value under the first sign
of its own value. -/
def scalarText : Nat → (k : Nat) → Make Letters
  | 0, _ => throw .tooDeep
  | n + 1, k => do
    match ← node k with
    | .scalar _ text => return text
    | .sequence _ _ => throw .malformed
    | .mapping _ pairs =>
      let nodes := (← get).nodes
      match pairs.find? fun (key, _) => (nodes[key]?.map Node.tag) = some (coreTag "value") with
      | some (_, v) => scalarText n v
      | none => throw .malformed

/-- The tags of collections. -/
def collectionTags : List (List Char) := ["seq", "map", "set", "omap", "pairs"].map coreTag

/-- The value that a node is given. -/
def newValue (k : Nat) : Make Value := do
  let n ← node k
  if collectionTags.contains n.tag then
    modify fun s => { s with met := s.met.push k }
    return .collection k
  if !scalarTags.contains n.tag then throw .malformed
  let text ← scalarText (← get).nodes.size k
  if n.tag = coreTag "timestamp" ∧ n matches .mapping .. then throw .notTimestampText
  scalarValue k n.tag text

/-- **The value of a node**; a node has one value, wherever it stands. -/
def valueOf (k : Nat) : Make Value := do
  match ((← get).values[k]?).join with
  | some v => return v
  | none =>
    let v ← newValue k
    modify fun s => { s with values := s.values.setIfInBounds k (some v) }
    return v

/-- The pairs of a mapping, its merge keys replaced. -/
def mappingOf (k : Nat) : Make (List (Value × Value)) := do
  let _ ← pairs k
  flatten (mergeCount (← get).nodes + 1) k []
  let made ← (← pairs k).mapM fun (key, value) => do
    let key ← valueOf key
    if !key.isKey then throw .malformed
    return (key, ← valueOf value)
  return Value.ofPairs made

/-- An item of an ordered mapping, which is written as a mapping of one pair. -/
def pairOf (k : Nat) : Make Value := do
  match ← pairs k with
  | [(key, value)] => return .pair (← valueOf key) (← valueOf value)
  | _ => throw .malformed

/-- **The parts of a collection.** -/
def fill (k : Nat) : Make Unit := do
  let tag := (← node k).tag
  let c ←
    if tag = coreTag "seq" then do pure (.sequence (← (← items k).mapM valueOf))
    else if tag = coreTag "map" then do pure (.mapping (← mappingOf k))
    else if tag = coreTag "set" then do pure (.set ((← mappingOf k).map (·.1)))
    else do pure (.sequence (← (← items k).mapM pairOf))
  modify fun s => { s with collections := s.collections.setIfInBounds k c }

/-- Fill the collections that were met, from the one after so many on; `n` is no less than their
number. -/
def fillFrom : Nat → (i : Nat) → Make Unit
  | 0, _ => return ()
  | n + 1, i => do
    if let some k := (← get).met[i]? then
      fill k
      fillFrom n (i + 1)

/-- The document of a graph. -/
def Graph.document (g : Graph) : Except ValueError Document := do
  let make : Make Value := do
    let root ← valueOf g.root
    fillFrom g.nodes.size 0
    return root
  let n := g.nodes.size
  let (root, s) ← make.run
    { nodes := g.nodes, values := Array.replicate n none
      collections := Array.replicate n (.sequence []) }
  return ⟨root, s.collections⟩

/-- **The document of a text**; an empty one says nothing. -/
def document? (text : List Char) : Except ValueError Document :=
  match graph? text with
  | .error e => .error (.ofSyntax e)
  | .ok none => .ok {}
  | .ok (some g) => g.document

end LabelPress.Yaml
