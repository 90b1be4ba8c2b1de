import LabelPress.Yaml.Document
import Mathlib

/-!
# Why a document has no value

Most texts that have no document break a rule of the notation. All others can be blamed on a part of
the text: an escape or a version number that the reader cannot take, brackets that nest too deep, or
a node whose tag asks for a value that its text does not spell. While values are made, nodes change
only in that merge keys are replaced, so what is blamed stands in the text as it was read.

* `Node.Becomes`, `Graph.Yields`: how nodes change.
* `Graph.Blames`: the nodes that have no value.
* `Tame`: a maker of values that keeps the nodes and fails for a rule or for a node that is blamed.
* `tame_valueOf`, `tame_fill`, `Graph.document_eq_error`: all makers are of this kind.
* `BlamedOn`, `blamedOn_of_document?_eq_error`: what a text without a document is blamed on.
-/

namespace LabelPress.Yaml

/-! ### Nodes that change -/

/-- A tag may become another: the sign of a mapping's own value is taken as a text. -/
def TagBecomes (tag tag' : List Char) : Prop :=
  tag' = tag ∨ tag = coreTag "value" ∧ tag' = coreTag "str"

/-- **A node may become another** while merge keys are replaced: its tag may, and the pairs of a
mapping change. -/
inductive Node.Becomes : Node → Node → Prop
  | scalar {tag tag' : List Char} (text : Letters) (h : TagBecomes tag tag') :
    Becomes (.scalar tag text) (.scalar tag' text)
  | sequence {tag tag' : List Char} (items : List Nat) (h : TagBecomes tag tag') :
    Becomes (.sequence tag items) (.sequence tag' items)
  | mapping {tag tag' : List Char} (pairs pairs' : List (Nat × Nat)) (h : TagBecomes tag tag') :
    Becomes (.mapping tag pairs) (.mapping tag' pairs')

theorem Node.Becomes.refl (n : Node) : n.Becomes n := by
  cases n with
  | scalar tag text => exact .scalar text (.inl rfl)
  | sequence tag items => exact .sequence items (.inl rfl)
  | mapping tag pairs => exact .mapping pairs pairs (.inl rfl)

/-- A node of a graph as it may be by now. -/
def Graph.HasNode (g : Graph) (k : Nat) (n' : Node) : Prop :=
  ∃ n : Node, g.nodes[k]? = some n ∧ n.Becomes n'

/-- **The nodes of a graph, some of them changed.** -/
structure Graph.Yields (g : Graph) (s : Making) : Prop where
  size_eq : s.nodes.size = g.nodes.size
  hasNode : ∀ (k : Nat) (n' : Node), s.nodes[k]? = some n' → g.HasNode k n'

/-- **A failure for which a node is to blame.** -/
inductive Graph.Blames (g : Graph) : ValueError → Prop
  /-- The text of a scalar does not fit its tag. -/
  | scalar {k : Nat} {tag : List Char} {text : Letters} {e : ValueError}
    (hk : g.nodes[k]? = some (.scalar tag text)) (h : scalarValue k tag text = .error e) :
    Blames g e
  /-- A mapping stands for a scalar, whose text does not fit the tag of the mapping. -/
  | mapping {k j : Nat} {tag tag' : List Char} {pairs : List (Nat × Nat)} {text : Letters}
    {e : ValueError} (hk : g.nodes[k]? = some (.mapping tag pairs))
    (hj : g.nodes[j]? = some (.scalar tag' text)) (h : scalarValue k tag text = .error e) :
    Blames g e
  /-- A mapping is to be a date. -/
  | date {k : Nat} {pairs : List (Nat × Nat)}
    (hk : g.nodes[k]? = some (.mapping (coreTag "timestamp") pairs)) : Blames g .notTimestampText
  /-- A mapping is to be a scalar, so that it may stand for itself. -/
  | endless {k : Nat} {tag : List Char} {pairs : List (Nat × Nat)}
    (hk : g.nodes[k]? = some (.mapping tag pairs)) (htag : tag ∈ coreTag "value" :: scalarTags) :
    Blames g .tooDeep

/-! ### Makers that are tame -/

/-- **A tame maker** keeps the nodes of a graph, fails for a rule or for a node that is to blame,
and makes something of which `Q` holds. -/
def Tame (g : Graph) {α : Type} (x : Make α) (Q : α → Prop) : Prop :=
  ∀ s, g.Yields s →
    (∀ a s', x.run s = .ok (a, s') → g.Yields s' ∧ Q a) ∧
      ∀ e, x.run s = .error e → e = .malformed ∨ g.Blames e

section Rules
variable {g : Graph} {α β : Type} {x : Make α} {Q Q' : α → Prop} {P : β → Prop}

theorem Tame.pure {a : α} (h : Q a) : Tame g (Pure.pure a) Q := by
  intro s hs
  refine ⟨fun b s' hrun => ?_, nofun⟩
  cases hrun
  exact ⟨hs, h⟩

theorem Tame.throw {e : ValueError} (h : e = .malformed ∨ g.Blames e) :
    Tame g (MonadExcept.throw e : Make α) Q := by
  intro s hs
  refine ⟨nofun, fun e' hrun => ?_⟩
  cases hrun
  exact h

theorem Tame.malformed : Tame g (MonadExcept.throw .malformed : Make α) Q :=
  .throw (.inl rfl)

theorem Tame.bind {f : α → Make β} (h : Tame g x Q) (hf : ∀ a, Q a → Tame g (f a) P) :
    Tame g (x >>= f) P := by
  intro s hs
  obtain ⟨hok, herror⟩ := h s hs
  rw [StateT.run_bind]
  cases hx : x.run s with
  | error e =>
    refine ⟨nofun, fun e' hrun => ?_⟩
    cases hrun
    exact herror e hx
  | ok p =>
    obtain ⟨hs', ha⟩ := hok p.1 p.2 hx
    exact hf p.1 ha p.2 hs'

theorem Tame.mono (h : Tame g x Q) (hQ : ∀ a, Q a → Q' a) : Tame g x Q' := by
  intro s hs
  obtain ⟨hok, herror⟩ := h s hs
  exact ⟨fun a s' hrun => ⟨(hok a s' hrun).1, hQ a (hok a s' hrun).2⟩, herror⟩

theorem Tame.get : Tame g (get : Make Making) (g.Yields ·) := by
  intro s hs
  refine ⟨fun a s' hrun => ?_, nofun⟩
  cases hrun
  exact ⟨hs, hs⟩

theorem Tame.modify {f : Making → Making} (h : ∀ s, g.Yields s → g.Yields (f s)) :
    Tame g (modify f : Make Unit) fun _ => True := by
  intro s hs
  refine ⟨fun a s' hrun => ?_, nofun⟩
  cases hrun
  exact ⟨h s hs, trivial⟩

theorem Tame.forIn {f : β → PUnit → Make (ForInStep PUnit)}
    (h : ∀ b u, Tame g (f b u) fun _ => True) (bs : List β) (u : PUnit) :
    Tame g (forIn bs u f) fun _ => True := by
  induction bs generalizing u with
  | nil => exact .pure trivial
  | cons b bs ih =>
    rw [List.forIn_cons]
    refine (h b u).bind fun step _ => ?_
    cases step with
    | done u => exact .pure trivial
    | yield u => exact ih u

theorem Tame.mapM {f : β → Make α} (h : ∀ b, Tame g (f b) Q) (bs : List β) :
    Tame g (bs.mapM f) fun _ => True := by
  induction bs with
  | nil => exact .pure trivial
  | cons b bs ih =>
    rw [List.mapM_cons]
    exact (h b).bind fun _ _ => ih.bind fun _ _ => .pure trivial

end Rules

/-! ### The makers -/

section Makers
variable {g : Graph}

theorem run_node (k : Nat) (s : Making) :
    (Make.node k).run s = match s.nodes[k]? with
      | some n => .ok (n, s)
      | none => .error ValueError.malformed := by
  unfold Make.node
  simp only [StateT.run_bind, StateT.run_get, pure_bind]
  cases s.nodes[k]? <;> rfl

theorem tame_node (k : Nat) : Tame g (Make.node k) (g.HasNode k) := by
  intro s hs
  rw [run_node]
  cases hk : s.nodes[k]? with
  | none =>
    refine ⟨nofun, fun e hrun => ?_⟩
    cases hrun
    exact .inl rfl
  | some n =>
    refine ⟨fun a s' hrun => ?_, nofun⟩
    cases hrun
    exact ⟨hs, hs.hasNode k _ hk⟩

theorem tame_setNode {k : Nat} {n : Node} (h : g.HasNode k n) :
    Tame g (Make.setNode k n) fun _ => True := by
  refine .modify fun s hs => ⟨by rw [Array.size_setIfInBounds, hs.size_eq], fun j n' hj => ?_⟩
  rw [Array.getElem?_setIfInBounds] at hj
  split_ifs at hj with hkj hlt
  · cases hj
    exact hkj ▸ h
  · exact hs.hasNode j n' hj

/-- The node at a place is a mapping. -/
def Graph.HasMapping (g : Graph) (k : Nat) : Prop :=
  ∃ tag pairs, g.nodes[k]? = some (.mapping tag pairs)

theorem tame_pairs (k : Nat) : Tame g (Make.pairs k) fun _ => g.HasMapping k := by
  unfold Make.pairs
  refine (tame_node k).bind fun n hn => ?_
  cases n with
  | mapping tag pairs =>
    obtain ⟨_, hk, hbecomes⟩ := hn
    cases hbecomes with
    | mapping pairs₀ _ _ => exact .pure ⟨_, _, hk⟩
  | _ => exact .malformed

theorem tame_items (k : Nat) : Tame g (Make.items k) fun _ => True := by
  unfold Make.items
  refine (tame_node k).bind fun n _ => ?_
  cases n with
  | sequence tag items => exact .pure trivial
  | _ => exact .malformed

theorem tame_setPairs {k : Nat} (h : g.HasMapping k) (pairs : List (Nat × Nat)) :
    Tame g (setPairs k pairs) fun _ => True := by
  unfold setPairs
  refine (tame_node k).bind fun n hn => tame_setNode ?_
  obtain ⟨tag, pairs₀, hk⟩ := h
  obtain ⟨n₀, hk', hbecomes⟩ := hn
  rw [hk] at hk'
  cases hk'
  cases hbecomes with
  | mapping _ pairs' htag => exact ⟨_, hk, .mapping pairs₀ pairs htag⟩

theorem TagBecomes.str {tag : List Char} (h : TagBecomes tag (coreTag "value")) :
    TagBecomes tag (coreTag "str") :=
  .inr ⟨h.elim Eq.symm And.left, rfl⟩

/-- The sign of a mapping's own value is renamed at most once. -/
theorem Node.Becomes.withTag {n n' : Node} (h : n.Becomes n') (htag : n'.tag = coreTag "value") :
    n.Becomes (n'.withTag (coreTag "str")) := by
  cases h with
  | scalar text h =>
    cases htag
    exact .scalar text h.str
  | sequence items h =>
    cases htag
    exact .sequence items h.str
  | mapping pairs pairs' h =>
    cases htag
    exact .mapping pairs pairs' h.str

theorem tame_nameKey (k : Nat) : Tame g (nameKey k) fun _ => True := by
  unfold nameKey
  refine (tame_node k).bind fun n hn => ?_
  split_ifs with htag
  · obtain ⟨n₀, hk, hbecomes⟩ := hn
    exact tame_setNode ⟨n₀, hk, hbecomes.withTag htag⟩
  · exact .pure trivial

theorem tame_broughtIn {settle : Nat → Make Unit} (h : ∀ k, Tame g (settle k) fun _ => True)
    (v : Nat) : Tame g (broughtIn settle v) fun _ => True := by
  unfold broughtIn
  refine (tame_node v).bind fun n _ => ?_
  cases n with
  | scalar tag text => exact .malformed
  | sequence tag items =>
    refine (Tame.mapM (Q := fun _ => True) (fun item => ?_) items).bind fun _ _ => .pure trivial
    exact (tame_pairs item).bind fun _ _ => (h item).bind fun _ _ =>
      (tame_pairs item).mono fun _ _ => trivial
  | mapping tag pairs => exact (h v).bind fun _ _ => (tame_pairs v).mono fun _ _ => trivial

/-- **Replacing merge keys** is tame. -/
theorem tame_flatten (n : Nat) (k : Nat) (merged : List (Nat × Nat)) :
    Tame g (flatten n k merged) fun _ => True := by
  induction n generalizing k merged with
  | zero => exact .malformed
  | succ n ih =>
    unfold flatten
    refine (tame_pairs k).bind fun own hk => Tame.get.bind fun s _ => ?_
    cases splitMerge? s.nodes own with
    | none =>
      refine (Tame.forIn (fun pair u => ?_) own ⟨⟩).bind fun _ _ => tame_setPairs hk _
      exact (tame_nameKey pair.1).bind fun _ _ => .pure trivial
    | some split =>
      obtain ⟨before, v, after⟩ := split
      refine (tame_setPairs hk _).bind fun _ _ => ?_
      exact (tame_broughtIn (fun k => ih k []) v).bind fun brought _ => ih k _

theorem tame_lift {α : Type} {x : Except ValueError α}
    (h : ∀ e, x = .error e → e = .malformed ∨ g.Blames e) :
    Tame g (liftM x : Make α) fun _ => True := by
  intro s hs
  cases x with
  | error e =>
    refine ⟨nofun, fun e' hrun => ?_⟩
    cases hrun
    exact h e rfl
  | ok a =>
    refine ⟨fun a' s' hrun => ?_, nofun⟩
    cases hrun
    exact ⟨hs, trivial⟩

/-- The text of a scalar. -/
theorem tame_scalarText_of_scalar {k : Nat} {tag : List Char} {text : Letters}
    (h : g.nodes[k]? = some (.scalar tag text)) (n : Nat) :
    Tame g (scalarText (n + 1) k) (· = text) := by
  unfold scalarText
  refine (tame_node k).bind fun n' hn => ?_
  obtain ⟨n₀, hk, hbecomes⟩ := hn
  rw [h] at hk
  cases hk
  cases hbecomes with
  | scalar _ _ => exact .pure rfl

/-- A sequence has no text. -/
theorem tame_scalarText_of_sequence {k : Nat} {tag : List Char} {items : List Nat}
    (h : g.nodes[k]? = some (.sequence tag items)) (n : Nat) :
    Tame g (scalarText (n + 1) k) fun _ => False := by
  unfold scalarText
  refine (tame_node k).bind fun n' hn => ?_
  obtain ⟨n₀, hk, hbecomes⟩ := hn
  rw [h] at hk
  cases hk
  cases hbecomes with
  | sequence _ _ => exact .malformed

/-- The text that a node stands for is that of a scalar. -/
theorem tame_scalarText (hdeep : g.Blames .tooDeep) (n k : Nat) :
    Tame g (scalarText n k) fun text =>
      ∃ (j : Nat) (tag : List Char), g.nodes[j]? = some (Node.scalar tag text) := by
  induction n generalizing k with
  | zero =>
    intro s hs
    refine ⟨nofun, fun e hrun => ?_⟩
    cases hrun
    exact .inr hdeep
  | succ n ih =>
    unfold scalarText
    refine (tame_node k).bind fun n' hn => ?_
    obtain ⟨n₀, hk, hbecomes⟩ := hn
    cases hbecomes with
    | scalar text h => exact .pure ⟨k, _, hk⟩
    | sequence items h => exact .malformed
    | mapping pairs pairs' h =>
      refine Tame.get.bind fun s _ => ?_
      dsimp only
      split
      · exact ih _
      · exact .malformed

/-- A failure of a scalar's value is one under the tag that was read. -/
theorem TagBecomes.eq_of_error {k : Nat} {tag tag' : List Char} {text : Letters} {e : ValueError}
    (h : TagBecomes tag tag') (he : scalarValue k tag' text = .error e) : tag' = tag := by
  rcases h with h | ⟨-, rfl⟩
  · exact h
  · rw [scalarValue, if_pos rfl] at he
    cases he

/-- The value of a scalar. -/
theorem tame_newScalar {k : Nat} {tag tag' : List Char} {text : Letters}
    (hk : g.nodes[k]? = some (.scalar tag text))
    (h : TagBecomes tag tag') :
    Tame g (liftM (scalarValue k tag' text) : Make Value) fun _ => True := by
  refine tame_lift fun e he => .inr (.scalar hk ?_)
  rw [← h.eq_of_error he]
  exact he

/-- The value of a scalar that a mapping stands for. -/
theorem tame_newMapping {k j : Nat} {tag tag' tagⱼ : List Char} {pairs : List (Nat × Nat)}
    {text : Letters} (hk : g.nodes[k]? = some (.mapping tag pairs))
    (hj : g.nodes[j]? = some (.scalar tagⱼ text)) (h : TagBecomes tag tag') :
    Tame g (do
      if tag' = coreTag "timestamp" then throw .notTimestampText
      scalarValue k tag' text : Make Value) fun _ => True := by
  split_ifs with hdate
  · have htag : tag = coreTag "timestamp" := by
      rcases h with rfl | ⟨-, rfl⟩
      · exact hdate
      · exact absurd hdate (by decide)
    exact Tame.bind (Q := fun _ => False) (.throw (.inr (.date (htag ▸ hk)))) fun _ h => h.elim
  · refine tame_lift fun e he => .inr (.mapping hk hj ?_)
    rw [← h.eq_of_error he]
    exact he

/-- **A new value** is tame. -/
theorem tame_newValue (k : Nat) : Tame g (newValue k) fun _ => True := by
  unfold newValue
  refine (tame_node k).bind fun n hn => ?_
  by_cases hcollection : collectionTags.contains n.tag = true
  · rw [if_pos hcollection]
    exact Tame.bind (Q := fun _ => True) (.modify fun s hs => ⟨hs.size_eq, hs.hasNode⟩)
      fun _ _ => .pure trivial
  rw [if_neg hcollection]
  by_cases hscalar : n.tag ∈ scalarTags
  · rw [if_neg (by simp [hscalar])]
    refine Tame.get.bind fun s hs => ?_
    obtain ⟨n₀, hk, hbecomes⟩ := hn
    have hlt : k < g.nodes.size := (Array.getElem?_eq_some_iff.1 hk).1
    obtain ⟨m, hm⟩ := Nat.exists_eq_succ_of_ne_zero (Nat.ne_zero_of_lt hlt)
    rw [hs.size_eq, hm]
    cases hbecomes with
    | scalar text h =>
      refine (tame_scalarText_of_scalar hk m).bind fun text' htext => ?_
      subst htext
      rw [if_neg (by simp)]
      exact tame_newScalar hk h
    | sequence items h => exact (tame_scalarText_of_sequence hk m).bind fun _ h => h.elim
    | @mapping tag tag' pairs pairs' h =>
      have hdeep : g.Blames .tooDeep := by
        refine .endless hk ?_
        rcases h with rfl | ⟨rfl, -⟩
        · exact List.mem_cons_of_mem _ hscalar
        · exact List.mem_cons_self
      refine (tame_scalarText hdeep _ k).bind fun text ⟨j, tagⱼ, hj⟩ => ?_
      simpa [Node.tag] using tame_newMapping hk hj h
  · rw [if_pos (by simp [hscalar])]
    exact Tame.bind (Q := fun _ => False) .malformed fun _ h => h.elim

/-- **The value of a node** is tame. -/
theorem tame_valueOf (k : Nat) : Tame g (valueOf k) fun _ => True := by
  unfold valueOf
  refine Tame.get.bind fun s _ => ?_
  split
  · exact .pure trivial
  · refine (tame_newValue k).bind fun v _ => ?_
    exact Tame.bind (Q := fun _ => True) (.modify fun s hs => ⟨hs.size_eq, hs.hasNode⟩)
      fun _ _ => .pure trivial

theorem tame_mappingOf (k : Nat) : Tame g (mappingOf k) fun _ => True := by
  unfold mappingOf
  refine (tame_pairs k).bind fun _ _ => Tame.get.bind fun s _ => ?_
  refine (tame_flatten _ k []).bind fun _ _ => (tame_pairs k).bind fun own _ => ?_
  refine (Tame.mapM (Q := fun _ => True) (fun pair => ?_) own).bind fun _ _ => .pure trivial
  refine (tame_valueOf pair.1).bind fun key _ => ?_
  split_ifs
  · exact Tame.bind (Q := fun _ => False) .malformed fun _ h => h.elim
  · exact (tame_valueOf pair.2).bind fun _ _ => .pure trivial

theorem tame_pairOf (k : Nat) : Tame g (pairOf k) fun _ => True := by
  unfold pairOf
  refine (tame_pairs k).bind fun own _ => ?_
  split
  · exact (tame_valueOf _).bind fun _ _ => (tame_valueOf _).bind fun _ _ => .pure trivial
  · exact .malformed

/-- **Filling a collection** is tame. -/
theorem tame_fill (k : Nat) : Tame g (fill k) fun _ => True := by
  have hset (c : Collection) : Tame g (do
      let c ← pure c
      modify fun s => { s with collections := s.collections.setIfInBounds k c } : Make Unit)
        fun _ => True :=
    Tame.bind (Q := fun _ => True) (.pure trivial)
      fun c _ => .modify fun s hs => ⟨hs.size_eq, hs.hasNode⟩
  unfold fill
  refine (tame_node k).bind fun n _ => ?_
  dsimp only
  split_ifs
  · exact (tame_items k).bind fun items _ =>
      (Tame.mapM tame_valueOf items).bind fun _ _ => hset _
  · exact (tame_mappingOf k).bind fun _ _ => hset _
  · exact (tame_mappingOf k).bind fun _ _ => hset _
  · exact (tame_items k).bind fun items _ =>
      (Tame.mapM tame_pairOf items).bind fun _ _ => hset _

theorem tame_fillFrom (n i : Nat) : Tame g (fillFrom n i) fun _ => True := by
  induction n generalizing i with
  | zero => exact .pure trivial
  | succ n ih =>
    unfold fillFrom
    refine Tame.get.bind fun s _ => ?_
    cases s.met[i]? with
    | none => exact .pure trivial
    | some k => exact (tame_fill k).bind fun _ _ => ih (i + 1)

end Makers

/-- **A graph without a document** breaks a rule, or a node is to blame. -/
theorem Graph.document_eq_error {g : Graph} {e : ValueError} (h : g.document = .error e) :
    e = .malformed ∨ g.Blames e := by
  let make : Make Value := do
    let root ← valueOf g.root
    fillFrom g.nodes.size 0
    return root
  let start : Making :=
    { nodes := g.nodes, values := Array.replicate g.nodes.size none
      collections := Array.replicate g.nodes.size (.sequence []) }
  have htame : Tame g make fun _ => True :=
    (tame_valueOf g.root).bind fun _ _ => (tame_fillFrom _ _).bind fun _ _ => .pure trivial
  obtain ⟨-, herror⟩ := htame start ⟨rfl, fun k n hk => ⟨n, hk, .refl n⟩⟩
  have hdocument : g.document = (make.run start).map fun p => ⟨p.1, p.2.collections⟩ := rfl
  rw [hdocument] at h
  cases hrun : make.run start with
  | error e' =>
    rw [hrun] at h
    cases h
    exact herror e hrun
  | ok p =>
    rw [hrun] at h
    cases h

/-- **What a text is blamed on** that has no document although it keeps the rules: a part that
cannot be read, or a node that has no value. -/
def BlamedOn (text : List Char) (e : ValueError) : Prop :=
  (∃ s, graph? text = .error s ∧ s ≠ .malformed ∧ e = .ofSyntax s) ∨
    ∃ g, graph? text = .ok (some g) ∧ g.Blames e

theorem blamedOn_of_document?_eq_error {text : List Char} {e : ValueError}
    (h : document? text = .error e) (hne : e ≠ .malformed) : BlamedOn text e := by
  unfold document? at h
  cases hgraph : graph? text with
  | error s =>
    rw [hgraph] at h
    cases h
    exact .inl ⟨s, hgraph, fun hs => hne (by rw [hs]; rfl), rfl⟩
  | ok g =>
    rw [hgraph] at h
    cases g with
    | none => cases h
    | some g => exact .inr ⟨g, hgraph, (Graph.document_eq_error h).resolve_left hne⟩

end LabelPress.Yaml
