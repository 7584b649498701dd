/-
Documents as plain trees, every alias replaced by what it stands for.

An alias stands for the last node that took its anchor's number, and what it stands for is marked as `shared`. Replacing goes
on in document order within two limits, on nesting and on how many aliases are followed; beyond them the tree is cut off.
-/
import TenantGateway.Yaml.Layout
import TenantGateway.Yaml.Tree

namespace TenantGateway.Yaml

inductive Node where
  | scalar (value : Scalar)
  | sequence (tag : Option (List UInt8)) (items : List Node)
  | mapping (tag : Option (List UInt8)) (entries : List (Node × Node))
  /-- what an alias stands for -/
  | shared (node : Node)
  /-- beyond the limits -/
  | cut
  deriving Repr, Inhabited

/-- the node itself, whether it was written in its place or an alias stands for it -/
def Node.bare : Node → Node
  | .shared n => n.bare
  | n => n

/-- how deep collections may be nested -/
def nestingLimit : Nat := 128

/-- how many aliases may be followed for each event of the document -/
def aliasesPerEvent : Nat := 100

namespace Tree

mutual

/-- how many events a tree amounts to: one for a leaf, two for the ends of a collection -/
def events : Tree → Nat
  | .scalar _ _ => 1
  | .alias _ => 1
  | .sequence _ _ items => 2 + itemEvents items
  | .mapping _ _ entries => 2 + entryEvents entries

def itemEvents : List Tree → Nat
  | [] => 0
  | t :: rest => t.events + itemEvents rest

def entryEvents : List (Tree × Tree) → Nat
  | [] => 0
  | (k, v) :: rest => k.events + v.events + entryEvents rest

end

mutual

/-- the nodes with an anchor, in document order -/
def anchored : Tree → List (Nat × Tree)
  | .scalar anchor value => own anchor (.scalar anchor value)
  | .alias _ => []
  | .sequence anchor tag items => own anchor (.sequence anchor tag items) ++ itemsAnchored items
  | .mapping anchor tag entries => own anchor (.mapping anchor tag entries) ++ entriesAnchored entries

def itemsAnchored : List Tree → List (Nat × Tree)
  | [] => []
  | t :: rest => t.anchored ++ itemsAnchored rest

def entriesAnchored : List (Tree × Tree) → List (Nat × Tree)
  | [] => []
  | (k, v) :: rest => k.anchored ++ v.anchored ++ entriesAnchored rest

/-- a node with the number of its anchor -/
def own (anchor : Option Nat) (t : Tree) : List (Nat × Tree) :=
  match anchor with
  | some n => [(n, t)]
  | none => []

end

/-- the last node with a number -/
def target (targets : List (Nat × Tree)) (number : Nat) : Option Tree :=
  (targets.reverse.lookup number)

mutual

/-- replace the aliases of a tree; `aliases` is how many may still be followed. `fuel` bounds the levels and the aliases -/
def expand (targets : List (Nat × Tree)) : (fuel depth aliases : Nat) → Tree → Node × Nat
  | 0, _, aliases, _ => (.cut, aliases)
  | _ + 1, _, aliases, .scalar _ value => (.scalar value, aliases)
  | _ + 1, 0, aliases, .sequence _ _ _ => (.cut, aliases)
  | _ + 1, 0, aliases, .mapping _ _ _ => (.cut, aliases)
  | fuel + 1, depth + 1, aliases, .sequence _ tag items =>
    let (items, aliases) := expandItems targets fuel depth aliases items
    (.sequence tag items, aliases)
  | fuel + 1, depth + 1, aliases, .mapping _ tag entries =>
    let (entries, aliases) := expandEntries targets fuel depth aliases entries
    (.mapping tag entries, aliases)
  | fuel + 1, depth, aliases, .alias number =>
    match aliases, target targets number with
    | left + 1, some t =>
      let (node, left) := expand targets fuel depth left t
      (.shared node, left)
    | left, _ => (.cut, left)

def expandItems (targets : List (Nat × Tree)) : (fuel depth aliases : Nat) → List Tree → List Node × Nat
  | 0, _, aliases, _ => ([], aliases)
  | _ + 1, _, aliases, [] => ([], aliases)
  | fuel + 1, depth, aliases, t :: rest =>
    let (node, aliases) := expand targets fuel depth aliases t
    let (nodes, aliases) := expandItems targets fuel depth aliases rest
    (node :: nodes, aliases)

def expandEntries (targets : List (Nat × Tree)) :
    (fuel depth aliases : Nat) → List (Tree × Tree) → List (Node × Node) × Nat
  | 0, _, aliases, _ => ([], aliases)
  | _ + 1, _, aliases, [] => ([], aliases)
  | fuel + 1, depth, aliases, (k, v) :: rest =>
    let (key, aliases) := expand targets fuel depth aliases k
    let (value, aliases) := expand targets fuel depth aliases v
    let (entries, aliases) := expandEntries targets fuel depth aliases rest
    ((key, value) :: entries, aliases)

end

/-- the tree without aliases -/
def toNode (t : Tree) : Node :=
  let aliases := aliasesPerEvent * t.events
  (expand t.anchored (nestingLimit * (t.events + 1) + aliases + 1) nestingLimit aliases t).1

end Tree

/-- the document of a text, if the text is well formed -/
def Node.ofText? (cs : List Char) : Option Node :=
  (Token.ofText? cs).bind fun tokens => (Tree.ofTokens? tokens).map Tree.toNode

end TenantGateway.Yaml
