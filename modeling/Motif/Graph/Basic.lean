import Motif.Pattern.Atom

/-!
# Pattern graphs (specification §9, E4)

A compiled pattern is a graph of numbered nodes. A node knows what comes after it: the node to try
against the symbol after its own, or nothing where its scope ends there. A scope is the whole
pattern, or the body of a repetition or a negation.

Nodes are numbered so that every link leads to a smaller number (`Graph.descends`). Walks along
links therefore end, and whether a node can be passed without a symbol is known from the nodes
before it.

`Node` and `Graph` are a `MatcherNode` and a `PatternGraph`, with `node`, `is_nullable` and
`has_start_anchor`.

Out of scope: how nodes are stored. Their numbers are natural numbers, so there is no bound on the
size of a graph.
-/

namespace Motif

variable [RegexEngine]

namespace Graph

/-- A node of a pattern graph. `next` and `exit` are what comes after the node; the elements of a
sequence and the branches of an alternation already lead there. -/
inductive Node where
  | atom (a : Pattern.Atom) (next : Option Nat)
  | anchor (s : Sentinel) (next : Option Nat)
  | sequence (head : Nat) (exit : Option Nat)
  | alternation (branches : List Nat) (exit : Option Nat)
  | repetition (body : Nat) (span : Pattern.Span) (next : Option Nat)
  | negation (body : Nat) (next : Option Nat)
  deriving DecidableEq

namespace Node

/-- What comes after a node. -/
def next : Node → Option Nat
  | atom _ next | anchor _ next | repetition _ _ next | negation _ next => next
  | sequence _ exit | alternation _ exit => exit

/-- The nodes that a node contains. -/
def parts : Node → List Nat
  | atom .. | anchor .. => []
  | sequence head _ => [head]
  | alternation branches _ => branches
  | repetition body .. | negation body _ => [body]

/-- All nodes that a node leads to. -/
def links (n : Node) : List Nat :=
  n.parts ++ n.next.toList

/-- Whether the scope of a node can end without a symbol from the node on, when `nullable` says so
of the nodes it leads to. -/
def isNullable (nullable : Nat → Bool) : Node → Bool
  | atom .. | anchor .. | negation .. => false
  | sequence head _ => nullable head
  | alternation branches _ => branches.any nullable
  | repetition body span next => (span.min == 0 || nullable body) && next.all nullable

/-- Whether a node is the anchor of the start. -/
def isStartAnchor : Node → Bool
  | anchor .start _ => true
  | _ => false

/-- For each node in order, whether its scope can end from there without a symbol. -/
def nullableFlags (nodes : Array Node) : Array Bool :=
  nodes.foldl (fun flags n => flags.push (n.isNullable (flags.getD · false))) #[]

/-- Whether every link of every node leads to a smaller number. -/
def Descending (nodes : Array Node) : Prop :=
  ∀ (id : Nat) (n : Node), nodes[id]? = some n → ∀ l ∈ n.links, l < id

end Node

end Graph

/-- The graph of a compiled pattern. -/
structure Graph where
  nodes : Array Graph.Node
  entry : Nat
  entry_lt : entry < nodes.size
  descends : Graph.Node.Descending nodes
  nullable : Array Bool := Graph.Node.nullableFlags nodes
  nullable_eq : nullable = Graph.Node.nullableFlags nodes := by rfl
  /-- Whether the pattern asks anywhere for the start of the text. -/
  hasStartAnchor : Bool
  hasStartAnchor_eq : hasStartAnchor = nodes.any (·.isStartAnchor)

namespace Graph

/-- The node of a number. -/
def node? (g : Graph) (id : Nat) : Option Node :=
  g.nodes[id]?

/-- Whether the scope of a node can end from there without a symbol. -/
def isNullable (g : Graph) (id : Nat) : Bool :=
  g.nullable.getD id false

theorem link_lt {g : Graph} {id l : Nat} {n : Node} (h : g.node? id = some n) (hl : l ∈ n.links) :
    l < id :=
  g.descends id n h l hl

end Graph

end Motif
