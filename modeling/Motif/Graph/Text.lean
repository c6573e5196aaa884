import Motif.Graph.Basic

/-!
# Graphs as text (specification E5)

A graph is written in the notation of patterns by following its links. A chain runs from a node
over what comes after it to the end of the scope, or up to a given node: what comes after a group or
an alternation is not part of it.

`chain` is `write_chain` and `write_node` in one. Out of scope: writing to a formatter that may
fail.
-/

namespace Motif.Graph

variable [RegexEngine]

/-- The sign of an anchor. -/
def anchorText : Sentinel → String
  | .start => "^"
  | .finish => "$"

/-- Texts separated by single spaces. -/
def spaced (texts : List String) : String :=
  " ".intercalate texts

/-- The texts of the nodes in the chain from a node up to `stop`. -/
def chain (g : Graph) (stop : Option Nat) (id : Nat) : List String :=
  if some id = stop then []
  else
    match h : g.node? id with
    | none => []
    | some n =>
      let inner (stop : Option Nat) (l : {l // l ∈ n.parts}) : String := spaced (chain g stop l.1)
      let parts := n.parts.attach
      let text := match n with
        | .atom a _ => a.text
        | .anchor s _ => anchorText s
        | .sequence _ exit => "(" ++ spaced (parts.map (inner exit)) ++ ")"
        | .alternation _ exit => "[" ++ spaced (parts.map (inner exit)) ++ "]"
        | .repetition _ span _ => spaced (parts.map (inner none)) ++ span.text
        | .negation .. => "!" ++ spaced (parts.map (inner none))
      text :: match _hn : n.next with
        | none => []
        | some next => chain g stop next
termination_by id
decreasing_by
  · exact link_lt h (List.mem_append_left _ l.2)
  · exact link_lt h (List.mem_append_right _ (by simp [_hn]))

/-- A graph in the notation of patterns, without brackets around the whole. -/
def text (g : Graph) : String :=
  match g.node? g.entry with
  | some (.sequence head none) => spaced (g.chain none head)
  | _ => spaced (g.chain none g.entry)

end Motif.Graph
