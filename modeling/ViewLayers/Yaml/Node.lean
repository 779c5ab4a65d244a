/-!
# Nodes of a document

The structure of a document before its scalars have a meaning. Anchors are numbered; an alias
refers to a number.
-/

namespace ViewLayers.Yaml

inductive Node where
  | scalar (tag : Option (List Char)) (plain : Bool) (text : List Char)
  | sequence (tag : Option (List Char)) (items : List Node)
  | mapping (tag : Option (List Char)) (entries : List (Node × Node))
  | alias (number : Nat)
  deriving Inhabited

namespace Node

def missing : Node := .scalar none true []

mutual

/-- The events of a node: one for a scalar or alias, a start and an end for a collection. -/
def eventCount : Node → Nat
  | .scalar .. | .alias _ => 1
  | .sequence _ items => 2 + eventCountItems items
  | .mapping _ entries => 2 + eventCountEntries entries

def eventCountItems : List Node → Nat
  | [] => 0
  | n :: ns => eventCount n + eventCountItems ns

def eventCountEntries : List (Node × Node) → Nat
  | [] => 0
  | (k, v) :: es => eventCount k + eventCount v + eventCountEntries es

end

end Node

structure Anchored where
  number : Nat
  turn : Nat
  node : Node

structure Document where
  root : Node
  anchored : List Anchored

namespace Document

def node? (d : Document) (number : Nat) : Option Node :=
  ((d.anchored.filter fun a => a.number = number).foldl
    (fun best a => match best with
      | some b => if b.turn < a.turn then some a else best
      | none => some a)
    (none : Option Anchored)).map Anchored.node

end Document

end ViewLayers.Yaml
