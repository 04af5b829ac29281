import ResourceScaffold.Yaml.Node

/-!
# Merges of mappings

A mapping takes in the entries of others under keys that are marks of merges. The entries taken in stand before its own,
so that its own ones win; of several mappings the first one wins. A mapping is merged in place, once: the keys that are
marks of merges are gone afterwards, so that a mapping may even take in itself.
-/

namespace ResourceScaffold.Yaml

/-- The tag of the node at a place. -/
def tagAt (nodes : Array Node) (place : Nat) : Tag :=
  (nodes[place]?.map Node.tag).getD .other

/-- What the node at a place holds. -/
def contentAt (nodes : Array Node) (place : Nat) : Content :=
  (nodes[place]?.map Node.content).getD (.sequence [])

/-- The entries of the mapping at a place. -/
def entriesAt? (nodes : Array Node) (place : Nat) : Option (List (Nat × Nat)) :=
  match contentAt nodes place with
  | .mapping entries => some entries
  | _ => none

/-- The nodes with other entries in the mapping at a place. -/
def setEntries (nodes : Array Node) (place : Nat) (entries : List (Nat × Nat)) : Array Node :=
  nodes.modify place fun n => { n with content := .mapping entries }

/-- The entries before the first mark of a merge, what is to be taken in there, and the entries after it. -/
def splitMerge? (nodes : Array Node) : List (Nat × Nat) → Option (List (Nat × Nat) × Nat × List (Nat × Nat))
  | [] => none
  | entry :: rest =>
      if tagAt nodes entry.1 = .merge then some ([], entry.2, rest)
      else (splitMerge? nodes rest).map fun (before, source, after) => (entry :: before, source, after)

/-- Makes texts of the keys that are marks of defaults. -/
def plainDefaults (nodes : Array Node) (entries : List (Nat × Nat)) : Array Node :=
  entries.foldl (fun nodes (key, _) =>
    if tagAt nodes key = .default then nodes.modify key fun n => { n with tag := .text } else nodes) nodes

/-- Merges the mapping at a place, which takes in `taken` and what it asks for. -/
def mergeAt : Nat → List (Nat × Nat) → Array Node → Nat → Except ReadError (Array Node)
  | 0, _, _, _ => .error .tooDeep
  | fuel + 1, taken, nodes, place =>
      match entriesAt? nodes place with
      | none => .error .malformed
      | some entries =>
          match splitMerge? nodes entries with
          | none => .ok (setEntries (plainDefaults nodes entries) place (taken ++ entries))
          | some (before, source, after) =>
              let nodes := setEntries nodes place (before ++ after)
              let sources := match contentAt nodes source with
                | .sequence items => items
                | _ => [source]
              let merged := sources.foldlM (fun (found : Array Node × List (List (Nat × Nat))) source => do
                let nodes ← mergeAt fuel [] found.1 source
                return (nodes, ((entriesAt? nodes source).getD []) :: found.2)) (nodes, [])
              match merged with
              | .error e => .error e
              | .ok (nodes, groups) => mergeAt fuel (taken ++ groups.flatten) nodes place

/-- The count of marks of merges. Each merge uses one up, so that it bounds how deeply merges call each other. -/
def mergeCount (nodes : Array Node) : Nat :=
  nodes.foldl (fun count n => match n.content with
    | .mapping entries => count + (entries.filter fun (key, _) => tagAt nodes key = .merge).length
    | _ => count) 0

end ResourceScaffold.Yaml
