import ResourceScaffold.Value.Key
import ResourceScaffold.Yaml.Merge
import ResourceScaffold.Yaml.ScalarValue

/-!
# Values of documents

The value of a document is assembled level by level: a scalar has its value at once, and a collection waits in a queue
until the collections met before it are filled. The first fault in this order is the one that is reported. Once every
collection is filled, the values are put together in the order in which the nodes end.
-/

namespace ResourceScaffold.Yaml

/-- What is known of the value of a node. -/
inductive Part where
  | scalar (v : Value)
  /-- A collection that waits to be filled. -/
  | waiting
  | list (items : List Nat)
  | pairs (entries : List (Nat × Nat))
  | set (keys : List Value)
  | mapping (entries : Table Nat)
  deriving Repr, Inhabited

/-- A document whose value is being assembled. -/
structure Assembly where
  nodes : Array Node
  /-- What is known of each node. -/
  parts : Array (Option Part)
  /-- The collections in the order in which they were met. -/
  queue : Array Nat := #[]
  /-- A bound of the depth of merges. -/
  merges : Nat
  deriving Inhabited

namespace Assembly

/-- The text of a node that is read as a scalar. A mapping is read as its default, if it marks one. -/
def textAt (nodes : Array Node) : Nat → Nat → Except ReadError WideText
  | 0, _ => .error .tooDeep
  | fuel + 1, place =>
      match contentAt nodes place with
      | .scalar text => .ok text
      | .sequence _ => .error .malformed
      | .mapping entries =>
          match entries.find? fun (key, _) => tagAt nodes key = .default with
          | some (_, value) => textAt nodes fuel value
          | none => .error .malformed

/-- The value of a node that is read as a scalar. The default of a mapping is no date. -/
def scalarAt (nodes : Array Node) (place : Nat) : Except ReadError Value :=
  match tagAt nodes place with
  | .merge | .default | .other => .error .malformed
  | tag => do
      let text ← textAt nodes (nodes.size + 1) place
      match tag, contentAt nodes place with
      | .timestamp, .mapping _ => .error .dateAsMapping
      | _, _ => scalarValue tag text

/-- Sets what is known of a node. -/
def setPart (a : Assembly) (place : Nat) (part : Part) : Assembly :=
  { a with parts := a.parts.setIfInBounds place (some part) }

/-- Meets a node: a scalar gets its value, a collection its place in the queue. -/
def visit (a : Assembly) (place : Nat) : Except ReadError Assembly :=
  match a.parts[place]? with
  | some (some _) => .ok a
  | _ =>
      match tagAt a.nodes place with
      | .sequence | .pairs | .set | .mapping => .ok { a.setPart place .waiting with queue := a.queue.push place }
      | _ => (scalarAt a.nodes place).map fun v => a.setPart place (.scalar v)

/-- Meets the node of a key. A collection is no key. -/
def visitKey (a : Assembly) (place : Nat) : Except ReadError (Value × Assembly) := do
  let a ← a.visit place
  match a.parts[place]? with
  | some (some (.scalar v)) => .ok (v, a)
  | _ => .error .malformed

/-- Meets the nodes of an entry of a mapping. -/
def visitEntry (found : Table Nat × Assembly) (entry : Nat × Nat) : Except ReadError (Table Nat × Assembly) := do
  let (key, a) ← found.2.visitKey entry.1
  let a ← a.visit entry.2
  return (found.1.insert key entry.2, a)

/-- The entries of the mapping at a place, merged. -/
def fillMapping (a : Assembly) (place : Nat) : Except ReadError (Table Nat × Assembly) := do
  let nodes ← mergeAt a.merges [] a.nodes place
  ((entriesAt? nodes place).getD []).foldlM visitEntry ([], { a with nodes })

/-- Meets the nodes of a pair, written as a mapping with one entry. -/
def visitPair (found : List (Nat × Nat) × Assembly) (place : Nat) : Except ReadError (List (Nat × Nat) × Assembly) :=
  match entriesAt? found.2.nodes place with
  | some [(first, second)] => do
      let a ← found.2.visit first
      return ((first, second) :: found.1, ← a.visit second)
  | _ => .error .malformed

/-- Fills the collection at a place. -/
def fill (a : Assembly) (place : Nat) : Except ReadError Assembly :=
  match tagAt a.nodes place, contentAt a.nodes place with
  | .sequence, .sequence items => do
      let a ← items.foldlM visit a
      return a.setPart place (.list items)
  | .pairs, .sequence items => do
      let (entries, a) ← items.foldlM visitPair ([], a)
      return a.setPart place (.pairs entries.reverse)
  | .set, .mapping _ => do
      let (entries, a) ← a.fillMapping place
      return a.setPart place (.set (entries.map Prod.fst))
  | .mapping, .mapping _ => do
      let (entries, a) ← a.fillMapping place
      return a.setPart place (.mapping entries)
  | _, _ => .error .malformed

/-- Fills the collections in the queue from the `k`-th one on. Each node is in the queue at most once. -/
def fillFrom : Nat → Nat → Assembly → Except ReadError Assembly
  | 0, _, a => .ok a
  | fuel + 1, k, a =>
      match a.queue[k]? with
      | none => .ok a
      | some place => do fillFrom fuel (k + 1) (← a.fill place)

/-- The document with every collection filled that its value holds. -/
def ofDocument (d : Document) : Except ReadError Assembly := do
  let a : Assembly :=
    { nodes := d.nodes, parts := Array.replicate d.nodes.size none, merges := mergeCount d.nodes + 1 }
  fillFrom (d.nodes.size + 1) 0 (← a.visit d.root)

end Assembly

/-! ## Putting values together -/

/-- The value of a part, given the values of all nodes. -/
def Part.value (values : Array Value) : Part → Value
  | .scalar v => v
  | .waiting => .null
  | .list items => .list (items.map fun place => values.getD place .null)
  | .pairs entries =>
      .list (entries.map fun (first, second) => .pair (values.getD first .null) (values.getD second .null))
  | .set keys => .set keys
  | .mapping entries => .mapping (entries.map fun (key, place) => (key, values.getD place .null))

/-- The value with a mark if it is a collection. -/
def Part.markedValue (values : Array Value) (place : Nat) (p : Part) : Value :=
  match p with
  | .scalar v => v
  | _ => .marked place (p.value values)

namespace Assembly

/-- The values with those of the nodes put together once more, from what the values were before. -/
def round (a : Assembly) (order : Array Nat) (marks : Bool) (values : Array Value) : Array Value :=
  order.foldl (fun values place =>
    match a.parts[place]? with
    | some (some p) => values.setIfInBounds place (if marks then p.markedValue values place else p.value values)
    | _ => values) values

/-- The values after some rounds. -/
def rounds (a : Assembly) (order : Array Nat) (marks : Bool) : Nat → Array Value → Array Value
  | 0, values => values
  | n + 1, values => rounds a order marks n (a.round order marks values)

/-- How many times a collection inside itself is written out, beyond the count of such collections: no reader of a
document goes deeper, and a literal goes around every collection at most once. -/
def spareRounds : Nat := 12

/-- The value of a document. A single round is enough where no collection holds itself. -/
def value (a : Assembly) (d : Document) : Value :=
  let marks := d.loops != 0
  let count := if marks then d.loops + spareRounds else 1
  (a.rounds d.order marks count (Array.replicate d.nodes.size .null)).getD d.root .null

end Assembly

/-- The value of a document. -/
def Document.value (d : Document) : Except ReadError Value := do
  return (← Assembly.ofDocument d).value d

end ResourceScaffold.Yaml
