import ResourceScaffold.Yaml.Assembly
import ResourceScaffold.Yaml.Scanner

/-!
# Reading YAML

The value of a YAML text: its tokens, the nodes they describe, and the value that the nodes have.
-/

namespace ResourceScaffold.Yaml

/-- The value of a text, null if it holds no document. -/
def read (text : List Char) : Except ReadError Value := do
  match ← Document.ofTokens? (tokens text).toList with
  | some d => d.value
  | none => return .null

end ResourceScaffold.Yaml
