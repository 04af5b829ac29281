import ResourceScaffold.Settings.EnvironmentFile
import ResourceScaffold.Text.Case

/-!
# Settings

The settings of the program come from the environment, from an environment file, and from defaults, in this order. The
case of names does not matter, and an empty value counts.
-/

namespace ResourceScaffold

/-- The settings of the program. -/
structure Settings where
  appEnv : String := "dev"
  appName : String := "resource-generator"
  outputDir : String := "generated"
  logLevel : String := "INFO"
  deriving DecidableEq, Repr, Inhabited

namespace Settings

/-- The value of the last variable with a name, in any case. -/
def lookup {α : Type} (settings : List (String × α)) (name : String) : Option α :=
  (settings.reverse.find? fun (key, _) => Text.lower key == name).map Prod.snd

/-- The settings given by an environment and perhaps the text of an environment file. -/
def load (environment : List (String × String)) (file : Option String) : Settings :=
  let fromFile := match file with
    | some text => (EnvironmentFile.read environment text).reverse
    | none => []
  let value (name default : String) : String :=
    ((lookup environment name).orElse fun _ => (lookup fromFile name).join).getD default
  { appEnv := value "app_env" "dev"
    appName := value "app_name" "resource-generator"
    outputDir := value "output_dir" "generated"
    logLevel := value "log_level" "INFO" }

end Settings

end ResourceScaffold
