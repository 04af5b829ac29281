import ResourceScaffold.Files.Path
import ResourceScaffold.Log.Record
import ResourceScaffold.Settings.Basic

/-!
# Options of the command line

The command takes one schema file and the options `--out` and `--log-level`. An option may be cut to a beginning that no
other option has, and its value may follow after an equals sign. A double hyphen directly before or after the schema
file says that no options follow.
-/

namespace ResourceScaffold

/-- What the command is asked to do. -/
structure Options where
  schema : FilePath
  out : FilePath
  logLevel : String
  deriving DecidableEq, Repr

/-- Why the command does nothing. -/
inductive Refusal where
  /-- The arguments are not understood. -/
  | usage
  /-- Help was asked for. -/
  | help
  deriving DecidableEq, Repr

/-- The exit code of a refusal. -/
def Refusal.exitCode : Refusal → Nat
  | usage => 2
  | help => 0

namespace Options

/-- The options of the command. -/
inductive Switch where
  | help
  | out
  | logLevel
  deriving DecidableEq, Repr

/-- The long names of the options. -/
def switches : List (String × Switch) :=
  [("--help", .help), ("--out", .out), ("--log-level", .logLevel)]

/-- What an argument is. -/
inductive Argument where
  /-- An option, perhaps with a value after an equals sign. -/
  | switch (s : Switch) (value : Option String)
  | unknown
  | ambiguous
  | plain
  deriving DecidableEq, Repr

/-- Whether a text is a negative number, which is no option. A line feed may follow it. -/
def isNegativeNumber (s : List Char) : Bool :=
  match s with
  | '-' :: rest =>
      let whole := rest.takeWhile Text.isDecimalDigit
      match rest.drop whole.length with
      | [] | ['\n'] => !whole.isEmpty
      | '.' :: rest =>
          let fraction := rest.takeWhile Text.isDecimalDigit
          !fraction.isEmpty && (rest.drop fraction.length == [] || rest.drop fraction.length == ['\n'])
      | _ => false
  | _ => false

/-- A text before and after its first equals sign, if it has one. -/
def splitEquals (s : List Char) : List Char × Option (List Char) :=
  let name := s.takeWhile (· != '=')
  match s.drop name.length with
  | _ :: value => (name, some value)
  | [] => (name, none)

/-- What an argument is, before a double hyphen. The short name of the option for help may have other letters behind it,
but no value. -/
def classify (argument : String) : Argument :=
  let s := argument.toList
  match s with
  | ['-', 'h'] => .switch .help none
  | '-' :: 'h' :: c :: rest =>
      if c = '=' ∨ c = '-' then .switch .help (some (String.ofList (c :: rest))) else .switch .help none
  | '-' :: c :: _ =>
      let (name, value) := splitEquals s
      let value := value.map String.ofList
      match switches.lookup (String.ofList name) with
      | some found => .switch found value
      | none =>
          let found := if c = '-' then switches.filter fun (long, _) => name.isPrefixOf long.toList else []
          match found with
          | [(_, found)] => .switch found value
          | _ :: _ => .ambiguous
          | [] => if isNegativeNumber s || s.contains ' ' then .plain else .unknown
  | _ => .plain

/-- The levels that may be asked for. -/
def logLevels : List String :=
  ["DEBUG", "INFO", "WARNING", "ERROR"]

/-- The arguments read so far. -/
structure Reading where
  schema : Option String := none
  out : Option String := none
  logLevel : Option String := none
  /-- Whether something was not understood, which is reported last. -/
  surplus : Bool := false
  deriving Repr

/-- The reading with the value of an option. -/
def Reading.setSwitch (r : Reading) (s : Switch) (value : String) : Except Refusal Reading :=
  match s with
  | .out => .ok { r with out := some value }
  | .logLevel => if logLevels.contains value then .ok { r with logLevel := some value } else .error .usage
  | .help => .error .usage

/-- Reads the arguments after a double hyphen that stands before the schema file. -/
def readPlain (r : Reading) (arguments : List String) : Reading :=
  match r.schema, arguments with
  | none, schema :: rest => { r with schema := some schema, surplus := r.surplus || !rest.isEmpty }
  | _, _ => { r with surplus := true }

/-- Reads arguments one after the other. -/
def readAll (r : Reading) : List String → Except Refusal Reading
  | [] => .ok r
  | argument :: rest =>
      if argument = "--" then .ok (readPlain r rest)
      else match classify argument with
        | .plain =>
            match r.schema with
            | some _ => readAll { r with surplus := true } rest
            | none =>
                let r := { r with schema := some argument }
                match rest with
                | "--" :: after => .ok { r with surplus := r.surplus || !after.isEmpty }
                | _ => readAll r rest
        | .unknown => readAll { r with surplus := true } rest
        | .ambiguous => .error .usage
        | .switch .help none => .error .help
        | .switch s (some value) =>
            match r.setSwitch s value with
            | .ok r => readAll r rest
            | .error e => .error e
        | .switch s none =>
            match rest with
            | value :: after =>
                if value = "--" ∨ classify value ≠ .plain then .error .usage
                else match r.setSwitch s value with
                  | .ok r => readAll r after
                  | .error e => .error e
            | [] => .error .usage

/-- The arguments before the first double hyphen. -/
def beforeHyphens (arguments : List String) : List String :=
  arguments.takeWhile (· != "--")

/-- What the arguments ask for, with the settings as defaults. -/
def ofArguments (settings : Settings) (arguments : List String) : Except Refusal Options :=
  if (beforeHyphens arguments).any fun a => classify a == .ambiguous then .error .usage
  else match readAll {} arguments with
    | .error e => .error e
    | .ok r =>
        match r.schema with
        | some schema =>
            if r.surplus then .error .usage
            else .ok {
              schema := FilePath.ofString schema
              out := FilePath.ofString (r.out.getD settings.outputDir)
              logLevel := r.logLevel.getD settings.logLevel }
        | none => .error .usage

end Options

end ResourceScaffold
