import ResourceScaffold.Code.Text
import ResourceScaffold.Files.Tree
import ResourceScaffold.Log.Event
import ResourceScaffold.Text.Lines
import ResourceScaffold.Text.Quoted

/-!
# Storing modules

Modules are stored below an output directory. Every path is checked before anything changes; then each module whose text
is not current is written, in order. A file is current when its text, with the three newline conventions read as one, is
the text of the module; a file in the place of a module that holds no text is a fault.
-/

namespace ResourceScaffold

/-- A text to be stored under a path. -/
structure Document where
  path : String
  content : String
  deriving DecidableEq, Repr, Inhabited

/-- What is stored of a generated module. -/
def Code.SourceModule.toDocument (m : Code.SourceModule) : Document :=
  { path := m.path, content := m.content }

/-- What became of an attempt to store modules. -/
structure Stored where
  tree : FileTree
  /-- The places that were written, in order, or the fault that ended the attempt. -/
  outcome : Except FileFault (List Location)

namespace Document

/-- The place of a document below the output directory `out`, which is called `outText` in a message. -/
def target (out : Location) (outText : String) (d : Document) : Except FileFault Location :=
  let path := FilePath.ofString d.path
  let here := out.resolve path
  if d.path.toList.contains '\x00' then .error .badPath
  else if path.isAbsolute || !here.isWithin out then .error (.escapes d.path outText)
  else .ok here

end Document

/-- Whether the file at a place has the given text already. -/
def FileTree.isCurrent (t : FileTree) (here : Location) (content : String) : Except FileFault Bool :=
  match t.file? here with
  | some found => found.decode.map fun text => Text.universalNewlines text == content
  | none => .ok false

/-- Writes the documents that are not current; `written` are the places written before. -/
def storeTargets (t : FileTree) (written : List Location) : List (Location × String) → Stored
  | [] => { tree := t, outcome := .ok written }
  | (here, content) :: rest =>
      match t.isCurrent here content with
      | .error fault => { tree := t, outcome := .error fault }
      | .ok true => storeTargets t written rest
      | .ok false =>
          match t.ensureDirectory here.dropLast with
          | (above, some fault) => { tree := above, outcome := .error fault }
          | (above, none) =>
              match above.write here content with
              | .ok next => storeTargets next (written ++ [here]) rest
              | .error fault => { tree := above, outcome := .error fault }

/-- Stores documents below the output directory that a path denotes in the directory `base`. -/
def store (t : FileTree) (base : Location) (out : FilePath) (documents : List Document) : Stored :=
  let directory := base.resolve out
  if out.text.toList.contains '\x00' then { tree := t, outcome := .error .badPath }
  else match documents.mapM fun d => (d.target directory out.text).map (·, d.content) with
  | .error fault => { tree := t, outcome := .error fault }
  | .ok targets =>
      match t.makeDirectories (if out.isAbsolute then [] else base) out.parts.reverse with
      | (above, some fault) => { tree := above, outcome := .error fault }
      | (above, none) => storeTargets above [] targets

/-- The message about a path that leads out of the output directory. -/
def FileFault.message? : FileFault → Option String
  | .escapes path directory => some ("Module path " ++ Text.quoted path ++ " escapes output directory " ++ directory)
  | _ => none

end ResourceScaffold
