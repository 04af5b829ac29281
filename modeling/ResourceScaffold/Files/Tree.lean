import ResourceScaffold.Files.Path

/-!
# File trees

A file tree as a value: what stands at each place, a directory or a file. A file holds a text in UTF-8, or bytes that are
no such text and cannot be read as one. There are no links, and the root is always a directory. Every operation says which
fault it meets.
-/

namespace ResourceScaffold

/-- What a file holds: a text, or bytes that encode none. -/
inductive FileContent where
  | text (s : String)
  | undecodable (data : List UInt8) (noText : String.fromUTF8? ⟨data.toArray⟩ = none)
  deriving DecidableEq, Repr

instance : Coe String FileContent := ⟨.text⟩

/-- What a file with the given bytes holds. -/
def FileContent.ofBytes (data : List UInt8) : FileContent :=
  match noText : String.fromUTF8? ⟨data.toArray⟩ with
  | some s => .text s
  | none => .undecodable data noText

/-- The bytes of a file. -/
def FileContent.bytes : FileContent → List UInt8
  | text s => s.toUTF8.data.toList
  | undecodable data _ => data

/-- What stands at a place. -/
inductive FileEntry where
  | directory
  | file (content : FileContent)
  deriving DecidableEq, Repr, Inhabited

/-- Why an operation on files fails. -/
inductive FileFault where
  /-- Nothing stands at the place. -/
  | notFound
  /-- A file stands where a directory is needed to go on. -/
  | notADirectory
  /-- A directory stands where a file is needed. -/
  | isADirectory
  /-- Something else stands where a directory is to be made. -/
  | alreadyExists
  /-- A path holds a character that no path can hold, or a file holds bytes that are no text. -/
  | malformed
  /-- A name in a path has more bytes than a name can have. -/
  | nameTooLong
  /-- A path leads out of the directory in which modules are stored. -/
  | escapes (path directory : String)
  deriving DecidableEq, Repr

/-- The fault of a path with a character that no path can hold. -/
@[match_pattern] abbrev FileFault.badPath : FileFault :=
  .malformed

/-- The text of a file, if it holds one. -/
def FileContent.decode : FileContent → Except FileFault String
  | text s => .ok s
  | undecodable .. => .error .malformed

/-- A file tree: the places other than the root at which something stands. -/
structure FileTree where
  entries : List (Location × FileEntry) := []
  /-- The most bytes that a name can have, if there is such a limit. -/
  nameLimit : Option Nat := some 255
  deriving Repr, Inhabited

namespace FileTree

/-- What stands at a place. -/
def get? (t : FileTree) (here : Location) : Option FileEntry :=
  if here.isEmpty then some .directory else t.entries.lookup here

/-- The entries with one of them set, in place if there is one already. -/
def setEntry (here : Location) (entry : FileEntry) : List (Location × FileEntry) → List (Location × FileEntry)
  | [] => [(here, entry)]
  | (place, old) :: rest => if place = here then (here, entry) :: rest else (place, old) :: setEntry here entry rest

/-- The tree with something put at a place. -/
def set (t : FileTree) (here : Location) (entry : FileEntry) : FileTree :=
  { t with entries := setEntry here entry t.entries }

/-- The entry just set is the one found. -/
theorem lookup_setEntry_self (here : Location) (entry : FileEntry) (entries : List (Location × FileEntry)) :
    (setEntry here entry entries).lookup here = some entry := by
  induction entries with
  | nil => simp [setEntry]
  | cons head rest ih =>
      obtain ⟨place, old⟩ := head
      rw [setEntry]
      split
      · simp
      · next other =>
          have apart : (here == place) = false := beq_eq_false_iff_ne.2 fun same => other same.symm
          simp [List.lookup_cons, apart, ih]

/-- The other places keep their entries. -/
theorem lookup_setEntry_of_ne {here there : Location} (h : there ≠ here) (entry : FileEntry)
    (entries : List (Location × FileEntry)) : (setEntry here entry entries).lookup there = entries.lookup there := by
  induction entries with
  | nil => simp [setEntry, h]
  | cons head rest ih =>
      obtain ⟨place, old⟩ := head
      rw [setEntry]
      split
      · next same =>
          have apart : (there == here) = false := beq_eq_false_iff_ne.2 h
          simp [List.lookup_cons, same, apart]
      · simp [List.lookup_cons, ih]

/-- The entry set at a place is found there. -/
theorem get?_set_self (t : FileTree) {here : Location} (entry : FileEntry) (h : here ≠ []) :
    (t.set here entry).get? here = some entry := by
  simp [get?, set, h, lookup_setEntry_self]

/-- Setting one place leaves the others as they are. -/
theorem get?_set_of_ne (t : FileTree) {here there : Location} (entry : FileEntry) (h : there ≠ here) :
    (t.set here entry).get? there = t.get? there := by
  simp [get?, set, lookup_setEntry_of_ne h]

/-- The tree without what stands at a place. -/
def erase (t : FileTree) (here : Location) : FileTree :=
  { t with entries := t.entries.filter fun (place, _) => place != here }

/-- Whether a directory stands at a place. -/
def isDirectory (t : FileTree) (here : Location) : Bool :=
  t.get? here == some .directory

/-- What the file at a place holds. -/
def file? (t : FileTree) (here : Location) : Option FileContent :=
  match t.get? here with
  | some (.file content) => some content
  | _ => none

/-- The text of the file at a place. -/
def text? (t : FileTree) (here : Location) : Option String :=
  (t.file? here).bind fun content => content.decode.toOption

/-- The files below a directory, as places and contents, in the order in which they were made. -/
def contentsWithin (t : FileTree) (directory : Location) : List (Location × FileContent) :=
  t.entries.filterMap fun (place, entry) =>
    match entry with
    | .file content => if place.isWithin directory then some (place, content) else none
    | .directory => none

/-- The files below a directory that hold texts, as places and texts. -/
def filesWithin (t : FileTree) (directory : Location) : List (Location × String) :=
  (t.contentsWithin directory).filterMap fun (place, content) => content.decode.toOption.map (place, ·)

/-! ## Following paths -/

/-- Whether a name is too long for a file or directory. -/
def isTooLong (t : FileTree) (name : String) : Bool :=
  t.nameLimit.any fun limit => decide (limit < name.utf8ByteSize)

/-- The place reached from `here` by following names through directories that are there. The last name need not be
there; a double dot as the last name is followed, and so needs its directory. -/
def walk (t : FileTree) (here : Location) : List String → Except FileFault Location
  | [] => .ok here
  | part :: rest =>
      match t.get? here with
      | none => .error .notFound
      | some (.file _) => .error .notADirectory
      | some .directory =>
          if t.isTooLong part then .error .nameTooLong
          else walk t (if part = ".." then here.dropLast else here ++ [part]) rest

/-- Whether something stands where a path leads from the directory `base`. A path that leads nowhere is no fault, one
with a name that cannot be is. -/
def holds (t : FileTree) (base : Location) (p : FilePath) : Except FileFault Bool :=
  match t.walk (if p.isAbsolute then [] else base) p.parts with
  | .ok here => .ok (t.get? here).isSome
  | .error .nameTooLong => .error .nameTooLong
  | .error _ => .ok false

/-- The text of the file to which a path leads from the directory `base`. -/
def read (t : FileTree) (base : Location) (p : FilePath) : Except FileFault String :=
  match t.walk (if p.isAbsolute then [] else base) p.parts with
  | .error fault => .error fault
  | .ok here =>
      match t.get? here with
      | some (.file content) => content.decode
      | some .directory => .error .isADirectory
      | none => .error .notFound

/-! ## Changes -/

/-- Makes one directory. -/
def makeDirectory (t : FileTree) (base : Location) (parts : List String) : Except FileFault FileTree :=
  match t.walk base parts with
  | .error fault => .error fault
  | .ok here =>
      match t.get? here with
      | some _ => .error .alreadyExists
      | none => .ok (t.set here .directory)

/-- A fault met while a directory was to be made does not count if there is a directory. -/
def unlessDirectory (t : FileTree) (base : Location) (parts : List String) (fault : FileFault) : Option FileFault :=
  match t.walk base parts with
  | .ok here => if t.isDirectory here then none else some fault
  | .error _ => some fault

/-- Makes a directory and those above it, as far as they are missing. The names are given last first; directories made
before a fault stay. -/
def makeDirectories (t : FileTree) (base : Location) : List String → FileTree × Option FileFault
  | [] => (t, none)
  | last :: front =>
      let parts := (last :: front).reverse
      match t.makeDirectory base parts with
      | .ok made => (made, none)
      | .error .notFound =>
          match makeDirectories t base front with
          | (above, some fault) => (above, some fault)
          | (above, none) =>
              match above.makeDirectory base parts with
              | .ok made => (made, none)
              | .error fault => (above, above.unlessDirectory base parts fault)
      | .error fault => (t, t.unlessDirectory base parts fault)

/-- Makes the directory at a place and those above it. -/
def ensureDirectory (t : FileTree) (here : Location) : FileTree × Option FileFault :=
  t.makeDirectories [] here.reverse

/-- Writes a file into a directory that is there. -/
def write (t : FileTree) (here : Location) (text : String) : Except FileFault FileTree :=
  match t.get? here with
  | some .directory => .error .isADirectory
  | some (.file _) => .ok (t.set here (.file text))
  | none =>
      if !t.isDirectory here.dropLast then .error .notFound
      else if here.getLast?.any t.isTooLong then .error .nameTooLong
      else .ok (t.set here (.file text))

end FileTree

end ResourceScaffold
