import ResourceScaffold.Yaml.Tag
import ResourceScaffold.Yaml.Token

/-!
# Nodes of YAML

The scalars, sequences and mappings that the tokens of a document describe. A node is known by its place in the list of
all nodes, since an alias stands for the node of its anchor, and a collection may hold an alias to itself.

The readers are mutually recursive on fuel. Every call takes a token or hands over to one that does, so the count of
tokens bounds the fuel; `Document.ofTokens?` supplies it. A reader only looks at the next token, so that the first fault
of a document in the order of reading is the one that is reported.
-/

namespace ResourceScaffold.Yaml

/-- What a node holds, other nodes by their places. -/
inductive Content where
  | scalar (text : WideText)
  | sequence (items : List Nat)
  | mapping (entries : List (Nat × Nat))
  deriving Repr, Inhabited

/-- A node of a document. -/
structure Node where
  tag : Tag
  content : Content
  deriving Repr, Inhabited

/-- A document. -/
structure Document where
  nodes : Array Node
  root : Nat
  /-- The places in the order in which their nodes end. What a node holds ends before it, if it is not the node itself or
  one around it. -/
  order : Array Nat
  /-- The count of aliases inside the nodes of their anchors. -/
  loops : Nat
  deriving Repr, Inhabited

/-- What is known while a document is read: the tokens ahead, what the handles of tags stand for, the nodes so far and
the places of those with anchors. -/
structure Draft where
  tokens : List Token
  handles : List (String × String)
  anchors : List (String × Nat) := []
  nodes : Array Node := #[]
  order : Array Nat := #[]
  loops : Nat := 0
  /-- The count of collections around the current token. -/
  depth : Nat := 0

namespace Draft

/-- The greatest depth of nested collections. -/
def greatestDepth : Nat := 490

/-- The next token. -/
def peek (s : Draft) : Token :=
  s.tokens.headD .streamEnd

/-- The draft after the next token. -/
def next (s : Draft) : Draft :=
  { s with tokens := s.tokens.tail }

/-- Whether the next token is one of some. -/
def sees (s : Draft) (ts : List Token) : Bool :=
  ts.contains s.peek

/-- Why the next token is refused: it is out of place, or the text cannot be read there. -/
def refusal (s : Draft) : ReadError :=
  match s.peek with
  | .unreadable e => e
  | _ => .malformed

/-- The place of one more node, and the draft with it. -/
def addNode (s : Draft) (anchor : Option String) (n : Node) : Nat × Draft :=
  let place := s.nodes.size
  (place, { s with
    nodes := s.nodes.push n
    anchors := match anchor with
      | some name => (name, place) :: s.anchors
      | none => s.anchors })

/-- The draft after the end of a node. -/
def endNode (s : Draft) (place : Nat) : Draft :=
  { s with order := s.order.push place }

/-- The place of a scalar, and the draft with it. -/
def addScalar (s : Draft) (anchor : Option String) (tag : Tag) (text : WideText) : Nat × Draft :=
  let (place, s) := s.addNode anchor { tag, content := .scalar text }
  (place, s.endNode place)

/-- The place of a node that is left out, and the draft with it. -/
def addEmpty (s : Draft) : Nat × Draft :=
  s.addScalar none .null ""

/-- The place of a mapping with a single entry, and the draft with it. -/
def addEntry (s : Draft) (key value : Nat) : Nat × Draft :=
  let (place, s) := s.addNode none { tag := .mapping, content := .mapping [(key, value)] }
  (place, s.endNode place)

/-- The place of a collection, and the draft after what it holds. Its anchor can be used inside of it. -/
def addCollection (s : Draft) (anchor : Option String) (tag : Tag)
    (holds : Draft → Except ReadError (Content × Draft)) : Except ReadError (Nat × Draft) :=
  if greatestDepth ≤ s.depth then .error .tooDeep
  else
    let (place, s) := s.addNode anchor { tag, content := .sequence [] }
    match holds { s with depth := s.depth + 1 } with
    | .error e => .error e
    | .ok (content, s) =>
        let s := { s with nodes := s.nodes.modify place fun n => { n with content }, depth := s.depth - 1 }
        .ok (place, s.endNode place)

/-- What an alias stands for. -/
def refer (s : Draft) (name : String) : Except ReadError (Nat × Draft) :=
  match s.anchors.lookup name with
  | some place => .ok (place, if s.order.contains place then s.next else { s.next with loops := s.loops + 1 })
  | none => .error .malformed

/-! ## Properties -/

/-- What stands before the content of a node. -/
structure Properties where
  anchor : Option String := none
  /-- The full name of the tag; an exclamation mark asks for the tag of the form. -/
  tag : Option String := none

/-- The full name of a tag. -/
def fullTag (s : Draft) (handle : Option String) (suffix : String) : Except ReadError String :=
  match handle with
  | none => .ok suffix
  | some h =>
      match s.handles.lookup h with
      | some start => .ok (start ++ suffix)
      | none => .error .malformed

/-- The anchor and the tag of a node, in either order. -/
def properties (s : Draft) : Except ReadError (Properties × Draft) :=
  match s.tokens with
  | .anchor name :: .tag handle suffix :: rest => do
      return ({ anchor := some name, tag := some (← s.fullTag handle suffix) }, { s with tokens := rest })
  | .anchor name :: rest => .ok ({ anchor := some name }, { s with tokens := rest })
  | .tag _ _ :: .unreadable e :: _ => .error e
  | .tag handle suffix :: .anchor name :: rest => do
      return ({ anchor := some name, tag := some (← s.fullTag handle suffix) }, { s with tokens := rest })
  | .tag handle suffix :: rest => do
      return ({ tag := some (← s.fullTag handle suffix) }, { s with tokens := rest })
  | _ => .ok ({}, s)

/-- The tag of a collection: its own, or the given one. -/
def Properties.collectionTag (p : Properties) (fallback : Tag) : Tag :=
  match p.tag with
  | none => fallback
  | some "!" => fallback
  | some name => Tag.ofName name

/-- The tag of a scalar: its own, or for a plain one that of its form, or text. -/
def Properties.scalarTag (p : Properties) (text : String) (plain : Bool) : Tag :=
  match p.tag with
  | none => if plain then plainTag text else .text
  | some "!" => plainTag text
  | some name => Tag.ofName name

/-- The properties of a node whose content is ahead. An anchor has one place only. -/
def checkedProperties (s : Draft) : Except ReadError (Properties × Draft) :=
  match s.properties with
  | .error e => .error e
  | .ok (p, s) =>
      match s.peek with
      | .unreadable e => .error e
      | _ => if p.anchor.any fun name => (s.anchors.lookup name).isSome then .error .malformed else .ok (p, s)

/-! ## Content -/

mutual

/-- A node. `block` says whether it may be a block collection, `indentless` whether it may be a sequence without
indentation of its own. -/
def read (block indentless : Bool) : Nat → Draft → Except ReadError (Nat × Draft)
  | 0, s => .error s.refusal
  | fuel + 1, s =>
      match s.peek with
      | .reference name => s.refer name
      | _ =>
          match s.checkedProperties with
          | .error e => .error e
          | .ok (p, s) => readContent block indentless fuel p s

/-- The content of a node after its properties. -/
def readContent (block indentless : Bool) : Nat → Properties → Draft → Except ReadError (Nat × Draft)
  | 0, _, s => .error s.refusal
  | fuel + 1, p, s =>
      let sequence (holds : Draft → Except ReadError (List Nat × Draft)) : Except ReadError (Nat × Draft) :=
        s.addCollection p.anchor (p.collectionTag .sequence) fun s =>
          (holds s).map fun (items, s) => (.sequence items, s)
      let mapping (holds : Draft → Except ReadError (List (Nat × Nat) × Draft)) : Except ReadError (Nat × Draft) :=
        s.addCollection p.anchor (p.collectionTag .mapping) fun s =>
          (holds s).map fun (entries, s) => (.mapping entries, s)
      match s.peek with
      | .scalar text plain => .ok (s.next.addScalar p.anchor (p.scalarTag text.shown plain) text)
      | .flowSequenceStart => sequence fun s => readFlowSequence fuel true [] s.next
      | .flowMappingStart => mapping fun s => readFlowMapping fuel true [] s.next
      | t =>
          if t = .blockEntry ∧ indentless = true then sequence fun s => readEntries false fuel [] s
          else if t = .blockSequenceStart ∧ block = true then sequence fun s => readEntries true fuel [] s.next
          else if t = .blockMappingStart ∧ block = true then mapping fun s => readBlockMapping fuel [] s.next
          else if p.anchor.isSome || p.tag.isSome then .ok (s.addScalar p.anchor (p.scalarTag "" true) "")
          else .error s.refusal

/-- The entries of a block sequence, `closed` by a token or without indentation of its own; `done` holds those before,
last first. -/
def readEntries (closed : Bool) : Nat → List Nat → Draft → Except ReadError (List Nat × Draft)
  | 0, _, s => .error s.refusal
  | fuel + 1, done, s =>
      if s.peek = .blockEntry then
        let s := s.next
        if s.sees (if closed then [.blockEntry, .blockEnd] else [.blockEntry, .key, .value, .blockEnd]) then
          let (n, s) := s.addEmpty
          readEntries closed fuel (n :: done) s
        else match read true false fuel s with
          | .error e => .error e
          | .ok (n, s) => readEntries closed fuel (n :: done) s
      else if !closed then .ok (done.reverse, s)
      else if s.peek = .blockEnd then .ok (done.reverse, s.next)
      else .error s.refusal

/-- A key or value of a block mapping, which is left out before another token of the mapping. -/
def readPart : Nat → Draft → Except ReadError (Nat × Draft)
  | 0, s => .error s.refusal
  | fuel + 1, s => if s.sees [.key, .value, .blockEnd] then .ok s.addEmpty else read true true fuel s

/-- The entries of a block mapping; `done` holds those before, last first. -/
def readBlockMapping : Nat → List (Nat × Nat) → Draft → Except ReadError (List (Nat × Nat) × Draft)
  | 0, _, s => .error s.refusal
  | fuel + 1, done, s =>
      if s.peek = .key then
        match readPart fuel s.next with
        | .error e => .error e
        | .ok (k, s) =>
            if s.peek = .value then
              match readPart fuel s.next with
              | .error e => .error e
              | .ok (v, s) => readBlockMapping fuel ((k, v) :: done) s
            else
              let (v, s) := s.addEmpty
              readBlockMapping fuel ((k, v) :: done) s
      else if s.peek = .blockEnd then .ok (done.reverse, s.next)
      else .error s.refusal

/-- A key or value in a flow collection, which is left out before one of the given tokens. -/
def readFlowPart (stops : List Token) : Nat → Draft → Except ReadError (Nat × Draft)
  | 0, s => .error s.refusal
  | fuel + 1, s => if s.sees stops then .ok s.addEmpty else read false false fuel s

/-- The value after a key in a flow collection that ends with the given token; without a colon it is left out. -/
def readFlowValue (close : Token) : Nat → Draft → Except ReadError (Nat × Draft)
  | 0, s => .error s.refusal
  | fuel + 1, s => if s.peek = .value then readFlowPart [.flowEntry, close] fuel s.next else .ok s.addEmpty

/-- The items of a flow sequence; an item may be a mapping with one entry. -/
def readFlowSequence : Nat → Bool → List Nat → Draft → Except ReadError (List Nat × Draft)
  | 0, _, _, s => .error s.refusal
  | fuel + 1, first, done, s =>
      if s.peek = .flowSequenceEnd then .ok (done.reverse, s.next)
      else if !first && s.peek != .flowEntry then .error s.refusal
      else
        let s := if first then s else s.next
        if s.peek = .key then
          match readFlowPart [.value, .flowEntry, .flowSequenceEnd] fuel s.next with
          | .error e => .error e
          | .ok (k, s) =>
              match readFlowValue .flowSequenceEnd fuel s with
              | .error e => .error e
              | .ok (v, s) =>
                  let (n, s) := s.addEntry k v
                  readFlowSequence fuel false (n :: done) s
        else if s.peek = .flowSequenceEnd then .ok (done.reverse, s.next)
        else match read false false fuel s with
          | .error e => .error e
          | .ok (n, s) => readFlowSequence fuel false (n :: done) s

/-- The entries of a flow mapping. -/
def readFlowMapping : Nat → Bool → List (Nat × Nat) → Draft → Except ReadError (List (Nat × Nat) × Draft)
  | 0, _, _, s => .error s.refusal
  | fuel + 1, first, done, s =>
      if s.peek = .flowMappingEnd then .ok (done.reverse, s.next)
      else if !first && s.peek != .flowEntry then .error s.refusal
      else
        let s := if first then s else s.next
        if s.peek = .key then
          match readFlowPart [.value, .flowEntry, .flowMappingEnd] fuel s.next with
          | .error e => .error e
          | .ok (k, s) =>
              match readFlowValue .flowMappingEnd fuel s with
              | .error e => .error e
              | .ok (v, s) => readFlowMapping fuel false ((k, v) :: done) s
        else if s.peek = .flowMappingEnd then .ok (done.reverse, s.next)
        else match read false false fuel s with
          | .error e => .error e
          | .ok (k, s) =>
              let (v, s) := s.addEmpty
              readFlowMapping fuel false ((k, v) :: done) s

end

end Draft

namespace Document

/-! ## Documents -/

/-- What handles of tags stand for unless a directive says otherwise. -/
def defaultHandles : List (String × String) :=
  [("!", "!"), ("!!", coreTag)]

/-- The directives before a document: at most one version, which has to be of the first format, and at most one meaning
for each handle. -/
def readDirectives (versioned : Bool) (handles : List (String × String)) :
    List Token → Except ReadError (List (String × String) × List Token)
  | .version major :: rest => if versioned || major != 1 then .error .malformed else readDirectives true handles rest
  | .tagHandle handle start :: rest =>
      if (handles.lookup handle).isSome then .error .malformed
      else readDirectives versioned ((handle, start) :: handles) rest
  | .otherDirective :: rest => readDirectives versioned handles rest
  | rest => .ok (handles ++ defaultHandles, rest)

/-- Whether a token belongs to the marks around documents. -/
def isOutside : Token → Bool
  | .version _ | .tagHandle _ _ | .otherDirective | .documentStart | .streamEnd => true
  | _ => false

/-- The document in a draft after its root. Only marks that end documents may follow. -/
def ofDraft (root : Nat) (s : Draft) : Except ReadError Document :=
  match s.tokens.dropWhile (· == .documentEnd) with
  | .unreadable e :: _ => .error e
  | [] | .streamEnd :: _ => .ok { nodes := s.nodes, root, order := s.order, loops := s.loops }
  | _ => .error .malformed

/-- The only document among tokens; nothing if there is none. -/
def ofTokens? (tokens : List Token) : Except ReadError (Option Document) := do
  let fuel := 4 * tokens.length + 8
  if !isOutside (tokens.headD .streamEnd) then
    let (root, s) ← Draft.read true false fuel { tokens, handles := defaultHandles }
    return some (← ofDraft root s)
  else match tokens with
    | [] => return none
    | .streamEnd :: _ => return none
    | _ =>
        let (handles, rest) ← readDirectives false [] tokens
        match rest with
        | .documentStart :: rest =>
            let s : Draft := { tokens := rest, handles }
            let (root, s) ← if isOutside s.peek || s.peek == .documentEnd then .ok s.addEmpty else s.read true false fuel
            return some (← ofDraft root s)
        | .unreadable e :: _ => .error e
        | _ => .error .malformed

end Document

end ResourceScaffold.Yaml
