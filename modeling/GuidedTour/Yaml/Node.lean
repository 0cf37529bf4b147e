import GuidedTour.Yaml.Token

/-!
# YAML documents as trees

The tokens of a text are read into a tree of scalars, lists and maps. An alias stays a leaf that names the
anchor it refers to, so that a tree is finite even if an alias stands inside its own anchor.

* `load` - the only document of a text.
* `Document.target` - the node that an alias refers to.
-/

namespace GuidedTour.Yaml

/-- A node. `id` numbers the anchor that the node carries; `tag` is its resolved tag. -/
inductive Node where
  | scalar (id : Option Nat) (tag : Option String) (text : String) (style : ScalarStyle)
  | list (id : Option Nat) (tag : Option String) (items : List Node)
  | map (id : Option Nat) (tag : Option String) (entries : List (Node × Node))
  | alias (id : Nat)
  deriving Inhabited

/-- An absent node. -/
def Node.empty : Node := .scalar none none "" .plain

/-- What is left to read, and the anchors seen so far. -/
structure Reader where
  tokens  : List Token
  /-- Anchors with their numbers, the last one first. -/
  anchors : List (String × Nat) := []
  /-- Tag handles with what they stand for. -/
  handles : List (String × String) := []

namespace Reader

/-- The next token. -/
def peek (r : Reader) : Token := r.tokens.headD .streamEnd

/-- Passes a token. -/
def skip (r : Reader) : Reader := { r with tokens := r.tokens.drop 1 }

/-- The number of an anchor. -/
def numberOf (r : Reader) (name : String) : Option Nat := r.anchors.lookup name

/-- Numbers an anchor. The number is the count of distinct names seen before. -/
def number (r : Reader) (name : String) : Nat × Reader :=
  let n := r.anchors.length
  (n, { r with anchors := (name, n) :: r.anchors.filter fun p => p.1 != name })

/-- The tag that a handle and a suffix stand for. -/
def resolveTag (r : Reader) (handle suffix : String) : Option String :=
  if handle.isEmpty then some suffix
  else (r.handles.lookup handle).map (· ++ suffix)

end Reader

/-- The properties of a node: the number of its anchor and its tag. -/
structure Properties where
  id  : Option Nat := none
  tag : Option String := none
  any : Bool := false

/-- Reads an anchor and a tag, in either order. -/
def readProperties (r : Reader) : Option (Properties × Reader) := do
  let readTag := fun (r : Reader) => match r.peek with
    | .tag handle suffix => do
      let t ← r.resolveTag handle suffix
      return (some t, r.skip)
    | _ => some (none, r)
  match r.peek with
  | .anchor name => do
    let (tag, r) ← readTag r.skip
    let (n, r) := r.number name
    return (⟨some n, tag, true⟩, r)
  | .tag _ _ => do
    let (tag, r) ← readTag r
    match r.peek with
    | .anchor name =>
      let (n, r) := r.skip.number name
      return (⟨some n, tag, true⟩, r)
    | _ => return (⟨none, tag, true⟩, r)
  | _ => return ({}, r)

/-- The tag of a scalar: a lone exclamation mark says nothing. -/
def scalarTag (tag : Option String) : Option String := if tag = some "!" then none else tag

mutual

/-- Reads a node. `block` admits indented blocks; `indentless` also a list that is not indented. -/
def readNode : (fuel : Nat) → (block indentless : Bool) → Reader → Option (Node × Reader)
  | 0, _, _, _ => none
  | fuel + 1, block, indentless, r =>
    match r.peek with
    | .alias name => do
      let n ← r.numberOf name
      return (.alias n, r.skip)
    | _ => do
      let (p, r) ← readProperties r
      match r.peek with
      | .blockEntry =>
        if indentless then
          let (items, r) ← readIndentlessItems fuel r
          return (.list p.id p.tag items, r)
        else if p.any then return (.scalar p.id p.tag "" .plain, r)
        else none
      | .scalar text style => return (.scalar p.id (scalarTag p.tag) text style, r.skip)
      | .flowSequenceStart =>
        let (items, r) ← readFlowItems fuel true r.skip
        return (.list p.id p.tag items, r)
      | .flowMappingStart =>
        let (entries, r) ← readFlowEntries fuel true r.skip
        return (.map p.id p.tag entries, r)
      | .blockSequenceStart =>
        if block then
          let (items, r) ← readBlockItems fuel r.skip
          return (.list p.id p.tag items, r)
        else if p.any then return (.scalar p.id p.tag "" .plain, r)
        else none
      | .blockMappingStart =>
        if block then
          let (entries, r) ← readBlockEntries fuel r.skip
          return (.map p.id p.tag entries, r)
        else if p.any then return (.scalar p.id p.tag "" .plain, r)
        else none
      | _ => if p.any then return (.scalar p.id p.tag "" .plain, r) else none

/-- Reads the items of an indented list up to its end. -/
def readBlockItems : (fuel : Nat) → Reader → Option (List Node × Reader)
  | 0, _ => none
  | fuel + 1, r =>
    match r.peek with
    | .blockEntry => do
      let r := r.skip
      let (item, r) ← match r.peek with
        | .blockEntry | .blockEnd => some (.empty, r)
        | _ => readNode fuel true false r
      let (rest, r) ← readBlockItems fuel r
      return (item :: rest, r)
    | .blockEnd => some ([], r.skip)
    | _ => none

/-- Reads the items of a list that is not indented. -/
def readIndentlessItems : (fuel : Nat) → Reader → Option (List Node × Reader)
  | 0, _ => none
  | fuel + 1, r =>
    match r.peek with
    | .blockEntry => do
      let r := r.skip
      let (item, r) ← match r.peek with
        | .blockEntry | .key | .value | .blockEnd => some (.empty, r)
        | _ => readNode fuel true false r
      let (rest, r) ← readIndentlessItems fuel r
      return (item :: rest, r)
    | _ => some ([], r)

/-- Reads the entries of an indented map up to its end. -/
def readBlockEntries : (fuel : Nat) → Reader → Option (List (Node × Node) × Reader)
  | 0, _ => none
  | fuel + 1, r =>
    match r.peek with
    | .blockEnd => some ([], r.skip)
    | .key => do
      let r := r.skip
      let (key, r) ← match r.peek with
        | .key | .value | .blockEnd => some (.empty, r)
        | _ => readNode fuel true true r
      let (value, r) ← readBlockValue fuel r
      let (rest, r) ← readBlockEntries fuel r
      return ((key, value) :: rest, r)
    | _ => none

/-- Reads the value of an entry of an indented map. -/
def readBlockValue : (fuel : Nat) → Reader → Option (Node × Reader)
  | 0, _ => none
  | fuel + 1, r =>
    match r.peek with
    | .value =>
      let r := r.skip
      match r.peek with
      | .key | .value | .blockEnd => some (.empty, r)
      | _ => readNode fuel true true r
    | _ => some (.empty, r)

/-- Reads the items of a list in brackets. -/
def readFlowItems : (fuel : Nat) → (first : Bool) → Reader → Option (List Node × Reader)
  | 0, _, _ => none
  | fuel + 1, first, r =>
    match r.peek with
    | .flowSequenceEnd => some ([], r.skip)
    | _ => do
      let r ← if first then some r else match r.peek with
        | .flowEntry => some r.skip
        | _ => none
      match r.peek with
      | .flowSequenceEnd => return ([], r.skip)
      | .key => do
        let (entry, r) ← readPair fuel r.skip
        let (rest, r) ← readFlowItems fuel false r
        return (.map none none [entry] :: rest, r)
      | _ => do
        let (item, r) ← readNode fuel false false r
        let (rest, r) ← readFlowItems fuel false r
        return (item :: rest, r)

/-- Reads a single entry that stands in a list in brackets. An absent key swallows the token in its
place. -/
def readPair : (fuel : Nat) → Reader → Option ((Node × Node) × Reader)
  | 0, _ => none
  | fuel + 1, r => do
    let (key, r) ← match r.peek with
      | .value | .flowEntry | .flowSequenceEnd => some (Node.empty, r.skip)
      | _ => readNode fuel false false r
    match r.peek with
    | .value =>
      let r := r.skip
      match r.peek with
      | .flowEntry | .flowSequenceEnd => return ((key, .empty), r)
      | _ => do
        let (value, r) ← readNode fuel false false r
        return ((key, value), r)
    | _ => return ((key, .empty), r)

/-- Reads the entries of a map in braces. -/
def readFlowEntries : (fuel : Nat) → (first : Bool) → Reader → Option (List (Node × Node) × Reader)
  | 0, _, _ => none
  | fuel + 1, first, r =>
    match r.peek with
    | .flowMappingEnd => some ([], r.skip)
    | _ => do
      let r ← if first then some r else match r.peek with
        | .flowEntry => some r.skip
        | _ => none
      match r.peek with
      | .flowMappingEnd => return ([], r.skip)
      | .key => do
        let r := r.skip
        let (key, r) ← match r.peek with
          | .value | .flowEntry | .flowMappingEnd => some (Node.empty, r)
          | _ => readNode fuel false false r
        let (value, r) ← match r.peek with
          | .value =>
            let r := r.skip
            match r.peek with
            | .flowEntry | .flowMappingEnd => some (Node.empty, r)
            | _ => readNode fuel false false r
          | _ => some (Node.empty, r)
        let (rest, r) ← readFlowEntries fuel false r
        return ((key, value) :: rest, r)
      | _ => do
        let (key, r) ← readNode fuel false false r
        let (rest, r) ← readFlowEntries fuel false r
        return ((key, .empty) :: rest, r)

end

mutual

/-- The nodes that carry an anchor, in the order in which they begin. -/
def Node.anchored : Node → List (Nat × Node)
  | .scalar id tag text style => own id (.scalar id tag text style)
  | .list id tag items => own id (.list id tag items) ++ anchoredItems items
  | .map id tag entries => own id (.map id tag entries) ++ anchoredEntries entries
  | .alias _ => []
where
  /-- The node itself, if it carries an anchor. -/
  own (id : Option Nat) (n : Node) : List (Nat × Node) :=
    match id with
    | some i => [(i, n)]
    | none => []

/-- The nodes of a list that carry an anchor. -/
def anchoredItems : List Node → List (Nat × Node)
  | [] => []
  | n :: rest => n.anchored ++ anchoredItems rest

/-- The nodes of a map that carry an anchor. -/
def anchoredEntries : List (Node × Node) → List (Nat × Node)
  | [] => []
  | (k, v) :: rest => k.anchored ++ v.anchored ++ anchoredEntries rest

/-- The size of a tree: a container counts for its two ends. -/
def Node.size : Node → Nat
  | .scalar _ _ _ _ | .alias _ => 1
  | .list _ _ items => 2 + sizeOfItems items
  | .map _ _ entries => 2 + sizeOfEntries entries

/-- The size of a list's items. -/
def sizeOfItems : List Node → Nat
  | [] => 0
  | n :: rest => n.size + sizeOfItems rest

/-- The size of a map's entries. -/
def sizeOfEntries : List (Node × Node) → Nat
  | [] => 0
  | (k, v) :: rest => k.size + v.size + sizeOfEntries rest

end

/-- A document: its tree and the nodes that aliases refer to, the last one of a number first. -/
structure Document where
  root    : Node
  targets : List (Nat × Node)

/-- The node that an alias refers to. -/
def Document.target (d : Document) (id : Nat) : Option Node := d.targets.lookup id

/-- The tag handles that need no directive. -/
def defaultHandles : List (String × String) := [("!", "!"), ("!!", "tag:yaml.org,2002:")]

/-- Reads the directives before a document: one version at most, and no handle twice. -/
def readDirectives : (fuel : Nat) → (version : Bool) → List (String × String) → Reader →
    Option (List (String × String) × Reader)
  | 0, _, _, _ => none
  | fuel + 1, version, handles, r =>
    match r.peek with
    | .versionDirective major minor =>
      if version || major ≠ 1 || (minor ≠ 1 && minor ≠ 2) then none
      else readDirectives fuel true handles r.skip
    | .tagDirective handle tagPrefix =>
      if (handles.lookup handle).isSome then none
      else readDirectives fuel version ((handle, tagPrefix) :: handles) r.skip
    | _ => some (handles ++ defaultHandles, r)

/-- Passes the ends of documents. -/
def skipEnds : List Token → List Token
  | .documentEnd :: rest => skipEnds rest
  | ts => ts

/-- The only document of a text; nothing if the text is at fault, or has no document or several. -/
def load (text : String) : Option Document := do
  let tokens ← scan text
  let fuel := 4 * tokens.length + 4
  let r : Reader := { tokens := tokens }
  let finish := fun (root : Node) (r : Reader) =>
    match skipEnds r.tokens with
    | [.streamEnd] => some (⟨root, root.anchored.reverse⟩ : Document)
    | _ => none
  match r.peek with
  | .streamEnd => none
  | .versionDirective _ _ | .tagDirective _ _ | .documentStart => do
    let (handles, r) ← readDirectives fuel false [] r
    match r.peek with
    | .documentStart =>
      let r := { r.skip with handles := handles }
      match r.peek with
      | .versionDirective _ _ | .tagDirective _ _ | .documentStart | .documentEnd | .streamEnd =>
        finish .empty r
      | _ => do
        let (root, r) ← readNode fuel true false r
        finish root r
    | _ => none
  | _ => do
    let (root, r) ← readNode fuel true false { r with handles := defaultHandles }
    finish root r

end GuidedTour.Yaml
