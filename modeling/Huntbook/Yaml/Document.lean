import Huntbook.Yaml.Node
import Huntbook.Yaml.Token

/-!
# Documents

Reading the documents of a text. The tokens are read as a tree of nodes; an anchor names a node, and
an alias stands for the node of that name.
-/

namespace Huntbook.Yaml

/-- A node that has been given a name, and may not be complete yet. -/
inductive Anchored
  | started (label : Nat)
  | finished (node : Node)

/-- What is left to be read of a document. -/
structure Reading where
  tokens : List Token
  failure : Option Fault
  handles : TextPairs := []
  anchors : List (String × Anchored) := []
  fresh : Nat := 0

abbrev Read := StateT Reading Try

namespace Read

def grammarError {α : Type} (problem : String) : Read α := throw (.yaml ⟨.grammar, problem⟩)

def nodeError {α : Type} (problem : String) : Read α := throw (.yaml ⟨.nodes, problem⟩)

def peek : Read Token := do
  let r ← get
  match r.tokens, r.failure with
  | t :: _, _ => return t
  | [], some f => throw f
  | [], none => return .streamEnd

def advance : Read Unit := modify fun r => { r with tokens := r.tokens.drop 1 }

def accept (t : Token) : Read Bool := do
  if (← peek) == t then
    advance
    return true
  else return false

def freshLabel : Read Nat := modifyGet fun r => (r.fresh, { r with fresh := r.fresh + 1 })

def emptyNode : Read Node := do
  return .scalar (some (← freshLabel)) .null ""

def tagStart : String := "tag:yaml.org,2002:"

def tagNamed (name : String) : Tag :=
  match (knownTags.find? fun t => tagStart ++ t.1 == name) with
  | some (_, tag) => tag
  | none => .other name

def tagOf (handle : Option String) (suffix : String) : Read (Option Tag) := do
  let name ← match handle with
    | none => pure suffix
    | some handle =>
      match ((← get).handles.find? fun h => h.1 == handle) with
      | some (_, start) => pure (start ++ suffix)
      | none => grammarError "found undefined tag handle"
  return if name == "!" then none else some (tagNamed name)

/-- What stands before a node. -/
structure Marks where
  anchor : Option String := none
  tagged : Bool := false
  tag : Option Tag := none

def marks : Read Marks := do
  let tag? : Read (Option (Option String × String)) := do
    match ← peek with
    | .tag handle suffix =>
      advance
      return some (handle, suffix)
    | _ => return none
  let anchor? : Read (Option String) := do
    match ← peek with
    | .anchor name =>
      advance
      return some name
    | _ => return none
  let resolved (anchor : Option String) (tag : Option (Option String × String)) : Read Marks :=
    match tag with
    | none => return { anchor }
    | some (handle, suffix) => do return { anchor, tagged := true, tag := ← tagOf handle suffix }
  match ← anchor? with
  | some name => resolved (some name) (← tag?)
  | none =>
    match ← tag? with
    | some tag => resolved (← anchor?) (some tag)
    | none => return {}

def openAnchor (name : Option String) (label : Nat) : Read Unit :=
  match name with
  | none => return ()
  | some name => do
    if (← get).anchors.any fun a => a.1 == name then nodeError "found duplicate anchor"
    modify fun r => { r with anchors := (name, .started label) :: r.anchors }

def closeAnchor (name : Option String) (node : Node) : Read Node := do
  match name with
  | none => return node
  | some name =>
    modify fun r => { r with anchors := (name, .finished node) :: r.anchors }
    return node

def aliased (name : String) : Read Node := do
  match ((← get).anchors.find? fun a => a.1 == name) with
  | some (_, .finished node) => return node
  | some (_, .started label) => return .link label
  | none => nodeError "found undefined alias"

def scalarTag (m : Marks) (text : String) (isPlain : Bool) : Tag :=
  match m.tag with
  | some tag => tag
  | none => if isPlain || m.tagged then resolve text else .text

def endsItem (t : Token) : Bool := t == .entry || t == .key || t == .value || t == .blockEnd

def endsField (t : Token) : Bool := t == .key || t == .value || t == .blockEnd

def greatestDepth : Nat := 488

def inside : Nat → Read Nat
  | 0 => throw .tooDeep
  | room + 1 => return room

mutual

def node : Nat → Nat → Bool → Bool → Read Node
  | 0, _, _, _ => grammarError "expected the node content"
  | n + 1, room, block, unindented => do
    match ← peek with
    | .reference name =>
      advance
      aliased name
    | _ =>
      let m ← marks
      let fresh ← freshLabel
      let label := some fresh
      match ← peek with
      | .scalar text isPlain =>
        advance
        openAnchor m.anchor fresh
        closeAnchor m.anchor (.scalar label (scalarTag m text isPlain) text)
      | .openSeq =>
        advance
        openAnchor m.anchor fresh
        closeAnchor m.anchor (.seq label (m.tag.getD .seq) (← flowItems n (← inside room) true))
      | .openMap =>
        advance
        openAnchor m.anchor fresh
        closeAnchor m.anchor (.map label (m.tag.getD .map) (← flowFields n (← inside room) true))
      | t =>
        if t == .entry && unindented then
          openAnchor m.anchor fresh
          closeAnchor m.anchor (.seq label (m.tag.getD .seq) (← openItems n (← inside room)))
        else if t == .blockSeq && block then
          advance
          openAnchor m.anchor fresh
          closeAnchor m.anchor (.seq label (m.tag.getD .seq) (← blockItems n (← inside room)))
        else if t == .blockMap && block then
          advance
          openAnchor m.anchor fresh
          closeAnchor m.anchor (.map label (m.tag.getD .map) (← blockFields n (← inside room)))
        else if m.anchor.isSome || m.tagged then
          openAnchor m.anchor fresh
          closeAnchor m.anchor (.scalar label (m.tag.getD .null) "")
        else grammarError "expected the node content"

def openItems : Nat → Nat → Read (List Node)
  | 0, _ => return []
  | n + 1, room => do
    if ← accept .entry then
      let item ← if endsItem (← peek) then emptyNode else node n room true false
      return item :: (← openItems n room)
    else return []

def blockItems : Nat → Nat → Read (List Node)
  | 0, _ => return []
  | n + 1, room => do
    if ← accept .entry then
      let t ← peek
      let item ← if t == .entry || t == .blockEnd then emptyNode else node n room true false
      return item :: (← blockItems n room)
    else if ← accept .blockEnd then return []
    else grammarError "expected <block end>"

def blockFields : Nat → Nat → Read Pairs
  | 0, _ => return []
  | n + 1, room => do
    if ← accept .key then
      let key ← if endsField (← peek) then emptyNode else node n room true true
      let value ←
        if ← accept .value then
          if endsField (← peek) then emptyNode else node n room true true
        else emptyNode
      return (key, value) :: (← blockFields n room)
    else if ← accept .blockEnd then return []
    else grammarError "expected <block end>"

def flowPair : Nat → Nat → Read Node
  | 0, _ => emptyNode
  | n + 1, room => do
    let label := some (← freshLabel)
    let room ← inside room
    let ends (t : Token) := t == .comma || t == .closeSeq
    let t ← peek
    let key ← if t == .value || ends t then emptyNode else node n room false false
    let value ←
      if ← accept .value then
        if ends (← peek) then emptyNode else node n room false false
      else emptyNode
    return .map label .map [(key, value)]

def flowItems : Nat → Nat → Bool → Read (List Node)
  | 0, _, _ => return []
  | n + 1, room, first => do
    if ← accept .closeSeq then return []
    if !first then
      if !(← accept .comma) then grammarError "expected ',' or ']'"
    if ← accept .key then
      let item ← flowPair n room
      return item :: (← flowItems n room false)
    else if ← accept .closeSeq then return []
    else
      let item ← node n room false false
      return item :: (← flowItems n room false)

def flowFields : Nat → Nat → Bool → Read Pairs
  | 0, _, _ => return []
  | n + 1, room, first => do
    let ends (t : Token) := t == .comma || t == .closeMap
    if ← accept .closeMap then return []
    if !first then
      if !(← accept .comma) then grammarError "expected ',' or closing brace"
    if ← accept .key then
      let t ← peek
      let key ← if t == .value || ends t then emptyNode else node n room false false
      let value ←
        if ← accept .value then
          if ends (← peek) then emptyNode else node n room false false
        else emptyNode
      return (key, value) :: (← flowFields n room false)
    else if ← accept .closeMap then return []
    else
      let key ← node n room false false
      let value ← emptyNode
      return (key, value) :: (← flowFields n room false)

end

def standardHandles : TextPairs := [("!", "!"), ("!!", tagStart)]

def directives : Nat → Bool → TextPairs → Read Unit
  | 0, _, handles => modify fun r => { r with handles := handles ++ standardHandles }
  | n + 1, versioned, handles => do
    match ← peek with
    | .version major =>
      advance
      if versioned then grammarError "found duplicate YAML directive"
      if major != 1 then grammarError "found incompatible YAML document"
      directives n true handles
    | .tagHandle handle start =>
      advance
      if handles.any fun h => h.1 == handle then grammarError "duplicate tag handle"
      directives n versioned ((handle, start) :: handles)
    | .directive =>
      advance
      directives n versioned handles
    | _ => modify fun r => { r with handles := handles ++ standardHandles }

def skipEnds : Nat → Read Unit
  | 0 => return ()
  | n + 1 => do
    if ← accept .documentEnd then skipEnds n

def bound : Read Nat := do
  return 2 * (← get).tokens.length + 2

def documentStart (first : Bool) : Read (Option Bool) := do
  let n ← bound
  let starts (t : Token) := match t with
    | .version _ | .tagHandle _ _ | .directive | .documentStart | .streamEnd => true
    | _ => false
  if first && !starts (← peek) then
    modify fun r => { r with handles := standardHandles }
    return some false
  else
    skipEnds n
    if (← peek) == .streamEnd then return none
    directives n false []
    if ← accept .documentStart then return some true
    else grammarError "expected '<document start>'"

def document? (first : Bool) : Read (Option Node) := do
  match ← documentStart first with
  | none => return none
  | some marked =>
    let t ← peek
    let isEmpty := marked && (match t with
      | .version _ | .tagHandle _ _ | .directive | .documentStart | .documentEnd
      | .streamEnd => true
      | _ => false)
    let root ← if isEmpty then emptyNode else node (← bound) greatestDepth true false
    let _ ← accept .documentEnd
    modify fun r => { r with anchors := [] }
    return some root

def single? : Read (Option Node) := do
  match ← document? true with
  | none => return none
  | some root =>
    match ← documentStart false with
    | none => return some root
    | some _ => nodeError "expected a single document in the stream"

end Read

def readingOf (text : String) : Try Reading := do
  let t ← tokens text
  return { tokens := t.tokens, failure := t.failure }

def readNode (text : String) : Try (Option Node) := do
  let (node, _) ← Read.single?.run (← readingOf text)
  return node

def readValue (text : String) : Try Value := do
  match ← readNode text with
  | none => return .null
  | some node => node.value

/-- The value of the single document of a text, with texts for dates. A document whose dates are
    looked for without an end has none. -/
def readDated (text : String) : Try Value := do
  match ← readNode text with
  | none => return .null
  | some node =>
    let value ← node.value
    if node.endless then throw .tooDeep
    return value.withDateTexts

def documentsFrom : Nat → Bool → Reading → List Value × Option Fault
  | 0, _, _ => ([], none)
  | n + 1, first, r =>
    match (Read.document? first).run r with
    | .error f => ([], some f)
    | .ok (none, _) => ([], none)
    | .ok (some node, r) =>
      match node.value with
      | .error f => ([], some f)
      | .ok v =>
        let (more, fault) := documentsFrom n false r
        (v :: more, fault)

def readValues (text : String) : Try (List Value) := do
  let r ← readingOf text
  match documentsFrom (r.tokens.length + 1) true r with
  | (values, none) => return values
  | (_, some f) => throw f

end Huntbook.Yaml
