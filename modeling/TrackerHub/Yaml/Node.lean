import TrackerHub.Yaml.Kind
import TrackerHub.Yaml.Token

/-! # Nodes of a document

The tokens of a document form a tree: scalars, sequences and mappings, each with its kind. An
alias stands for the node that carries its anchor; inside that node itself it stands for nothing.
-/
namespace TrackerHub.Yaml
open TrackerHub.Text

inductive Node where
  | scalar (kind : Kind) (text : Chars)
  | sequence (kind : Kind) (items : List Node)
  | mapping (kind : Kind) (entries : List (Node × Node))
  deriving Repr, Inhabited

namespace Node

/-- The node that stands where nothing is written. -/
def empty : Node := .scalar .null []

/-- What is known while nodes are read. -/
structure Reading where
  tokens : List Token
  /-- The nodes with an anchor; a node that is still being read is not known yet. -/
  anchors : List (Chars × Option Node) := []
  /-- What tag handles stand for. -/
  handles : List (Chars × Chars)
  deriving Repr

abbrev NodeReader := StateT Reading (Except YamlError)

/-- The next token, left in place. -/
def peekToken : NodeReader (Option Token) := do pure (← get).tokens.head?

def skipToken : NodeReader Unit := modify fun s => { s with tokens := s.tokens.drop 1 }

def acceptToken (t : Token) : NodeReader Bool := do
  if (← peekToken) == some t then do
    skipToken
    pure true
  else pure false

def nextIsOneOf (ts : List Token) : NodeReader Bool := do
  match ← peekToken with
  | some t => pure (ts.contains t)
  | none => pure false

/-- The properties of a node: an anchor and a complete tag. -/
structure Properties where
  anchor : Option Chars := none
  tag : Option Chars := none
  deriving Repr

/-- Puts the meaning of its handle before a tag. -/
def completeTag (handle : Option Chars) (suffix : Chars) : NodeReader Chars := do
  match handle with
  | none => pure suffix
  | some h =>
    match (← get).handles.find? fun e => e.1 == h with
    | some (_, start) => pure (start ++ suffix)
    | none => throw .malformed

/-- Reads an anchor and a tag, in either order. -/
def readProperties : NodeReader Properties := do
  match ← peekToken with
  | some (.anchor a) =>
    skipToken
    match ← peekToken with
    | some (.tag handle suffix) =>
      skipToken
      pure ⟨some a, some (← completeTag handle suffix)⟩
    | _ => pure ⟨some a, none⟩
  | some (.tag handle suffix) =>
    skipToken
    match ← peekToken with
    | some (.anchor a) =>
      skipToken
      pure ⟨some a, some (← completeTag handle suffix)⟩
    | _ => pure ⟨none, some (← completeTag handle suffix)⟩
  | _ => pure {}

def setAnchor (anchor : Option Chars) (node : Option Node) : NodeReader Unit := do
  match anchor with
  | none => pure ()
  | some a => modify fun s =>
    { s with anchors := (a, node) :: s.anchors.filter fun e => e.1 != a }

def checkAnchor (anchor : Option Chars) : NodeReader Unit := do
  match anchor with
  | none => pure ()
  | some a => if (← get).anchors.any fun e => e.1 == a then throw .malformed

def scalarKind (tag : Option Chars) (plain : Bool) (text : Chars) : Kind :=
  match tag with
  | none => if plain then kindOfPlain text else .text
  | some ['!'] => kindOfPlain text
  | some t => kindOfTag t

/-- The kind of a collection that is `usual` without a tag. -/
def collectionKind (tag : Option Chars) (usual : Kind) : Kind :=
  match tag with
  | none => usual
  | some ['!'] => usual
  | some t => kindOfTag t

def ofAlias (name : Chars) : NodeReader Node := do
  match (← get).anchors.find? fun e => e.1 == name with
  | some (_, some node) => pure node
  | some (_, none) => pure empty
  | none => throw .malformed

mutual

/-- Reads a node. `block` allows blocks, `bare` a block of entries without indentation of its
own; `fuel` bounds the number of steps. -/
def readNode : Nat → Bool → Bool → NodeReader Node
  | 0, _, _ => throw .malformed
  | fuel + 1, block, bare => do
    match ← peekToken with
    | some (.alias name) =>
      skipToken
      ofAlias name
    | _ =>
      let p ← readProperties
      checkAnchor p.anchor
      -- The anchor is known from here on, but not yet what it stands for.
      setAnchor p.anchor none
      let node ← readContent fuel block bare p
      setAnchor p.anchor (some node)
      pure node

/-- Reads a node behind its properties. -/
def readContent : Nat → Bool → Bool → Properties → NodeReader Node
  | 0, _, _, _ => throw .malformed
  | fuel + 1, block, bare, p => do
    let sequence := fun (items : List Node) => Node.sequence (collectionKind p.tag .list) items
    let mapping := fun (entries : List (Node × Node)) =>
      Node.mapping (collectionKind p.tag .map) entries
    match ← peekToken with
    | some (.scalar plain text) =>
      skipToken
      pure (.scalar (scalarKind p.tag plain text) text)
    | some .openSequence =>
      skipToken
      pure (sequence (← readFlowItems fuel true))
    | some .openMapping =>
      skipToken
      pure (mapping (← readFlowEntries fuel true))
    | t =>
      if bare && t == some .blockEntry then pure (sequence (← readBareItems fuel))
      else if block && t == some .blockSequence then
        skipToken
        pure (sequence (← readBlockItems fuel))
      else if block && t == some .blockMapping then
        skipToken
        pure (mapping (← readBlockEntries fuel))
      -- Properties alone make a node, with nothing written in it.
      else if p.anchor.isSome || p.tag.isSome then
        match p.tag with
        | none | some ['!'] => pure empty
        | some t => pure (.scalar (kindOfTag t) [])
      else throw .malformed

/-- Reads a node unless one of the given tokens is next, which shows that there is nothing. -/
def readUnless : Nat → List Token → Bool → Bool → NodeReader Node
  | 0, _, _, _ => throw .malformed
  | fuel + 1, ends, block, bare => do
    if ← nextIsOneOf ends then pure empty else readNode fuel block bare

/-- Reads the entries of a block of entries up to its end. -/
def readBlockItems : Nat → NodeReader (List Node)
  | 0 => throw .malformed
  | fuel + 1 => do
    if ← acceptToken .blockEntry then
      let item ← readUnless fuel [.blockEntry, .blockEnd] true false
      pure (item :: (← readBlockItems fuel))
    else if ← acceptToken .blockEnd then pure []
    else throw .malformed

/-- Reads the entries of a block of entries without indentation of its own. -/
def readBareItems : Nat → NodeReader (List Node)
  | 0 => throw .malformed
  | fuel + 1 => do
    if ← acceptToken .blockEntry then
      let item ← readUnless fuel [.blockEntry, .key, .value, .blockEnd] true false
      pure (item :: (← readBareItems fuel))
    else pure []

/-- Reads the entries of a block of keys and values up to its end. -/
def readBlockEntries : Nat → NodeReader (List (Node × Node))
  | 0 => throw .malformed
  | fuel + 1 => do
    if ← acceptToken .blockEnd then pure []
    else if ← acceptToken .key then
      let key ← readUnless fuel [.key, .value, .blockEnd] true true
      let value ←
        if ← acceptToken .value then readUnless fuel [.key, .value, .blockEnd] true true
        else pure empty
      pure ((key, value) :: (← readBlockEntries fuel))
    else throw .malformed

/-- Reads the items between square brackets; `first` says whether there was none yet. A key
without braces makes an item that is a mapping with one entry. -/
def readFlowItems : Nat → Bool → NodeReader (List Node)
  | 0, _ => throw .malformed
  | fuel + 1, first => do
    if ← acceptToken .closeSequence then pure []
    else
      if !first then
        if !(← acceptToken .flowEntry) then throw .malformed
      if ← acceptToken .key then
        let key ← readUnless fuel [.value, .flowEntry, .closeSequence] false false
        let value ←
          if ← acceptToken .value then readUnless fuel [.flowEntry, .closeSequence] false false
          else pure empty
        pure (.mapping .map [(key, value)] :: (← readFlowItems fuel false))
      else if ← acceptToken .closeSequence then pure []
      else
        let item ← readNode fuel false false
        pure (item :: (← readFlowItems fuel false))

/-- Reads the entries between braces; `first` says whether there was none yet. -/
def readFlowEntries : Nat → Bool → NodeReader (List (Node × Node))
  | 0, _ => throw .malformed
  | fuel + 1, first => do
    if ← acceptToken .closeMapping then pure []
    else
      if !first then
        if !(← acceptToken .flowEntry) then throw .malformed
      if ← acceptToken .key then
        let key ← readUnless fuel [.value, .flowEntry, .closeMapping] false false
        let value ←
          if ← acceptToken .value then readUnless fuel [.flowEntry, .closeMapping] false false
          else pure empty
        pure ((key, value) :: (← readFlowEntries fuel false))
      else if ← acceptToken .closeMapping then pure []
      else
        let key ← readNode fuel false false
        pure ((key, empty) :: (← readFlowEntries fuel false))

end

/-- The tag handles that are known without a directive. -/
def usualHandles : List (Chars × Chars) := [(['!'], ['!']), (['!', '!'], tagStart)]

/-- Reads the directives before a document. -/
def readDirectives : Nat → Bool → List (Chars × Chars) → List Token →
    Except YamlError (List (Chars × Chars) × List Token)
  | 0, _, _, _ => .error .malformed
  | _ + 1, _, handles, [] => .ok (handles, [])
  | fuel + 1, versioned, handles, t :: r =>
    match t with
    | .version major =>
      if versioned || major != 1 then .error .malformed
      else readDirectives fuel true handles r
    | .tagHandle handle start =>
      if handles.any fun e => e.1 == handle then .error .malformed
      else readDirectives fuel versioned (handles ++ [(handle, start)]) r
    | .otherDirective => readDirectives fuel versioned handles r
    | _ => .ok (handles, t :: r)

/-- Whether a token announces the head of a document. -/
def opensHead : Token → Bool
  | .version _ | .tagHandle _ _ | .otherDirective | .documentStart => true
  | _ => false

/-- Reads the one document of a text; nothing if there is none. -/
def ofTokens (ts : List Token) : Except YamlError (Option Node) := do
  match ts with
  | [] => pure none
  | t :: _ =>
    let explicit := opensHead t
    let (handles, ts) ←
      if explicit then do
        let (declared, rest) ← readDirectives (ts.length + 1) false [] ts
        match rest with
        | .documentStart :: rest => pure (declared ++ usualHandles, rest)
        | _ => throw .malformed
      else pure (usualHandles, ts)
    let nothing := explicit && ts.head?.all fun t => opensHead t || t == .documentEnd
    let (node, s) ←
      if nothing then pure (empty, { tokens := ts, handles := handles : Reading })
      else (readNode (4 * ts.length + 4) true false).run { tokens := ts, handles := handles }
    if (s.tokens.dropWhile (· == .documentEnd)).isEmpty then pure (some node)
    else throw .malformed

end Node

end TrackerHub.Yaml
