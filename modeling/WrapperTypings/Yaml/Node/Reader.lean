import WrapperTypings.Yaml.Node.Basic
import WrapperTypings.Yaml.Token.Lexer

set_option autoImplicit false

/-! From tokens to the node of a document. Every function looks at the tokens in the order of the
text and no farther than it has to, so that of several faults the first one is reported. -/

namespace WrapperTypings.Yaml

/-- What is known between two tokens: the tokens to come, for how many collections inside one another
there is room, what the handles of tags stand for, and the nodes with an anchor. A node that is not
complete stands for itself. -/
structure Outline where
  tokens : Stream Fault Token
  room : Nat
  handles : List (String × String)
  anchors : List (String × Node)

abbrev Reading (α : Type) := StateT Outline (Except Fault) α

namespace Reading

def fail {α : Type} (fault : Fault) : Reading α :=
  throw fault

def peek : Reading Token := do
  let outline ← get
  match outline.tokens.items with
  | token :: _ => pure token
  | [] => fail (outline.tokens.fault.getD .misplaced)

def drop : Reading Unit := do
  let _ ← peek
  modify (fun outline =>
    { outline with tokens := { outline.tokens with items := outline.tokens.items.tail } })

def take? (token : Token) : Reading Bool := do
  if (← peek) = token then
    drop
    pure true
  else pure false

def expect (token : Token) : Reading Unit := do
  unless ← take? token do fail .misplaced

def nextIn (tokens : List Token) : Reading Bool := do
  pure (tokens.contains (← peek))

structure Properties where
  anchor : Option String
  tag : Option (Option String × String)

def anchor? : Reading (Option String) := do
  match ← peek with
  | .anchor name =>
      drop
      pure (some name)
  | _ => pure none

def tag? : Reading (Option (Option String × String)) := do
  match ← peek with
  | .tag handle suffix =>
      drop
      pure (some (handle, suffix))
  | _ => pure none

def properties : Reading Properties := do
  match ← anchor? with
  | some name => pure ⟨some name, ← tag?⟩
  | none =>
      match ← tag? with
      | some tag => pure ⟨← anchor?, some tag⟩
      | none => pure ⟨none, none⟩

def tagText : Option (Option String × String) → Reading (Option String)
  | none => pure none
  | some (none, suffix) => pure (some suffix)
  | some (some handle, suffix) => do
      match (← get).handles.lookup handle with
      | some lead => pure (some (lead ++ suffix))
      | none => fail .misplaced

def collectionTag (usual : Tag) (tag : Option String) : Tag :=
  match tag with
  | none => usual
  | some text => if text = "!" then usual else Tag.ofText text

/-- The type of a scalar. Without a tag plain text has the type it looks like and other text is a
string; the tag of a lone exclamation mark makes any text count as plain. -/
def scalarTag (tag : Option String) (text : String) (plain : Bool) : Tag :=
  match tag with
  | none => if plain then Tag.ofPlain text else .string
  | some name => if name = "!" then Tag.ofPlain text else Tag.ofText name

def checkAnchor : Option String → Reading Unit
  | none => pure ()
  | some name => do
      if ((← get).anchors.lookup name).isSome then fail .reference

def setAnchor (name? : Option String) (node : Node) : Reading Unit :=
  match name? with
  | none => pure ()
  | some name => modify (fun outline => { outline with anchors := (name, node) :: outline.anchors })

def aliased (name : String) : Reading Node := do
  match (← get).anchors.lookup name with
  | some node => pure node
  | none => fail .reference

def emptyScalar : Node :=
  .scalar .null ""

/-- Where a node stands: in a flow collection, in a block, or in a block mapping, where a sequence
need not be indented. -/
inductive Position where
  | flow
  | block
  | entry
  deriving DecidableEq

def deeper {α : Type} (content : Reading α) : Reading α := do
  match (← get).room with
  | 0 => fail .tooDeep
  | room + 1 =>
      modify (fun outline => { outline with room })
      let found ← content
      modify (fun outline => { outline with room := room + 1 })
      pure found

/-- Reads the content of a collection between noting its anchor as incomplete and complete. -/
def collection (anchor : Option String) (isMap : Bool) (content : Reading Node) : Reading Node := do
  checkAnchor anchor
  setAnchor anchor (.again isMap)
  let node ← deeper content
  setAnchor anchor node
  pure node

mutual

def node : Nat → Position → Reading Node
  | 0, _ => fail .misplaced
  | fuel + 1, position => do
      match ← peek with
      | .reference name =>
          drop
          aliased name
      | _ =>
          let found ← properties
          let tag ← tagText found.tag
          let anchor := found.anchor
          let token ← peek
          if token = .blockEntry && position = .entry then
            collection anchor false (do
              pure (.sequence (collectionTag .sequence tag) (← indentlessItems fuel)))
          else
            match token with
            | .scalar text plain =>
                drop
                checkAnchor anchor
                let result := Node.scalar (scalarTag tag text plain) text
                setAnchor anchor result
                pure result
            | .flowSequenceStart =>
                collection anchor false (do
                  drop
                  pure (.sequence (collectionTag .sequence tag) (← flowItems fuel true)))
            | .flowMappingStart =>
                collection anchor true (do
                  drop
                  pure (.mapping (collectionTag .mapping tag) (← flowEntries fuel true)))
            | token =>
                if token = .blockSequenceStart && position ≠ .flow then
                  collection anchor false (do
                    drop
                    pure (.sequence (collectionTag .sequence tag) (← blockItems fuel)))
                else if token = .blockMappingStart && position ≠ .flow then
                  collection anchor true (do
                    drop
                    pure (.mapping (collectionTag .mapping tag) (← blockEntries fuel)))
                else if anchor.isSome || tag.isSome then
                  checkAnchor anchor
                  let result := Node.scalar (scalarTag tag "" true) ""
                  setAnchor anchor result
                  pure result
                else fail .misplaced

/-- The node that stands here, or an empty one if one of some tokens comes instead. -/
def nodeUnless : Nat → List Token → Position → Reading Node
  | 0, _, _ => fail .misplaced
  | fuel + 1, tokens, position => do
      if ← nextIn tokens then pure emptyScalar
      else node fuel position

def blockItems : Nat → Reading (List Node)
  | 0 => fail .misplaced
  | fuel + 1 => do
      if ← take? .blockEntry then
        let item ← nodeUnless fuel [.blockEntry, .blockEnd] .block
        pure (item :: (← blockItems fuel))
      else
        expect .blockEnd
        pure []

def indentlessItems : Nat → Reading (List Node)
  | 0 => fail .misplaced
  | fuel + 1 => do
      if ← take? .blockEntry then
        let item ← nodeUnless fuel [.blockEntry, .key, .value, .blockEnd] .block
        pure (item :: (← indentlessItems fuel))
      else pure []

def blockEntries : Nat → Reading (List (Node × Node))
  | 0 => fail .misplaced
  | fuel + 1 => do
      if ← take? .key then
        let key ← nodeUnless fuel [.key, .value, .blockEnd] .entry
        let value ←
          if ← take? .value then nodeUnless fuel [.key, .value, .blockEnd] .entry
          else pure emptyScalar
        pure ((key, value) :: (← blockEntries fuel))
      else
        expect .blockEnd
        pure []

/-- The items of a flow sequence. A single entry of a mapping may stand as an item. -/
def flowItems : Nat → Bool → Reading (List Node)
  | 0, _ => fail .misplaced
  | fuel + 1, first => do
      if ← take? .flowSequenceEnd then pure []
      else
        unless first do expect .flowEntry
        if ← take? .key then
          let entry ← deeper (do
            let key ← nodeUnless fuel [.value, .flowEntry, .flowSequenceEnd] .flow
            let value ←
              if ← take? .value then nodeUnless fuel [.flowEntry, .flowSequenceEnd] .flow
              else pure emptyScalar
            let _ ← peek
            pure (key, value))
          pure (.mapping .mapping [entry] :: (← flowItems fuel false))
        else if ← take? .flowSequenceEnd then pure []
        else
          let item ← node fuel .flow
          pure (item :: (← flowItems fuel false))

def flowEntries : Nat → Bool → Reading (List (Node × Node))
  | 0, _ => fail .misplaced
  | fuel + 1, first => do
      if ← take? .flowMappingEnd then pure []
      else
        unless first do expect .flowEntry
        if ← take? .key then
          let key ← nodeUnless fuel [.value, .flowEntry, .flowMappingEnd] .flow
          let value ←
            if ← take? .value then nodeUnless fuel [.flowEntry, .flowMappingEnd] .flow
            else pure emptyScalar
          pure ((key, value) :: (← flowEntries fuel false))
        else if ← take? .flowMappingEnd then pure []
        else
          let key ← node fuel .flow
          let _ ← peek
          pure ((key, emptyScalar) :: (← flowEntries fuel false))

end

def usualHandles : List (String × String) :=
  [("!", "!"), ("!!", Tag.standardLead)]

/-- The directives of a document: one version at most, of the first generation, and no tag handle
twice. Answers the handles. -/
def directives : Nat → Bool → List (String × String) → Reading (List (String × String))
  | 0, _, handles => pure handles
  | fuel + 1, versioned, handles => do
      match ← peek with
      | .versionDirective major =>
          drop
          if versioned || major ≠ 1 then fail .misplaced
          directives fuel true handles
      | .tagDirective handle lead =>
          drop
          if (handles.lookup handle).isSome then fail .misplaced
          directives fuel versioned ((handle, lead) :: handles)
      | .otherDirective =>
          drop
          directives fuel versioned handles
      | _ => pure handles

def skipDocumentEnds : Nat → Reading Unit
  | 0 => pure ()
  | fuel + 1 => do
      if ← take? .documentEnd then skipDocumentEnds fuel

def documentHead (fuel : Nat) : Reading Bool := do
  skipDocumentEnds fuel
  if ← take? .streamEnd then pure false
  else
    let handles ← directives fuel false []
    expect .documentStart
    modify (fun outline => { outline with handles := handles ++ usualHandles })
    pure true

def isDocumentHead : Token → Bool
  | .versionDirective _ => true
  | .tagDirective _ _ => true
  | .otherDirective => true
  | .documentStart => true
  | .streamEnd => true
  | _ => false

def documentContent (fuel : Nat) : Reading Node := do
  let token ← peek
  if isDocumentHead token || token = .documentEnd then pure emptyScalar
  else node fuel .block

def singleDocument (fuel : Nat) : Reading (Option Node) := do
  expect .streamStart
  let root ←
    if isDocumentHead (← peek) then
      if ← documentHead fuel then some <$> documentContent fuel else pure none
    else
      modify (fun outline => { outline with handles := usualHandles })
      some <$> node fuel .block
  match root with
  | none => pure none
  | some root =>
      -- The head of a second document is read before the document is refused.
      if ← documentHead fuel then fail .reference
      pure (some root)

end Reading

/-- The node of a document; an empty stream has none. There is always room for the root. -/
def Node.ofSource (room : Nat) (source : Source) : Except Fault (Option Node) :=
  let tokens := Token.ofSource source
  (Reading.singleDocument (4 * tokens.items.length + 8)).run' ⟨tokens, room + 1, [], []⟩

end WrapperTypings.Yaml
