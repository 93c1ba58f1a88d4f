import ControlPlane.Yaml.Token

/-!
Documents: the nodes that the tokens of a text make up. An alias refers to the number that its
anchor had when the alias was met; a number that was given twice means the node that began last.
-/

namespace ControlPlane.Yaml

/-- A node of a document; a tag is there if one is written. -/
inductive Node where
  | scalar (tag : Option String) (scalar : Scalar)
  | sequence (tag : Option String) (items : List Node)
  | mapping (tag : Option String) (entries : List (Node × Node))
  /-- The node whose anchor has a number. -/
  | alias (number : Nat)
  deriving Inhabited

/-- A node that bears an anchor. -/
structure Anchored where
  /-- The number of the anchor. -/
  number : Nat
  /-- How many nodes began before it. -/
  place : Nat
  node : Node

/-- A document. -/
structure Document where
  root : Node
  anchored : List Anchored
  /-- The number of its scalars and aliases, and of the starts and ends of its collections. -/
  size : Nat

/-! ### The state of the parser -/

/-- What the parser knows while it reads a document. -/
structure Parser where
  tokens : List Token
  /-- What the tag handles of the document stand for. -/
  handles : List (String × String) := []
  /-- The numbers of the anchors by name, and how many names there are. -/
  numbers : List (String × Nat) := []
  names : Nat := 0
  anchored : List Anchored := []
  size : Nat := 0

/-- A step of the parser. -/
abbrev Parse := StateT Parser (Except Fault)

namespace Parse

/-- The next token. -/
def peek : Parse Token := do
  match (← get).tokens with
  | t :: _ => pure t
  | [] => pure .finish

/-- Goes on to the token after the next. -/
def skip : Parse Unit := modify fun p => { p with tokens := p.tokens.drop 1 }

/-- Goes on if the next token is a given one. -/
def skip? (t : Token) : Parse Bool := do
  if (← peek) = t then do
    skip
    pure true
  else pure false

/-- Whether the next token is one of a list. -/
def isAny (ts : List Token) : Parse Bool := do pure (ts.contains (← peek))

/-- Counts parts of the document. -/
def count (n : Nat) : Parse Unit := modify fun p => { p with size := p.size + n }

/-- A node that is not written. -/
def empty : Parse Node := do
  count 1
  pure (.scalar none ⟨"", .plain⟩)

/-- Gives an anchor its number. -/
def number (name : String) : Parse Nat := do
  let p ← get
  let known := p.numbers.any fun n => n.1 == name
  set { p with
    numbers := (name, p.names) :: p.numbers
    names := if known then p.names else p.names + 1 }
  pure p.names

/-- The meaning of a tag. -/
def expand (tag : TagText) : Parse String := do
  if tag.handle.isEmpty then pure tag.suffix
  else
    match (← get).handles.find? fun h => h.1 == tag.handle with
    | some (_, stem) => pure (stem ++ tag.suffix)
    | none => throw .unknownTagHandle

/-- Reads an anchor and a tag, in any order, neither twice. -/
def properties : Parse (Option String × Option String) := do
  match ← peek with
  | .anchor name => do
    skip
    match ← peek with
    | .tag t => do
      skip
      pure (some name, some (← expand t))
    | _ => pure (some name, none)
  | .tag t => do
    skip
    match ← peek with
    | .anchor name => do
      skip
      pure (some name, some (← expand t))
    | _ => pure (none, some (← expand t))
  | _ => pure (none, none)

/-! ### Nodes -/

/-- Where a node stands. -/
inductive Place where
  | block
  /-- In a block, where the entries of a sequence may stand at the column of their parent. -/
  | blockValue
  | flow
  deriving DecidableEq

mutual

/-- Reads a node. -/
def node (place : Place) : Nat → Parse Node
  | 0 => throw .tooDeep
  | n + 1 => do
    if let .alias name ← peek then
      skip
      count 1
      match (← get).numbers.find? fun a => a.1 == name with
      | some (_, number) => return .alias number
      | none => throw .unknownAnchor
    let (anchor, tag) ← properties
    let start := (← get).size
    let number ← anchor.mapM number
    let node ← content place (anchor.isSome || tag.isSome) tag n
    if let some number := number then
      modify fun p => { p with anchored := ⟨number, start, node⟩ :: p.anchored }
    pure node

/-- Reads what a node holds; one with an anchor or a tag may hold nothing. -/
def content (place : Place) (mayBeEmpty : Bool) (tag : Option String) : Nat → Parse Node
  | 0 => throw .tooDeep
  | n + 1 => do
    match ← peek with
    | .scalar s => do
      skip
      count 1
      pure (.scalar (tag.filter (· != "!")) s)
    | .flowSequenceStart => do
      skip
      count 2
      pure (.sequence tag (← flowItems true n))
    | .flowMappingStart => do
      skip
      count 2
      pure (.mapping tag (← flowEntries true n))
    | .blockSequenceStart =>
      if place = .flow then other
      else do
        skip
        count 2
        pure (.sequence tag (← blockItems n))
    | .blockMappingStart =>
      if place = .flow then other
      else do
        skip
        count 2
        pure (.mapping tag (← blockEntries n))
    | .blockEntry =>
      if place = .blockValue then do
        count 2
        pure (.sequence tag (← valueItems n))
      else other
    | _ => other
where
  other : Parse Node :=
    if mayBeEmpty then do
      count 1
      pure (.scalar tag ⟨"", .plain⟩)
    else throw .unexpectedToken

/-- Reads a node unless one of a list of tokens comes first. -/
def nodeUnless (place : Place) (ends : List Token) : Nat → Parse Node
  | 0 => throw .tooDeep
  | n + 1 => do if ← isAny ends then empty else node place n

/-- Reads the entries of a block sequence and its end. -/
def blockItems : Nat → Parse (List Node)
  | 0 => throw .tooDeep
  | n + 1 => do
    if ← skip? .blockEntry then
      let item ← nodeUnless .block [.blockEntry, .blockEnd] n
      pure (item :: (← blockItems n))
    else if ← skip? .blockEnd then pure []
    else throw .unexpectedToken

/-- Reads the entries of a block sequence that stands at the column of its parent. -/
def valueItems : Nat → Parse (List Node)
  | 0 => throw .tooDeep
  | n + 1 => do
    if ← skip? .blockEntry then
      let item ← nodeUnless .block [.blockEntry, .key, .value, .blockEnd] n
      pure (item :: (← valueItems n))
    else pure []

/-- Reads the entries of a block mapping and its end. -/
def blockEntries : Nat → Parse (List (Node × Node))
  | 0 => throw .tooDeep
  | n + 1 => do
    if ← skip? .key then
      let key ← nodeUnless .blockValue [.key, .value, .blockEnd] n
      let value ← blockValue n
      pure ((key, value) :: (← blockEntries n))
    else if ← skip? .blockEnd then pure []
    else throw .unexpectedToken

/-- Reads the value of a block mapping, which may be absent. -/
def blockValue : Nat → Parse Node
  | 0 => throw .tooDeep
  | n + 1 => do
    if ← skip? .value then nodeUnless .blockValue [.key, .value, .blockEnd] n else empty

/-- Reads the items of a flow sequence and its end. -/
def flowItems (first : Bool) : Nat → Parse (List Node)
  | 0 => throw .tooDeep
  | n + 1 => do
    if ← skip? .flowSequenceEnd then return []
    if !first then
      if !(← skip? .flowEntry) then throw .unexpectedToken
    if ← skip? .flowSequenceEnd then return []
    let item ← if ← skip? .key then do
        count 2
        let (key, value) ← flowPair n
        pure (.mapping none [(key, value)])
      else node .flow n
    pure (item :: (← flowItems false n))

/-- Reads a mapping of one entry within a flow sequence, its key mark read already. -/
def flowPair : Nat → Parse (Node × Node)
  | 0 => throw .tooDeep
  | n + 1 => do
    let key ← if ← isAny [.value, .flowEntry, .flowSequenceEnd] then do
        skip
        empty
      else node .flow n
    let value ← if ← skip? .value then nodeUnless .flow [.flowEntry, .flowSequenceEnd] n else empty
    pure (key, value)

/-- Reads the entries of a flow mapping and its end. -/
def flowEntries (first : Bool) : Nat → Parse (List (Node × Node))
  | 0 => throw .tooDeep
  | n + 1 => do
    if ← skip? .flowMappingEnd then return []
    if !first then
      if !(← skip? .flowEntry) then throw .unexpectedToken
    if ← skip? .flowMappingEnd then return []
    let (key, value) ← if ← skip? .key then do
        let key ← nodeUnless .flow [.value, .flowEntry, .flowMappingEnd] n
        let value ←
          if ← skip? .value then nodeUnless .flow [.flowEntry, .flowMappingEnd] n else empty
        pure (key, value)
      else do
        let key ← node .flow n
        pure (key, ← empty)
    pure ((key, value) :: (← flowEntries false n))

end

/-! ### Documents -/

/-- The handles that need no directive. -/
def standardHandles : List (String × String) := [("!", "!"), ("!!", "tag:yaml.org,2002:")]

/-- Reads the directives before a document: no two of a kind or handle, and a version that can be
read. Gives the handles, and whether there were directives. -/
def directives (versioned : Bool) (handles : List (String × String)) :
    Nat → Parse (List (String × String) × Bool)
  | 0 => pure (handles, versioned)
  | n + 1 => do
    match ← peek with
    | .directive (.version major minor) => do
      if versioned || major ≠ 1 || (minor ≠ 1 && minor ≠ 2) then throw .badDirective
      skip
      directives true handles n
    | .directive (.tag handle stem) => do
      if handles.any fun h => h.1 == handle then throw .badDirective
      skip
      directives versioned ((handle, stem) :: handles) n
    | _ => pure (handles, versioned || !handles.isEmpty)

/-- Whether a token can stand where the content of a document is absent. -/
def endsDocument : Token → Bool
  | .directive _ | .documentStart | .documentEnd | .finish => true
  | _ => false

/-- Reads the document that comes next, if there is one; the first one needs no start. -/
def document? (first : Bool) (fuel : Nat) : Parse (Option Document) := do
  if !first then
    modify fun p => { p with tokens := p.tokens.dropWhile (· == .documentEnd) }
  if (← peek) = .finish then return none
  let (handles, directed) ← directives false [] fuel
  modify fun p => { p with handles := handles ++ standardHandles }
  let isStart ← skip? .documentStart
  if !isStart && (!first || directed) then throw .unexpectedToken
  let root ← if isStart && endsDocument (← peek) then empty else node .block fuel
  if let .fault f ← peek then throw f
  let _ ← skip? .documentEnd
  let p ← get
  pure (some ⟨root, p.anchored, p.size⟩)

/-- The documents of tokens, and the fault that ends them if there is one. -/
def documents (first : Bool) : Nat → List Token → List (Except Fault Document)
  | 0, _ => []
  | n + 1, tokens =>
    match (document? first (4 * tokens.length + 4)).run { tokens } with
    | .error f => [.error (match faultOf tokens with | some g => g | none => f)]
    | .ok (none, _) => []
    | .ok (some d, p) => .ok d :: documents false n p.tokens
where
  /-- The fault at the end of tokens, which explains why an expected one is missing. -/
  faultOf (tokens : List Token) : Option Fault :=
    match tokens.getLast? with
    | some (.fault f) => some f
    | _ => none

end Parse

/-- The documents of a text. -/
def Document.ofText (text : String) : List (Except Fault Document) :=
  let tokens := Token.ofText text
  Parse.documents true (tokens.length + 1) tokens

end ControlPlane.Yaml
