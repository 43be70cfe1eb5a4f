import RequestHub.Yaml.Token

/-!
# The tree of a YAML document

The tokens of a document form one tree of scalars, sequences and mappings.  An alias stands for the
node that carries its anchor, so the tree holds a copy of that node in its place.  An absent node is
an empty plain scalar, and a document without any node is `void`.
-/

namespace RequestHub.Yaml

/-- A node of a document; a tag is written out in full. -/
inductive Node where
  | void
  | scalar (text : String) (plain literal : Bool) (tag : Option String)
  | sequence (items : List Node) (tag : Option String)
  | mapping (pairs : List (Node × Node)) (tag : Option String)
deriving Inhabited, Repr

namespace Node

/-- An absent node. -/
def absent : Node :=
  .scalar "" true false none

/-- What has been read, the anchors seen so far and the prefixes of tags. -/
structure State where
  rest : List Token
  anchors : List (String × Option Node) := []
  prefixes : List (String × String) := [("!", "!"), ("!!", "tag:yaml.org,2002:")]

/-- A step of reading nodes, which fails on tokens that do not belong where they are. -/
abbrev Build (α : Type) := StateT State Option α

namespace Build

/-- Fails. -/
def refuse {α : Type} : Build α := fun _ => none

/-- The next token, which stays. -/
def peek : Build (Option Token) := do
  return (← get).rest.head?

/-- Passes one token. -/
def skip : Build Unit :=
  modify fun state => { state with rest := state.rest.drop 1 }

/-- Whether the next token is one of some tokens, or there is none. -/
def endsAt (tokens : List Token) : Build Bool := do
  match ← peek with
  | none => return true
  | some token => return tokens.contains token

/-- A tag written out in full. -/
def resolveTag (tag : Tag) : Build String := do
  if tag.handle.isEmpty then return tag.suffix
  else
    match (← get).prefixes.lookup tag.handle with
    | some written => return written ++ tag.suffix
    | none => refuse

/-- Reads the anchor and the tag of a node, in either order. -/
def readProperties : Build (Option String × Option String) := do
  match ← peek with
  | some (.anchor name) => do
      skip
      match ← peek with
      | some (.tag tag) => do
          skip
          return (some name, some (← resolveTag tag))
      | _ => return (some name, none)
  | some (.tag tag) => do
      skip
      match ← peek with
      | some (.anchor name) => do
          skip
          return (some name, some (← resolveTag tag))
      | _ => return (none, some (← resolveTag tag))
  | _ => return (none, none)

/-- Binds an anchor to a node, or to nothing while the node is still open. -/
def bindAnchor (name : Option String) (node : Option Node) : Build Unit :=
  match name with
  | none => return ()
  | some name => modify fun state => { state with anchors := (name, node) :: state.anchors }

mutual

/-- Reads one node; `block` allows block collections and `indentless` a sequence that is not indented. -/
def readNode (block indentless : Bool) : (fuel : Nat) → Build Node
  | 0 => refuse
  | fuel + 1 => do
      match ← peek with
      | some (.alias name) => do
          skip
          match (← get).anchors.lookup name with
          | some (some node) => return node
          | _ => refuse
      | _ => do
          let (anchor, tag) ← readProperties
          bindAnchor anchor none
          let node ←
            match ← peek with
            | some .blockEntry =>
                if indentless then pure (.sequence (← readIndentless fuel) tag)
                else if anchor.isSome || tag.isSome then pure (.scalar "" true false tag)
                else refuse
            | some (.scalar text plain literal) => do
                skip
                pure (.scalar text plain literal tag)
            | some .flowSequence => do
                skip
                pure (.sequence (← readFlowItems true fuel) tag)
            | some .flowMapping => do
                skip
                pure (.mapping (← readFlowPairs true fuel) tag)
            | some .blockSequence =>
                if block then do
                  skip
                  pure (.sequence (← readBlockItems fuel) tag)
                else if anchor.isSome || tag.isSome then pure (.scalar "" true false tag)
                else refuse
            | some .blockMapping =>
                if block then do
                  skip
                  pure (.mapping (← readBlockPairs fuel) tag)
                else if anchor.isSome || tag.isSome then pure (.scalar "" true false tag)
                else refuse
            | _ =>
                if anchor.isSome || tag.isSome then pure (.scalar "" true false tag) else refuse
          bindAnchor anchor (some node)
          return node

/-- Reads a node unless one of the given tokens, or nothing, stands in its place. -/
def readUnless (stops : List Token) (block indentless : Bool) : (fuel : Nat) → Build Node
  | 0 => refuse
  | fuel + 1 => do
      if ← endsAt stops then return absent else readNode block indentless fuel

/-- Reads the items of a block sequence and its end. -/
def readBlockItems : (fuel : Nat) → Build (List Node)
  | 0 => refuse
  | fuel + 1 => do
      match ← peek with
      | some .blockEntry => do
          skip
          let item ← readUnless [.blockEntry, .blockEnd] true false fuel
          return item :: (← readBlockItems fuel)
      | some .blockEnd => do
          skip
          return []
      | _ => refuse

/-- Reads the items of a block sequence that is not indented further than what holds it. -/
def readIndentless : (fuel : Nat) → Build (List Node)
  | 0 => refuse
  | fuel + 1 => do
      match ← peek with
      | some .blockEntry => do
          skip
          let item ← readUnless [.blockEntry, .key, .value, .blockEnd] true false fuel
          return item :: (← readIndentless fuel)
      | _ => return []

/-- Reads the pairs of a block mapping and its end. -/
def readBlockPairs : (fuel : Nat) → Build (List (Node × Node))
  | 0 => refuse
  | fuel + 1 => do
      match ← peek with
      | some .key => do
          skip
          let key ← readUnless [.key, .value, .blockEnd] true true fuel
          let value ← readBlockValue fuel
          return (key, value) :: (← readBlockPairs fuel)
      | some .value => do
          let value ← readBlockValue fuel
          return (absent, value) :: (← readBlockPairs fuel)
      | some .blockEnd => do
          skip
          return []
      | _ => refuse

/-- Reads the value of a pair of a block mapping, if its mark stands here. -/
def readBlockValue : (fuel : Nat) → Build Node
  | 0 => refuse
  | fuel + 1 => do
      match ← peek with
      | some .value => do
          skip
          readUnless [.key, .value, .blockEnd] true true fuel
      | _ => return absent

/-- Reads the items of a flow sequence and its end. -/
def readFlowItems (first : Bool) : (fuel : Nat) → Build (List Node)
  | 0 => refuse
  | fuel + 1 => do
      if (← peek) = some .flowSequenceEnd then do
        skip
        return []
      else do
        if !first then
          if (← peek) = some .flowEntry then skip else refuse
        match ← peek with
        | some .flowSequenceEnd => do
            skip
            return []
        | some .key => do
            skip
            let key ← readUnless [.value, .flowEntry, .flowSequenceEnd] false false fuel
            let value ← readFlowValue .flowSequenceEnd fuel
            return .mapping [(key, value)] none :: (← readFlowItems false fuel)
        | _ => do
            let item ← readNode false false fuel
            return item :: (← readFlowItems false fuel)

/-- Reads the pairs of a flow mapping and its end. -/
def readFlowPairs (first : Bool) : (fuel : Nat) → Build (List (Node × Node))
  | 0 => refuse
  | fuel + 1 => do
      if (← peek) = some .flowMappingEnd then do
        skip
        return []
      else do
        if !first then
          if (← peek) = some .flowEntry then skip else refuse
        match ← peek with
        | some .flowMappingEnd => do
            skip
            return []
        | some .key => do
            skip
            let key ← readUnless [.value, .flowEntry, .flowMappingEnd] false false fuel
            let value ← readFlowValue .flowMappingEnd fuel
            return (key, value) :: (← readFlowPairs false fuel)
        | _ => do
            let key ← readNode false false fuel
            return (key, absent) :: (← readFlowPairs false fuel)

/-- Reads the value of a pair of a flow collection, if its mark stands here. -/
def readFlowValue (closing : Token) : (fuel : Nat) → Build Node
  | 0 => refuse
  | fuel + 1 => do
      match ← peek with
      | some .value => do
          skip
          readUnless [.flowEntry, closing] false false fuel
      | _ => return absent

end

/-- Reads the directives in front of a document. -/
def readDirectives (versionSeen : Bool) (handles : List String) : (fuel : Nat) → Build Bool
  | 0 => refuse
  | fuel + 1 => do
      match ← peek with
      | some (.version major minor) =>
          if versionSeen || major ≠ 1 || (minor ≠ 1 && minor ≠ 2) then refuse
          else do
            skip
            let _ ← readDirectives true handles fuel
            return true
      | some (.tagPrefix handle written) =>
          if handles.contains handle then refuse
          else do
            skip
            modify fun state => { state with prefixes := (handle, written) :: state.prefixes }
            let _ ← readDirectives versionSeen (handle :: handles) fuel
            return true
      | _ => return false

/-- Reads the only document of a stream. -/
def readDocument (fuel : Nat) : Build Node := do
  let directed ← readDirectives false [] fuel
  let node ←
    match ← peek with
    | none => if directed then refuse else pure Node.void
    | some .documentStart => do
        skip
        match ← peek with
        | none | some .documentStart | some .documentEnd | some (.version _ _)
        | some (.tagPrefix _ _) => pure absent
        | _ => readNode true false fuel
    | _ => if directed then refuse else readNode true false fuel
  modify fun state => { state with rest := state.rest.dropWhile (· = .documentEnd) }
  if (← peek).isNone then return node else refuse

end Build

/-- The node that the tokens of a document form. -/
def ofTokens? (tokens : List Token) : Option Node :=
  ((Build.readDocument (8 * tokens.length + 8)).run { rest := tokens }).map (·.1)

/-- The node that a text spells. -/
def ofString? (text : String) : Option Node := do
  ofTokens? (← Token.ofChars? text.toList)

end Node

end RequestHub.Yaml
