import Triage.Entries
import Triage.Yaml.Token

namespace Triage.Yaml

/-! The tree of a YAML text. Anchors are numbered, and an alias stands for the node
with the number of its anchor. -/

structure Properties where
  anchor : Option Nat
  /-- With its handle expanded. -/
  tag : Option String
deriving DecidableEq, Repr

inductive Node where
  | alias (anchor : Nat)
  | scalar (properties : Properties) (plain : Bool) (text : String)
  | sequence (properties : Properties) (items : List Node)
  | mapping (properties : Properties) (entries : List (Node × Node))
deriving Repr

namespace Node

/-- What stands where nothing is written. -/
def missing : Node :=
  .scalar ⟨none, none⟩ true ""

def properties? : Node → Option Properties
  | .alias _ => none
  | .scalar properties _ _ => some properties
  | .sequence properties _ => some properties
  | .mapping properties _ => some properties

mutual
/-- Every node that has an anchor, in the order in which they begin. -/
def anchored : Node → List (Nat × Node)
  | .alias _ => []
  | .scalar properties plain text =>
      (properties.anchor.map (·, Node.scalar properties plain text)).toList
  | .sequence properties items =>
      (properties.anchor.map (·, Node.sequence properties items)).toList ++ anchoredItems items
  | .mapping properties entries =>
      (properties.anchor.map (·, Node.mapping properties entries)).toList ++
        anchoredEntries entries

def anchoredItems : List Node → List (Nat × Node)
  | [] => []
  | item :: rest => anchored item ++ anchoredItems rest

def anchoredEntries : List (Node × Node) → List (Nat × Node)
  | [] => []
  | (key, value) :: rest => anchored key ++ anchored value ++ anchoredEntries rest
end

end Node

/-! Reading the tokens. -/

structure Reading where
  tokens : List Token
  /-- The anchors by name. -/
  anchors : Entries Nat
  /-- What the handles of tags stand for. -/
  handles : Entries String

abbrev Reader := StateT Reading Option

namespace Reader

def peek : Reader (Option Token) := do
  return (← get).tokens.head?

def skip : Reader Unit :=
  modify fun reading => { reading with tokens := reading.tokens.tail }

/-- The next token is one of `tokens`, or there is none. -/
def atAny (tokens : List Token) : Reader Bool := do
  return (← peek).all tokens.contains

def expect (token : Token) : Reader Unit := do
  if (← peek) == some token then skip else failure

/-- A new anchor takes the number of the names that are known. -/
def anchor : Reader (Option Nat) := do
  match ← peek with
  | some (.anchor name) =>
      skip
      let number := (← get).anchors.length
      modify fun reading => { reading with anchors := reading.anchors.insert name number }
      return some number
  | _ => return none

def tag : Reader (Option String) := do
  match ← peek with
  | some (.tag handle suffix) =>
      skip
      if handle == "" then return some suffix
      else
        match (← get).handles.get? handle with
        | some expansion => return some (expansion ++ suffix)
        | none => failure
  | _ => return none

/-- An anchor and a tag in either order. -/
def properties : Reader Properties := do
  match ← anchor with
  | some number => return ⟨some number, ← tag⟩
  | none =>
      let tag ← tag
      return ⟨← anchor, tag⟩

/-- Items up to `close`, with commas between them. -/
def flowList {α : Type} (close : Token) (item : Reader α) : (fuel : Nat) → Reader (List α)
  | 0 => failure
  | fuel + 1 => do
      if (← peek) == some close then
        skip
        return []
      else
        let first ← item
        if (← peek) == some close then
          skip
          return [first]
        else
          expect .flowEntry
          return first :: (← flowList close item fuel)

mutual
/-- `block` holds where indentation may structure the node, and `flat` where a
sequence need not be indented. -/
def node (block flat : Bool) : (fuel : Nat) → Reader Node
  | 0 => failure
  | fuel + 1 => do
      if let some (.alias name) ← peek then
        skip
        match (← get).anchors.get? name with
        | some number => return .alias number
        | none => failure
      else
        let properties ← properties
        match ← peek with
        | some (.scalar plain text) =>
            skip
            return .scalar { properties with tag := properties.tag.filter (· != "!") } plain text
        | some .blockEntry =>
            if flat then return .sequence properties (← flatItems fuel)
            else if properties == ⟨none, none⟩ then failure
            else return .scalar properties true ""
        | some .flowSequence =>
            skip
            return .sequence properties (← flowList .flowSequenceEnd (flowItem fuel) fuel)
        | some .flowMapping =>
            skip
            return .mapping properties (← flowList .flowMappingEnd (flowPair fuel) fuel)
        | some .blockSequence =>
            if block then
              skip
              return .sequence properties (← blockItems fuel)
            else if properties == ⟨none, none⟩ then failure
            else return .scalar properties true ""
        | some .blockMapping =>
            if block then
              skip
              return .mapping properties (← blockPairs fuel)
            else if properties == ⟨none, none⟩ then failure
            else return .scalar properties true ""
        | _ =>
            if properties == ⟨none, none⟩ then failure else return .scalar properties true ""

/-- The node behind a hyphen, a question mark or a colon, unless `ends` comes
first. -/
def nodeUnless (ends : List Token) (block flat : Bool) : (fuel : Nat) → Reader Node
  | 0 => failure
  | fuel + 1 => do
      if ← atAny ends then return .missing else node block flat fuel

def blockItems : (fuel : Nat) → Reader (List Node)
  | 0 => failure
  | fuel + 1 => do
      match ← peek with
      | some .blockEntry =>
          skip
          let item ← nodeUnless [.blockEntry, .blockEnd] true false fuel
          return item :: (← blockItems fuel)
      | _ =>
          expect .blockEnd
          return []

/-- A sequence whose hyphens stand in the column of the key above it. -/
def flatItems : (fuel : Nat) → Reader (List Node)
  | 0 => failure
  | fuel + 1 => do
      match ← peek with
      | some .blockEntry =>
          skip
          let item ← nodeUnless [.blockEntry, .key, .value, .blockEnd] true false fuel
          return item :: (← flatItems fuel)
      | _ => return []

def blockPairs : (fuel : Nat) → Reader (List (Node × Node))
  | 0 => failure
  | fuel + 1 => do
      match ← peek with
      | some .key =>
          skip
          let key ← nodeUnless [.key, .value, .blockEnd] true true fuel
          let value ← valueUnless [.key, .value, .blockEnd] true fuel
          return (key, value) :: (← blockPairs fuel)
      | _ =>
          expect .blockEnd
          return []

def valueUnless (ends : List Token) (block : Bool) : (fuel : Nat) → Reader Node
  | 0 => failure
  | fuel + 1 => do
      match ← peek with
      | some .value =>
          skip
          nodeUnless ends block block fuel
      | _ => return .missing

/-- An item of a flow sequence; a pair is a mapping with one entry. Whatever stands
in the place of the key is passed over. -/
def flowItem : (fuel : Nat) → Reader Node
  | 0 => failure
  | fuel + 1 => do
      if (← peek) == some .key then
        skip
        let key ←
          if ← atAny [.value, .flowEntry, .flowSequenceEnd] then do
            skip
            pure .missing
          else node false false fuel
        let value ← valueUnless [.flowEntry, .flowSequenceEnd] false fuel
        return .mapping ⟨none, none⟩ [(key, value)]
      else node false false fuel

/-- An entry of a flow mapping; a node that is no key has no value. -/
def flowPair : (fuel : Nat) → Reader (Node × Node)
  | 0 => failure
  | fuel + 1 => do
      if (← peek) == some .key then
        skip
        let key ← nodeUnless [.value, .flowEntry, .flowMappingEnd] false false fuel
        let value ← valueUnless [.flowEntry, .flowMappingEnd] false fuel
        return (key, value)
      else return (← node false false fuel, .missing)
end

/-! Documents. -/

def standardHandles : Entries String :=
  [("!", "!"), ("!!", "tag:yaml.org,2002:")]

/-- The directives before a document: at most one version, and handles that differ. -/
def directives (versioned : Bool) (handles : Entries String) : (fuel : Nat) → Reader Unit
  | 0 => failure
  | fuel + 1 => do
      match ← peek with
      | some (.version major minor) =>
          skip
          if versioned || major != 1 || (minor != 1 && minor != 2) then failure
          else directives true handles fuel
      | some (.tagHandle handle expansion) =>
          skip
          if handles.contains handle then failure
          else directives versioned (handles.insert handle expansion) fuel
      | _ => modify fun reading => { reading with handles := standardHandles.extend handles }

def skipAll (token : Token) : (fuel : Nat) → Reader Unit
  | 0 => failure
  | fuel + 1 => do
      if (← peek) == some token then
        skip
        skipAll token fuel

/-- The only document of a text, if there is one. -/
def document (fuel : Nat) : Reader (Option Node) := do
  match ← peek with
  | none => return none
  | some first =>
      let announced := match first with
        | .documentStart | .version .. | .tagHandle .. => true
        | _ => false
      if announced then
        directives false [] fuel
        expect .documentStart
      let empty := announced && (← peek).all fun token => match token with
        | .documentStart | .documentEnd | .version .. | .tagHandle .. => true
        | _ => false
      let root ← if empty then pure .missing else node true false fuel
      skipAll .documentEnd fuel
      if (← peek).isSome then failure
      return some root

end Reader

structure Document where
  root : Node
  anchors : List (Nat × Node)

namespace Document

/-- A text without a document is one in which the root is missing. -/
def read? (text : String) : Option Document := do
  let tokens ← Token.ofText? text
  let (root, _) ← (Reader.document (4 * tokens.length + 8)).run
    ⟨tokens, [], Reader.standardHandles⟩
  let root := root.getD .missing
  return ⟨root, root.anchored.reverse⟩

/-- The node that an alias stands for. -/
def follow? (document : Document) : Node → Option Node
  | .alias anchor => document.anchors.lookup anchor
  | node => some node

end Document

end Triage.Yaml
