import SiteModules.Document.Yaml.Layout
import SiteModules.Document.Yaml.Tag

namespace SiteModules.Yaml

inductive Node
  | scalar (tag : Tag) (text : List Char)
  | sequence (tag : Tag) (items : List Node)
  | mapping (tag : Tag) (entries : List (Node × Node))

namespace Node

def tag : Node → Tag
  | .scalar t _ => t
  | .sequence t _ => t
  | .mapping t _ => t

def absent : Node := .scalar .null []

end Node

structure Build where
  tokens : List Token
  fault : DocumentFault
  anchors : List (String × Node)
  handles : List (String × String)

abbrev Builder := StateT Build (Except DocumentFault)

namespace Builder

def peek : Builder Token := do
  match (← get).tokens with
  | t :: _ => return t
  | [] => throw (← get).fault

def drop : Builder Unit := modify fun b => { b with tokens := b.tokens.drop 1 }

def isNext (ts : List Token) : Builder Bool := return ts.contains (← peek)

def expect (t : Token) : Builder Unit := do
  if (← peek) = t then drop else throw .malformed

def anchor? : Builder (Option String) := do
  match ← peek with
  | .anchor name => drop; return some name
  | _ => return none

def tag? : Builder (Option WrittenTag) := do
  match ← peek with
  | .tag t => drop; return some t
  | _ => return none

def marks : Builder (Option String × Option WrittenTag) := do
  match ← anchor? with
  | some name => return (some name, ← tag?)
  | none =>
    match ← tag? with
    | some t => return (← anchor?, some t)
    | none => return (none, none)

def tagName (t : WrittenTag) : Builder String := do
  match t.handle with
  | none => return t.suffix
  | some h =>
    match (← get).handles.lookup h with
    | some start => return start ++ t.suffix
    | none => throw .malformed

/-- A node may not take the name of another, in front of it or inside of it. -/
def claim (anchor : Option String) : Builder Unit := do
  match anchor with
  | none => return
  | some name => if ((← get).anchors.lookup name).isSome then throw .malformed

def define (anchor : Option String) (n : Node) : Builder Node := do
  match anchor with
  | none => return n
  | some name =>
    claim anchor
    modify fun b => { b with anchors := (name, n) :: b.anchors }
    return n

def collectionTag (given : Option String) (usual : Tag) : Tag :=
  match given with
  | none => usual
  | some "!" => usual
  | some name => .ofName name

def scalarTag (given : Option String) (plain : Bool) (text : List Char) : Tag :=
  match given with
  | none => if plain then .ofPlain text else .text
  | some "!" => .ofPlain text
  | some name => .ofName name

mutual

/-- One node. Every node takes a token or is refused, so the number of tokens bounds the depth. -/
def node (fuel : Nat) (inBlock indentless : Bool) : Builder Node := do
  match fuel with
  | 0 => throw .malformed
  | fuel + 1 =>
    match ← peek with
    | .alias name =>
      drop
      match (← get).anchors.lookup name with
      | some n => return n
      | none => throw .malformed
    | _ =>
      let (anchor, written) ← marks
      let given ← written.mapM tagName
      let next ← peek
      claim anchor
      match next with
      | .scalar text plain => do
        drop
        define anchor (.scalar (scalarTag given plain text) text)
      | .flowSequence => do
        drop
        define anchor (.sequence (collectionTag given .sequence) (← flowItems fuel true))
      | .flowMapping => do
        drop
        define anchor (.mapping (collectionTag given .mapping) (← flowEntries fuel true))
      | t =>
        if indentless && t == .entry then
          define anchor (.sequence (collectionTag given .sequence) (← indentlessItems fuel))
        else if inBlock && t == .blockSequence then
          drop
          define anchor (.sequence (collectionTag given .sequence) (← blockItems fuel))
        else if inBlock && t == .blockMapping then
          drop
          define anchor (.mapping (collectionTag given .mapping) (← blockEntries fuel))
        else if anchor.isSome || given.isSome then
          define anchor (.scalar (scalarTag given true []) [])
        else throw .malformed

def nodeBefore (fuel : Nat) (inBlock indentless : Bool) (ends : List Token) : Builder Node := do
  match fuel with
  | 0 => throw .malformed
  | fuel + 1 => if ← isNext ends then return .absent else node fuel inBlock indentless

def blockItems (fuel : Nat) : Builder (List Node) := do
  match fuel with
  | 0 => throw .malformed
  | fuel + 1 =>
    if ← isNext [.entry] then
      drop
      let n ← nodeBefore fuel true false [.entry, .blockEnd]
      return n :: (← blockItems fuel)
    else
      expect .blockEnd
      return []

/-- Entries that are not indented further than the key they belong to. -/
def indentlessItems (fuel : Nat) : Builder (List Node) := do
  match fuel with
  | 0 => throw .malformed
  | fuel + 1 =>
    if ← isNext [.entry] then
      drop
      let n ← nodeBefore fuel true false [.entry, .key, .value, .blockEnd]
      return n :: (← indentlessItems fuel)
    else return []

def blockEntries (fuel : Nat) : Builder (List (Node × Node)) := do
  match fuel with
  | 0 => throw .malformed
  | fuel + 1 =>
    if ← isNext [.key] then
      drop
      let k ← nodeBefore fuel true true [.key, .value, .blockEnd]
      let v ← valueBefore fuel true [.key, .value, .blockEnd]
      return (k, v) :: (← blockEntries fuel)
    else
      expect .blockEnd
      return []

def valueBefore (fuel : Nat) (inBlock : Bool) (ends : List Token) : Builder Node := do
  match fuel with
  | 0 => throw .malformed
  | fuel + 1 =>
    if ← isNext [.value] then
      drop
      nodeBefore fuel inBlock inBlock ends
    else return .absent

def flowItems (fuel : Nat) (first : Bool) : Builder (List Node) := do
  match fuel with
  | 0 => throw .malformed
  | fuel + 1 =>
    if ← isNext [.flowSequenceEnd] then
      drop
      return []
    else
      if !first then expect .flowEntry
      match ← peek with
      | .flowSequenceEnd => do
        drop
        return []
      | .key => do
        drop
        let k ← nodeBefore fuel false false [.value, .flowEntry, .flowSequenceEnd]
        let v ← valueBefore fuel false [.flowEntry, .flowSequenceEnd]
        return .mapping .mapping [(k, v)] :: (← flowItems fuel false)
      | _ => do
        let n ← node fuel false false
        return n :: (← flowItems fuel false)

def flowEntries (fuel : Nat) (first : Bool) : Builder (List (Node × Node)) := do
  match fuel with
  | 0 => throw .malformed
  | fuel + 1 =>
    if ← isNext [.flowMappingEnd] then
      drop
      return []
    else
      if !first then expect .flowEntry
      match ← peek with
      | .flowMappingEnd => do
        drop
        return []
      | .key => do
        drop
        let k ← nodeBefore fuel false false [.value, .flowEntry, .flowMappingEnd]
        let v ← valueBefore fuel false [.flowEntry, .flowMappingEnd]
        return (k, v) :: (← flowEntries fuel false)
      | _ => do
        let k ← node fuel false false
        return (k, .absent) :: (← flowEntries fuel false)

end

def usualHandles : List (String × String) := [("!", "!"), ("!!", Tag.core)]

def directives (fuel : Nat) (versioned : Bool) (handles : List (String × String)) :
    Builder Unit := do
  match fuel with
  | 0 => throw .malformed
  | fuel + 1 =>
    match ← peek with
    | .directive (.version major _) => do
      drop
      if versioned || major != 1 then throw .malformed
      directives fuel true handles
    | .directive (.tag handle start) => do
      drop
      if (handles.lookup handle).isSome then throw .malformed
      directives fuel versioned ((handle, start) :: handles)
    | .directive .other => do
      drop
      directives fuel versioned handles
    | _ => modify fun b => { b with handles := handles ++ usualHandles }

def isAnnounced : Builder Bool := do
  match ← peek with
  | .directive _ => return true
  | .documentStart => return true
  | .streamEnd => return true
  | _ => return false

def isEmptyDocument : Builder Bool := do
  return (← isAnnounced) || (← isNext [.documentEnd])

def skipDocumentEnds : Nat → Builder Unit
  | 0 => throw .malformed
  | fuel + 1 => do
    if ← isNext [.documentEnd] then
      drop
      skipDocumentEnds fuel

def document (fuel : Nat) : Builder (Option Node) := do
  if ← isNext [.streamEnd] then return none
  let n ←
    if ← isAnnounced then do
      directives fuel false []
      expect .documentStart
      if ← isEmptyDocument then pure Node.absent else node fuel true false
    else node fuel true false
  skipDocumentEnds fuel
  if ← isNext [.streamEnd] then return some n else throw .malformed

end Builder

def Node.ofTokens (ts : Tokens) : Except DocumentFault (Option Node) := do
  let fuel := 4 * ts.tokens.length + 4
  let b : Build := ⟨ts.tokens, ts.fault.getD .malformed, [], Builder.usualHandles⟩
  return (← (Builder.document fuel).run b).1

end SiteModules.Yaml
