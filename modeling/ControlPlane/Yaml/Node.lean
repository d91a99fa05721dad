import ControlPlane.Yaml.Lexer

/-! The node tree of a YAML document, read from its tokens. -/

namespace ControlPlane.Yaml

/-- A node of a document; an alias refers to the number of the anchor that it names. -/
inductive Node where
  | scalar (anchor : Option Nat) (tag : Option String) (plain : Bool) (text : String)
  | alias (target : Nat)
  | sequence (anchor : Option Nat) (tag : Option String) (items : List Node)
  | mapping (anchor : Option Nat) (tag : Option String) (entries : List (Node × Node))
deriving Repr, Inhabited

/-- What the reader of one stream keeps: the tokens ahead, anchor numbers and tag handles. -/
structure Composer where
  tokens : List Token
  anchors : List (String × Nat) := []
  handles : List (String × String) := []
deriving Repr

namespace Composer

/-- The reader after one token. -/
def advance (c : Composer) : Composer := { c with tokens := c.tokens.drop 1 }

/-- Numbers an anchor by the count of names seen before, and notes it as the newest of its name. -/
def define (c : Composer) (name : String) : Nat × Composer :=
  let number := c.anchors.length
  (number, { c with anchors := Json.store name number c.anchors })

/-- A tag as a full name; none if its handle was not declared. -/
def fullTag (c : Composer) (handle suffix : String) : Option String :=
  if handle.isEmpty then some suffix
  else (Json.lookup handle c.handles).map (· ++ suffix)

/-- The anchor and tag in front of a node, in either order. -/
def properties (c : Composer) : Option (Option Nat × Option String × Composer) :=
  match c.tokens with
  | .anchor name :: .tag handle suffix :: _ => do
    let tag ← c.fullTag handle suffix
    let (number, c) := c.advance.advance.define name
    return (some number, some tag, c)
  | .tag handle suffix :: .anchor name :: _ => do
    let tag ← c.fullTag handle suffix
    let (number, c) := c.advance.advance.define name
    return (some number, some tag, c)
  | .anchor name :: _ =>
    let (number, c) := c.advance.define name
    some (some number, none, c)
  | .tag handle suffix :: _ => do
    let tag ← c.fullTag handle suffix
    return (none, some tag, c.advance)
  | _ => some (none, none, c)

/-- A node without any text. -/
def emptyNode : Node := .scalar none none true ""

mutual

/-- The node at the head of the tokens.

A block collection is accepted where `block` allows it, a bare dash list where `indentless` does. -/
def node (fuel depth : Nat) (block indentless : Bool) (c : Composer) : Option (Node × Composer) :=
  match fuel with
  | 0 => none
  | fuel + 1 =>
    match c.tokens with
    | .alias name :: _ => (Json.lookup name c.anchors).map (.alias ·, c.advance)
    | _ => do
      let (anchor, tag, c) ← c.properties
      let nested := depth - 1
      let sequence (answer : Option (List Node × Composer)) : Option (Node × Composer) :=
        if depth = 0 then none else answer.map fun (items, c) => (.sequence anchor tag items, c)
      let mapping (answer : Option (List (Node × Node) × Composer)) : Option (Node × Composer) :=
        if depth = 0 then none else answer.map fun (pairs, c) => (.mapping anchor tag pairs, c)
      match c.tokens with
      | .blockEntry :: _ =>
        if indentless then sequence (indentlessItems fuel nested [] c)
        else if anchor.isSome || tag.isSome then some (.scalar anchor tag true "", c)
        else none
      | .scalar text plain :: _ =>
        let tag := if tag = some "!" then none else tag
        some (.scalar anchor tag plain text, c.advance)
      | .flowSequenceStart :: _ => sequence (flowItems fuel nested true [] c.advance)
      | .flowMappingStart :: _ => mapping (flowPairs fuel nested true [] c.advance)
      | .blockSequenceStart :: _ =>
        if block then sequence (blockItems fuel nested [] c.advance)
        else if anchor.isSome || tag.isSome then some (.scalar anchor tag true "", c)
        else none
      | .blockMappingStart :: _ =>
        if block then mapping (blockPairs fuel nested [] c.advance)
        else if anchor.isSome || tag.isSome then some (.scalar anchor tag true "", c)
        else none
      | _ =>
        if anchor.isSome || tag.isSome then some (.scalar anchor tag true "", c) else none

/-- The items of a block sequence up to its end. -/
def blockItems (fuel depth : Nat) (done : List Node) (c : Composer) :
    Option (List Node × Composer) :=
  match fuel with
  | 0 => none
  | fuel + 1 =>
    match c.tokens with
    | .blockEnd :: _ => some (done.reverse, c.advance)
    | .blockEntry :: .blockEntry :: _ | .blockEntry :: .blockEnd :: _ =>
      blockItems fuel depth (emptyNode :: done) c.advance
    | .blockEntry :: _ =>
      match node fuel depth true false c.advance with
      | some (item, c) => blockItems fuel depth (item :: done) c
      | none => none
    | _ => none

/-- The items of a dash list that is not indented more than its key. -/
def indentlessItems (fuel depth : Nat) (done : List Node) (c : Composer) :
    Option (List Node × Composer) :=
  match fuel with
  | 0 => none
  | fuel + 1 =>
    match c.tokens with
    | .blockEntry :: .blockEntry :: _ | .blockEntry :: .key :: _ | .blockEntry :: .value :: _
    | .blockEntry :: .blockEnd :: _ => indentlessItems fuel depth (emptyNode :: done) c.advance
    | .blockEntry :: _ =>
      match node fuel depth true false c.advance with
      | some (item, c) => indentlessItems fuel depth (item :: done) c
      | none => none
    | _ => some (done.reverse, c)

/-- The entries of a block mapping up to its end. -/
def blockPairs (fuel depth : Nat) (done : List (Node × Node)) (c : Composer) :
    Option (List (Node × Node) × Composer) :=
  match fuel with
  | 0 => none
  | fuel + 1 =>
    match c.tokens with
    | .blockEnd :: _ => some (done.reverse, c.advance)
    | .key :: rest =>
      let key := match rest with
        | .key :: _ | .value :: _ | .blockEnd :: _ => some (emptyNode, c.advance)
        | _ => node fuel depth true true c.advance
      match key with
      | none => none
      | some (key, c) =>
        let value := match c.tokens with
          | .value :: .key :: _ | .value :: .value :: _ | .value :: .blockEnd :: _ =>
            some (emptyNode, c.advance)
          | .value :: _ => node fuel depth true true c.advance
          | _ => some (emptyNode, c)
        match value with
        | some (value, c) => blockPairs fuel depth ((key, value) :: done) c
        | none => none
    | _ => none

/-- The items of a flow sequence up to its closing bracket. -/
def flowItems (fuel depth : Nat) (first : Bool) (done : List Node) (c : Composer) :
    Option (List Node × Composer) :=
  match fuel with
  | 0 => none
  | fuel + 1 =>
    match c.tokens with
    | .flowSequenceEnd :: _ => some (done.reverse, c.advance)
    | _ =>
      let entry? := match first, c.tokens with
        | true, _ => some c
        | false, .flowEntry :: _ => some c.advance
        | false, _ => none
      match entry? with
      | none => none
      | some c =>
        match c.tokens with
        | .flowSequenceEnd :: _ => some (done.reverse, c.advance)
        | .key :: _ =>
          match (if depth = 0 then none else flowPair fuel (depth - 1) c.advance) with
          | some (pair, c) => flowItems fuel depth false (.mapping none none [pair] :: done) c
          | none => none
        | _ =>
          match node fuel depth false false c with
          | some (item, c) => flowItems fuel depth false (item :: done) c
          | none => none

/-- The one entry of a mapping that is written without braces inside a flow sequence. -/
def flowPair (fuel depth : Nat) (c : Composer) : Option ((Node × Node) × Composer) :=
  match fuel with
  | 0 => none
  | fuel + 1 =>
    let key := match c.tokens with
      -- Without a key node the next token is passed over, whatever it is.
      | .value :: _ | .flowEntry :: _ | .flowSequenceEnd :: _ => some (emptyNode, c.advance)
      | _ => node fuel depth false false c
    match key with
    | none => none
    | some (key, c) =>
      let value := match c.tokens with
        | .value :: .flowEntry :: _ | .value :: .flowSequenceEnd :: _ =>
          some (emptyNode, c.advance)
        | .value :: _ => node fuel depth false false c.advance
        | _ => some (emptyNode, c)
      value.map fun (value, c) => ((key, value), c)

/-- The entries of a flow mapping up to its closing brace. -/
def flowPairs (fuel depth : Nat) (first : Bool) (done : List (Node × Node)) (c : Composer) :
    Option (List (Node × Node) × Composer) :=
  match fuel with
  | 0 => none
  | fuel + 1 =>
    match c.tokens with
    | .flowMappingEnd :: _ => some (done.reverse, c.advance)
    | _ =>
      let entry? := match first, c.tokens with
        | true, _ => some c
        | false, .flowEntry :: _ => some c.advance
        | false, _ => none
      match entry? with
      | none => none
      | some c =>
        match c.tokens with
        | .flowMappingEnd :: _ => some (done.reverse, c.advance)
        | .key :: rest =>
          let key := match rest with
            | .value :: _ | .flowEntry :: _ | .flowMappingEnd :: _ => some (emptyNode, c.advance)
            | _ => node fuel depth false false c.advance
          match key with
          | none => none
          | some (key, c) =>
            let value := match c.tokens with
              | .value :: .flowEntry :: _ | .value :: .flowMappingEnd :: _ =>
                some (emptyNode, c.advance)
              | .value :: _ => node fuel depth false false c.advance
              | _ => some (emptyNode, c)
            match value with
            | some (value, c) => flowPairs fuel depth false ((key, value) :: done) c
            | none => none
        | _ =>
          -- A node without a key indicator is a key whose value is empty.
          match node fuel depth false false c with
          | some (key, c) => flowPairs fuel depth false ((key, emptyNode) :: done) c
          | none => none

end

/-- Reads directives up to a document start; a version other than 1.1 and 1.2 is refused. -/
def directives : Nat → Bool → Composer → Option Composer
  | 0, _, _ => none
  | fuel + 1, versioned, c =>
    match c.tokens with
    | .versionDirective major minor :: _ =>
      if versioned ∨ major ≠ 1 ∨ (minor ≠ 1 ∧ minor ≠ 2) then none
      else directives fuel true c.advance
    | .tagDirective handle expansion :: _ =>
      if (Json.lookup handle c.handles).isSome then none
      else directives fuel versioned
        { c.advance with handles := c.handles ++ [(handle, expansion)] }
    | _ => some c

/-- The handles that need no declaration, behind those that were declared. -/
def withDefaults (c : Composer) : Composer :=
  let add (handle expansion : String) (handles : List (String × String)) :=
    if (Json.lookup handle handles).isSome then handles else handles ++ [(handle, expansion)]
  { c with handles := add "!!" "tag:yaml.org,2002:" (add "!" "!" c.handles) }

/-- The only document of a stream; the outer answer is none if the stream is malformed.

The inner answer is none for a stream without any document. -/
def document? (tokens : List Token) : Option (Option Node) := do
  let fuel := 2 * tokens.length + 10
  let c : Composer := { tokens }
  match tokens with
  | [] => some none
  | first :: _ =>
    let explicit := match first with
      | .versionDirective .. | .tagDirective .. | .documentStart => true
      | _ => false
    let c := (← directives fuel false c).withDefaults
    let (root, c) ←
      if explicit then
        match c.tokens with
        | .documentStart :: rest =>
          match rest with
          | [] | .versionDirective .. :: _ | .tagDirective .. :: _ | .documentStart :: _
          | .documentEnd :: _ => some (emptyNode, c.advance)
          | _ => node fuel maxDepth true false c.advance
        | _ => none
      else node fuel maxDepth true false c
    -- Only document ends may follow; anything else starts another document or is misplaced.
    if c.tokens.all (· == .documentEnd) then some (some root) else none

end Composer

namespace Node

/-- The anchor number of a node. -/
def anchor? : Node → Option Nat
  | .scalar anchor .. | .sequence anchor .. | .mapping anchor .. => anchor
  | .alias _ => none

mutual
/-- The nodes that bear an anchor number, in front of others; the last one of the document is the
first. -/
def anchored (found : List (Nat × Node)) (n : Node) : List (Nat × Node) :=
  let found := match n.anchor? with
    | some number => (number, n) :: found
    | none => found
  match n with
  | .sequence _ _ items => anchoredItems found items
  | .mapping _ _ entries => anchoredEntries found entries
  | _ => found
/-- Such nodes below items. -/
def anchoredItems (found : List (Nat × Node)) : List Node → List (Nat × Node)
  | [] => found
  | n :: rest => anchoredItems (n.anchored found) rest
/-- Such nodes below entries. -/
def anchoredEntries (found : List (Nat × Node)) : List (Node × Node) → List (Nat × Node)
  | [] => found
  | (key, value) :: rest => anchoredEntries (value.anchored (key.anchored found)) rest
end

mutual
/-- The number of events that a node stands for: one for a leaf, two around a collection. -/
def events : Node → Nat
  | .sequence _ _ items => eventsOfItems items + 2
  | .mapping _ _ entries => eventsOfEntries entries + 2
  | _ => 1
/-- The number of events of items. -/
def eventsOfItems : List Node → Nat
  | [] => 0
  | n :: rest => n.events + eventsOfItems rest
/-- The number of events of entries. -/
def eventsOfEntries : List (Node × Node) → Nat
  | [] => 0
  | (key, value) :: rest => key.events + value.events + eventsOfEntries rest
end

end Node

end ControlPlane.Yaml
