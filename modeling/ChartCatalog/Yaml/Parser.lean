import ChartCatalog.Yaml.Token

/-!
# Parsing YAML events

The parser turns the token list into the event stream of the reference YAML 1.1
parser: stream and document boundaries, scalars, aliases, and the starts and ends of
sequences and mappings, each node with its anchor and resolved tag.

It is a state machine with a stack of states to return to, one event per step, the
same machine the reference parser runs. Nodes in the block context may be block
collections; a `-` entry right under a mapping key opens a sequence with no
indentation of its own. A node with only an anchor or a tag is an empty plain scalar,
and so are missing keys and values. Tags are resolved against the `%TAG` directives of
the document and the two default handles `!` and `!!`.
-/

set_option autoImplicit false

namespace ChartCatalog.Yaml

/-- An event of the YAML event stream. -/
inductive Event where
  | streamStart
  | streamEnd
  | documentStart
  | documentEnd
  | alias (name : String)
  | scalar (anchor tag : Option String) (text : String) (style : ScalarStyle)
  | sequenceStart (anchor tag : Option String)
  | sequenceEnd
  | mappingStart (anchor tag : Option String)
  | mappingEnd
  deriving DecidableEq, Repr, Inhabited

/-- What the parser does next. -/
inductive ParseState where
  | streamStart
  | implicitDocumentStart
  | documentStart
  | documentContent
  | documentEnd
  | blockNode
  | blockSequenceFirstEntry
  | blockSequenceEntry
  | indentlessSequenceEntry
  | blockMappingFirstKey
  | blockMappingKey
  | blockMappingValue
  | flowSequenceFirstEntry
  | flowSequenceEntry
  | flowSequenceEntryMappingKey
  | flowSequenceEntryMappingValue
  | flowSequenceEntryMappingEnd
  | flowMappingFirstKey
  | flowMappingKey
  | flowMappingValue
  | flowMappingEmptyValue
  | finished
  deriving DecidableEq, Repr, Inhabited

/-- The tag handles every document knows. -/
def defaultTagDirectives : List (String × String) :=
  [("!", "!"), ("!!", "tag:yaml.org,2002:")]

/-- The parser: the tokens, the position in them, the state and the stack of states
to return to, and the tag directives of the current document. -/
structure Parser where
  tokens : Array Token
  pos : Nat
  state : ParseState
  states : List ParseState
  directives : List (String × String)

/-- One step of the parser: the event it makes and the parser after it. -/
abbrev ParseStep := Except String (Event × Parser)

namespace Parser

/-- The next token; past the end the stream has ended. -/
def peek (p : Parser) : Token := p.tokens[p.pos]?.getD .streamEnd

/-- Moves past the next token. -/
def advance (p : Parser) : Parser := { p with pos := p.pos + 1 }

/-- Remembers a state to return to. -/
def push (p : Parser) (s : ParseState) : Parser := { p with states := s :: p.states }

/-- Returns to the last remembered state. -/
def pop (p : Parser) : Parser :=
  match p.states with
  | s :: rest => { p with state := s, states := rest }
  | [] => { p with state := .finished }

/-- Sets the next state. -/
def goto (p : Parser) (s : ParseState) : Parser := { p with state := s }

/-- The empty plain scalar that stands for a missing node. -/
def emptyScalar : Event := .scalar none none "" .plain

/-- Reads the `%YAML` and `%TAG` directives before a document. -/
def directivesOf (p : Parser) : Except String Parser := do
  let rec go : Nat → Parser → Bool → List (String × String) →
      Except String (Parser × List (String × String))
    | 0, p, _, tags => pure (p, tags)
    | fuel + 1, p, seenVersion, tags =>
      match p.peek with
      | .versionDirective major minor => do
        if seenVersion then throw "found duplicate %YAML directive"
        if major != 1 || (minor != 1 && minor != 2) then throw "found incompatible YAML document"
        go fuel p.advance true tags
      | .tagDirective handle pfx => do
        if tags.any (·.1 == handle) then throw "found duplicate %TAG directive"
        go fuel p.advance seenVersion (tags ++ [(handle, pfx)])
      | _ => pure (p, tags)
  let (p, tags) ← go (p.tokens.size + 1) p false []
  let defaults := defaultTagDirectives.filter fun d => !tags.any (·.1 == d.1)
  pure { p with directives := tags ++ defaults }

/-- Reads the anchor and tag of a node, in either order. -/
def properties (p : Parser) : Option String × Option (String × String) × Parser :=
  match p.peek with
  | .anchor name =>
    let p := p.advance
    match p.peek with
    | .tag handle suffix => (some name, some (handle, suffix), p.advance)
    | _ => (some name, none, p)
  | .tag handle suffix =>
    let p := p.advance
    match p.peek with
    | .anchor name => (some name, some (handle, suffix), p.advance)
    | _ => (none, some (handle, suffix), p)
  | _ => (none, none, p)

/-- The full tag of a handle and suffix; a verbatim tag has the empty handle. -/
def resolveTag (p : Parser) : Option (String × String) → Except String (Option String)
  | none => pure none
  | some ("", suffix) => pure (some suffix)
  | some (handle, suffix) =>
    match p.directives.find? (·.1 == handle) with
    | some (_, pfx) => pure (some (pfx ++ suffix))
    | none => throw "found undefined tag handle"

/-- Parses a node; `block` admits block collections, `indentless` a sequence whose
entries are not indented. -/
def node (p : Parser) (block indentless : Bool) : ParseStep := do
  match p.peek with
  | .alias name => pure (.alias name, p.advance.pop)
  | _ =>
    let (anchor, tagged, p) := p.properties
    let tag ← p.resolveTag tagged
    let bare : ParseStep :=
      if anchor.isSome || tag.isSome then pure (.scalar anchor tag "" .plain, p.pop)
      else throw "did not find expected node content"
    match p.peek with
    | .blockEntry =>
      if indentless then pure (.sequenceStart anchor tag, p.goto .indentlessSequenceEntry)
      else bare
    | .scalar text style => pure (.scalar anchor tag text style, p.advance.pop)
    | .flowSequenceStart => pure (.sequenceStart anchor tag, p.goto .flowSequenceFirstEntry)
    | .flowMappingStart => pure (.mappingStart anchor tag, p.goto .flowMappingFirstKey)
    | .blockSequenceStart =>
      if block then pure (.sequenceStart anchor tag, p.goto .blockSequenceFirstEntry) else bare
    | .blockMappingStart =>
      if block then pure (.mappingStart anchor tag, p.goto .blockMappingFirstKey) else bare
    | _ => bare

/-- Starts a document, or ends the stream. -/
def documentStart (p : Parser) (implicit : Bool) : ParseStep := do
  let rec skipEnds : Nat → Parser → Parser
    | 0, p => p
    | fuel + 1, p => if p.peek == .documentEnd then skipEnds fuel p.advance else p
  let p := if implicit then p else skipEnds (p.tokens.size + 1) p
  match p.peek with
  | .streamEnd => pure (.streamEnd, p.advance.goto .finished)
  | t =>
    if implicit && !(t matches .versionDirective _ _ | .tagDirective _ _ | .documentStart) then
      let p ← p.directivesOf
      pure (.documentStart, (p.push .documentEnd).goto .blockNode)
    else do
      let p ← p.directivesOf
      if p.peek != .documentStart then throw "did not find expected <document start>"
      pure (.documentStart, (p.push .documentEnd).advance.goto .documentContent)

/-- The content of an explicit document, which may be empty. -/
def documentContent (p : Parser) : ParseStep :=
  match p.peek with
  | .versionDirective _ _ | .tagDirective _ _ | .documentStart | .documentEnd | .streamEnd =>
    pure (emptyScalar, p.pop)
  | _ => p.node true false

/-- Ends a document, with or without `...`. -/
def documentEnd (p : Parser) : ParseStep :=
  let p := if p.peek == .documentEnd then p.advance else p
  pure (.documentEnd, { p with directives := [] }.goto .documentStart)

/-- An entry of a block sequence, or its end. -/
def blockSequenceEntry (p : Parser) (first : Bool) : ParseStep :=
  let p := if first then p.advance else p
  match p.peek with
  | .blockEntry =>
    let p := p.advance
    match p.peek with
    | .blockEntry | .blockEnd => pure (emptyScalar, p.goto .blockSequenceEntry)
    | _ => (p.push .blockSequenceEntry).node true false
  | .blockEnd => pure (.sequenceEnd, p.advance.pop)
  | _ => throw "did not find expected '-' indicator"

/-- An entry of a sequence without indentation, or its end. -/
def indentlessSequenceEntry (p : Parser) : ParseStep :=
  match p.peek with
  | .blockEntry =>
    let p := p.advance
    match p.peek with
    | .blockEntry | .key | .value | .blockEnd => pure (emptyScalar, p.goto .indentlessSequenceEntry)
    | _ => (p.push .indentlessSequenceEntry).node true false
  | _ => pure (.sequenceEnd, p.pop)

/-- A key of a block mapping, or its end. -/
def blockMappingKey (p : Parser) (first : Bool) : ParseStep :=
  let p := if first then p.advance else p
  match p.peek with
  | .key =>
    let p := p.advance
    match p.peek with
    | .key | .value | .blockEnd => pure (emptyScalar, p.goto .blockMappingValue)
    | _ => (p.push .blockMappingValue).node true true
  | .blockEnd => pure (.mappingEnd, p.advance.pop)
  | _ => throw "did not find expected key"

/-- A value of a block mapping, empty when it is missing. -/
def blockMappingValue (p : Parser) : ParseStep :=
  match p.peek with
  | .value =>
    let p := p.advance
    match p.peek with
    | .key | .value | .blockEnd => pure (emptyScalar, p.goto .blockMappingKey)
    | _ => (p.push .blockMappingKey).node true true
  | _ => pure (emptyScalar, p.goto .blockMappingKey)

/-- An entry of a flow sequence, or its end; a `?` entry is a one-pair mapping. -/
def flowSequenceEntry (p : Parser) (first : Bool) : ParseStep := do
  let p := if first then p.advance else p
  if p.peek != .flowSequenceEnd then
    let p ← if first then pure p
      else if p.peek == .flowEntry then pure p.advance
      else throw "did not find expected ',' or ']'"
    match p.peek with
    | .key => return (.mappingStart none none, p.advance.goto .flowSequenceEntryMappingKey)
    | .flowSequenceEnd => pure (.sequenceEnd, p.advance.pop)
    | _ => (p.push .flowSequenceEntry).node false false
  else pure (.sequenceEnd, p.advance.pop)

/-- The key of a one-pair mapping in a flow sequence. -/
def flowSequenceEntryMappingKey (p : Parser) : ParseStep :=
  match p.peek with
  | .value | .flowEntry | .flowSequenceEnd =>
    pure (emptyScalar, p.advance.goto .flowSequenceEntryMappingValue)
  | _ => (p.push .flowSequenceEntryMappingValue).node false false

/-- The value of a one-pair mapping in a flow sequence. -/
def flowSequenceEntryMappingValue (p : Parser) : ParseStep :=
  match p.peek with
  | .value =>
    let p := p.advance
    match p.peek with
    | .flowEntry | .flowSequenceEnd => pure (emptyScalar, p.goto .flowSequenceEntryMappingEnd)
    | _ => (p.push .flowSequenceEntryMappingEnd).node false false
  | _ => pure (emptyScalar, p.goto .flowSequenceEntryMappingEnd)

/-- A key of a flow mapping, or its end. -/
def flowMappingKey (p : Parser) (first : Bool) : ParseStep := do
  let p := if first then p.advance else p
  if p.peek != .flowMappingEnd then
    let p ← if first then pure p
      else if p.peek == .flowEntry then pure p.advance
      else throw "did not find expected ',' or '\x7d'"
    match p.peek with
    | .key =>
      let p := p.advance
      match p.peek with
      | .value | .flowEntry | .flowMappingEnd => pure (emptyScalar, p.goto .flowMappingValue)
      | _ => (p.push .flowMappingValue).node false false
    | .flowMappingEnd => pure (.mappingEnd, p.advance.pop)
    | _ => (p.push .flowMappingEmptyValue).node false false
  else pure (.mappingEnd, p.advance.pop)

/-- A value of a flow mapping; `empty` when the key stood alone. -/
def flowMappingValue (p : Parser) (empty : Bool) : ParseStep :=
  if empty then pure (emptyScalar, p.goto .flowMappingKey)
  else
    match p.peek with
    | .value =>
      let p := p.advance
      match p.peek with
      | .flowEntry | .flowMappingEnd => pure (emptyScalar, p.goto .flowMappingKey)
      | _ => (p.push .flowMappingKey).node false false
    | _ => pure (emptyScalar, p.goto .flowMappingKey)

/-- One step of the state machine. -/
def step (p : Parser) : ParseStep :=
  match p.state with
  | .streamStart => pure (.streamStart, p.advance.goto .implicitDocumentStart)
  | .implicitDocumentStart => p.documentStart true
  | .documentStart => p.documentStart false
  | .documentContent => p.documentContent
  | .documentEnd => p.documentEnd
  | .blockNode => p.node true false
  | .blockSequenceFirstEntry => p.blockSequenceEntry true
  | .blockSequenceEntry => p.blockSequenceEntry false
  | .indentlessSequenceEntry => p.indentlessSequenceEntry
  | .blockMappingFirstKey => p.blockMappingKey true
  | .blockMappingKey => p.blockMappingKey false
  | .blockMappingValue => p.blockMappingValue
  | .flowSequenceFirstEntry => p.flowSequenceEntry true
  | .flowSequenceEntry => p.flowSequenceEntry false
  | .flowSequenceEntryMappingKey => p.flowSequenceEntryMappingKey
  | .flowSequenceEntryMappingValue => p.flowSequenceEntryMappingValue
  | .flowSequenceEntryMappingEnd => pure (.mappingEnd, p.goto .flowSequenceEntry)
  | .flowMappingFirstKey => p.flowMappingKey true
  | .flowMappingKey => p.flowMappingKey false
  | .flowMappingValue => p.flowMappingValue false
  | .flowMappingEmptyValue => p.flowMappingValue true
  | .finished => throw "no more events"

end Parser

/-- The events of a token list, up to the end of the stream. Each token yields at most
three events, so the step budget is never the limit. -/
def parseEvents (tokens : Array Token) : Except String (Array Event) := do
  let start : Parser := ⟨tokens, 0, .streamStart, [], []⟩
  let rec go : Nat → Parser → Array Event → Except String (Array Event)
    | 0, _, _ => throw "event budget exhausted"
    | fuel + 1, p, events => do
      let (e, p) ← p.step
      let events := events.push e
      if e == .streamEnd then pure events else go fuel p events
  go (4 * tokens.size + 8) start #[]

end ChartCatalog.Yaml
