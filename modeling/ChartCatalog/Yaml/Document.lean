import ChartCatalog.Yaml.Parser
import ChartCatalog.Yaml.Scanner

/-!
# YAML documents

A document is the list of node events between a document start and its end, with
anchors replaced by numbers: the decoder jumps from an alias to the event where its
anchor was set.

An anchor is numbered by how many distinct names were defined before it, so a name set
a second time takes the current count as its new number, and a later new name may
take that number too; an alias follows whatever event its number points to last. An
alias to a name not yet defined is an error.

A stream with no document is read as one `void` event. A stream with two documents is
refused.
-/

set_option autoImplicit false

namespace ChartCatalog.Yaml

/-- A node event of a loaded document. -/
inductive Loaded where
  | void
  | alias (id : Nat)
  | scalar (text : String) (style : ScalarStyle) (tag : Option String)
  | sequenceStart (tag : Option String)
  | sequenceEnd
  | mappingStart (tag : Option String)
  | mappingEnd
  deriving DecidableEq, Repr, Inhabited

/-- The events of one document and where each anchor number points. -/
structure Document where
  events : Array Loaded
  anchors : List (Nat × Nat)
  deriving Inhabited

/-- A document being loaded: its events so far and the anchor names defined. -/
structure Loader where
  events : Array Loaded
  names : List (String × Nat)
  anchors : List (Nat × Nat)

namespace Loader

/-- Records an anchor on the event about to be added. -/
def anchor (ld : Loader) : Option String → Loader
  | none => ld
  | some name =>
    let id := ld.names.length
    { ld with
      names := (name, id) :: ld.names.filter (·.1 != name)
      anchors := (id, ld.events.size) :: ld.anchors.filter (·.1 != id) }

/-- Adds a node event. -/
def add (ld : Loader) : Event → Except String Loader
  | .alias name =>
    match ld.names.lookup name with
    | some id => pure { ld with events := ld.events.push (.alias id) }
    | none => throw "unknown anchor"
  | .scalar a tag text style =>
    let ld := ld.anchor a
    pure { ld with events := ld.events.push (.scalar text style tag) }
  | .sequenceStart a tag =>
    let ld := ld.anchor a
    pure { ld with events := ld.events.push (.sequenceStart tag) }
  | .mappingStart a tag =>
    let ld := ld.anchor a
    pure { ld with events := ld.events.push (.mappingStart tag) }
  | .sequenceEnd => pure { ld with events := ld.events.push .sequenceEnd }
  | .mappingEnd => pure { ld with events := ld.events.push .mappingEnd }
  | _ => pure ld

/-- Adds the events up to the end of the document; returns the events after it. -/
def collect (ld : Loader) : List Event → Except String (Loader × List Event)
  | [] => throw "unexpected end of the event stream"
  | .documentEnd :: rest => pure (ld, rest)
  | e :: rest => do
    let ld ← ld.add e
    collect ld rest

end Loader

/-- The single document of an event stream. -/
def Document.ofEvents (events : List Event) : Except String Document :=
  match events with
  | .streamStart :: .streamEnd :: _ => pure ⟨#[.void], []⟩
  | .streamStart :: .documentStart :: rest => do
    let (ld, rest) ← Loader.collect ⟨#[], [], []⟩ rest
    match rest with
    | .streamEnd :: _ => pure ⟨ld.events, ld.anchors⟩
    | _ => throw "deserializing from YAML containing more than one document is not supported"
  | _ => throw "malformed event stream"

/-- The characters of a YAML byte stream: UTF-8, with an optional byte order mark, or
UTF-16 of either byte order when a byte order mark says so. -/
def decodeStream (bytes : ByteArray) : Except String (Array Char) :=
  let b0 := bytes.get! 0
  let b1 := bytes.get! 1
  if bytes.size ≥ 2 && b0 == 0xFF && b1 == 0xFE then utf16 false 2
  else if bytes.size ≥ 2 && b0 == 0xFE && b1 == 0xFF then utf16 true 2
  else
    let start := if bytes.size ≥ 3 && b0 == 0xEF && b1 == 0xBB && bytes.get! 2 == 0xBF then 3 else 0
    match String.fromUTF8? (bytes.extract start bytes.size) with
    | some text => pure text.toList.toArray
    | none => throw "invalid UTF-8 octet sequence"
where
  /-- Decodes UTF-16 code units from `start`, big- or little-endian. -/
  utf16 (big : Bool) (start : Nat) : Except String (Array Char) :=
    let unit (i : Nat) : Nat :=
      let a := (bytes.get! i).toNat
      let b := (bytes.get! (i + 1)).toNat
      if big then 256 * a + b else 256 * b + a
    let rec go : Nat → Nat → Array Char → Except String (Array Char)
      | 0, _, acc => pure acc
      | fuel + 1, i, acc =>
        if i ≥ bytes.size then pure acc
        else if i + 1 ≥ bytes.size then throw "incomplete UTF-16 character"
        else
          let u := unit i
          if 0xDC00 ≤ u && u ≤ 0xDFFF then throw "unexpected low surrogate area"
          else if 0xD800 ≤ u && u ≤ 0xDBFF then
            if i + 3 ≥ bytes.size then throw "incomplete UTF-16 surrogate pair"
            else
              let v := unit (i + 2)
              if 0xDC00 ≤ v && v ≤ 0xDFFF then
                go fuel (i + 4) (acc.push (Char.ofNat (0x10000 + (u - 0xD800) * 0x400 + (v - 0xDC00))))
              else throw "expected low surrogate area"
          else go fuel (i + 2) (acc.push (Char.ofNat u))
    go bytes.size start #[]

/-- The document of a YAML byte stream. -/
def Document.ofBytes (bytes : ByteArray) : Except String Document := do
  let chars ← decodeStream bytes
  let tokens ← scan chars
  let events ← parseEvents tokens
  Document.ofEvents events.toList

end ChartCatalog.Yaml
