import ChartCatalog.Yaml.Token

/-!
# Scanning YAML

The scanner turns characters into tokens, the way the reference YAML 1.1 scanner does.

Block structure comes from indentation: each scanner state holds the current indent
and a stack of enclosing ones. A `-` entry, a `?` key, or a `:` value in the block
context may open a deeper block collection (`rollIndent`); a token left of the
current indent closes collections (`unrollIndent`).

A *simple key* is a key written without `?`: a scalar, alias, anchor, tag or flow
collection that a `:` follows on the same line, within 1024 characters. Where a simple
key may start, its position is saved; when the `:` arrives, a key token (and, in the
block context, a mapping start) is inserted before the saved token. A key that must be
simple, because it starts at the indent column of a block mapping, is an error when no
`:` follows.

Characters are read as the reader of the reference implementation accepts them: tabs,
line breaks, printable ASCII, the next-line control and all non-ASCII characters but
surrogates and U+FFFE and U+FFFF. A byte order mark may start a line. Every fault is
reported as a message; callers treat all of them alike.
-/

set_option autoImplicit false

namespace ChartCatalog.Yaml

/-- A position in the character stream. -/
structure Mark where
  index : Nat
  line : Nat
  column : Nat
  deriving Inhabited, Repr

/-- A saved position where a simple key may start. -/
structure SimpleKey where
  possible : Bool
  required : Bool
  /-- Where the key token goes in the token list. -/
  tokenNumber : Nat
  mark : Mark
  deriving Inhabited

/-- A line break: carriage return, line feed, next line, line or paragraph separator. -/
def isBreakChar (c : Char) : Bool :=
  c == '\r' || c == '\n' || c.toNat == 0x85 || c.toNat == 0x2028 || c.toNat == 0x2029

/-- A blank: space or tab. -/
def isBlankChar (c : Char) : Bool := c == ' ' || c == '\t'

/-- A character of anchor names and tag handles: ASCII letters, digits, `_` and `-`. -/
def isWordChar (c : Char) : Bool :=
  ('0' ≤ c && c ≤ '9') || ('a' ≤ c && c ≤ 'z') || ('A' ≤ c && c ≤ 'Z') || c == '_' || c == '-'

/-- The value of a hexadecimal digit. -/
def hexValue (c : Char) : Option Nat :=
  if '0' ≤ c && c ≤ '9' then some (c.toNat - 48)
  else if 'a' ≤ c && c ≤ 'f' then some (c.toNat - 87)
  else if 'A' ≤ c && c ≤ 'F' then some (c.toNat - 55)
  else none

/-- The flow indicators: a comma and the brackets and braces. -/
def flowIndicators : List Char := [',', '[', ']', '\x7b', '\x7d']

/-- The characters that may follow an anchor or alias name. -/
def afterAnchorChars : List Char := ['?', ':', ',', ']', '\x7d', '%', '@', Char.ofNat 96]

/-- The indicator characters, which cannot start a plain scalar. -/
def indicatorChars : List Char :=
  ['-', '?', ':', '#', '&', '*', '!', '|', '>', '\'', '"', '%', '@', Char.ofNat 96] ++ flowIndicators

/-- A character that YAML text may hold. -/
def isPrintable (c : Char) : Bool :=
  let n := c.toNat
  n == 0x09 || n == 0x0A || n == 0x0D || (0x20 ≤ n && n ≤ 0x7E) || n == 0x85 ||
    (0xA0 ≤ n && n ≤ 0xD7FF) || (0xE000 ≤ n && n ≤ 0xFFFD) || (0x10000 ≤ n && n ≤ 0x10FFFF)

/-- A token inserted at a position of the list. -/
def insertToken (tokens : Array Token) (i : Nat) (t : Token) : Array Token :=
  if h : i ≤ tokens.size then tokens.insertIdx i t else tokens.push t

/-- The state of the scanner. -/
structure Scanner where
  input : Array Char
  mark : Mark
  tokens : Array Token
  flowLevel : Nat
  indent : Int
  indents : List Int
  simpleKeyAllowed : Bool
  /-- One saved key per flow level, the innermost first. -/
  simpleKeys : List SimpleKey
  done : Bool

/-- A scanner fault. -/
abbrev ScanResult := Except String Scanner

namespace Scanner

/-- The character `k` places ahead. -/
def at? (s : Scanner) (k : Nat) : Option Char := s.input[s.mark.index + k]?

/-- Whether the character `k` places ahead is `c`. -/
def checkAt (s : Scanner) (k : Nat) (c : Char) : Bool := s.at? k == some c

/-- Whether the stream ends `k` places ahead. -/
def isEndAt (s : Scanner) (k : Nat) : Bool := (s.at? k).isNone

/-- A line break `k` places ahead. -/
def isBreakAt (s : Scanner) (k : Nat) : Bool := (s.at? k).any isBreakChar

/-- A blank `k` places ahead. -/
def isBlankAt (s : Scanner) (k : Nat) : Bool := (s.at? k).any isBlankChar

/-- A blank, a break or the end `k` places ahead. -/
def isBlankzAt (s : Scanner) (k : Nat) : Bool :=
  match s.at? k with
  | none => true
  | some c => isBlankChar c || isBreakChar c

/-- A break or the end `k` places ahead. -/
def isBreakzAt (s : Scanner) (k : Nat) : Bool :=
  match s.at? k with
  | none => true
  | some c => isBreakChar c

/-- Moves one character ahead on the same line. -/
def skip (s : Scanner) : Scanner :=
  { s with mark := ⟨s.mark.index + 1, s.mark.line, s.mark.column + 1⟩ }

/-- Moves past a line break: a carriage return and line feed count as one. -/
def skipLine (s : Scanner) : Scanner :=
  if s.checkAt 0 '\r' && s.checkAt 1 '\n' then
    { s with mark := ⟨s.mark.index + 2, s.mark.line + 1, 0⟩ }
  else if s.isBreakAt 0 then
    { s with mark := ⟨s.mark.index + 1, s.mark.line + 1, 0⟩ }
  else s

/-- Reads a line break, normalized: the ASCII breaks and next line become a line feed,
the line and paragraph separators stay. -/
def readLine (s : Scanner) : Scanner × String :=
  match s.at? 0 with
  | some c =>
    if c == '\r' || c == '\n' || c.toNat == 0x85 then (s.skipLine, "\n")
    else if isBreakChar c then (s.skipLine, String.singleton c)
    else (s, "")
  | none => (s, "")

/-- The current character, and the scanner past it. -/
def readChar (s : Scanner) : Scanner × String :=
  match s.at? 0 with
  | some c => (s.skip, String.singleton c)
  | none => (s, "")

/-- Whether a document marker `---` or `...` starts here, at the start of a line. -/
def atDocumentIndicator (s : Scanner) : Bool :=
  s.mark.column == 0 &&
    ((s.checkAt 0 '-' && s.checkAt 1 '-' && s.checkAt 2 '-') ||
      (s.checkAt 0 '.' && s.checkAt 1 '.' && s.checkAt 2 '.')) && s.isBlankzAt 3

/-- Appends a token. -/
def emit (s : Scanner) (t : Token) : Scanner := { s with tokens := s.tokens.push t }

/-- The innermost saved simple key. -/
def topKey (s : Scanner) : SimpleKey := s.simpleKeys.headD default

/-- Replaces the innermost saved simple key. -/
def setTopKey (s : Scanner) (k : SimpleKey) : Scanner :=
  { s with simpleKeys := match s.simpleKeys with
    | _ :: rest => k :: rest
    | [] => [k] }

/-- Drops saved keys that can no longer be keys: on an earlier line or too far back. -/
def staleSimpleKeys (s : Scanner) : ScanResult := do
  let mut keys : List SimpleKey := []
  for k in s.simpleKeys do
    if k.possible && (k.mark.line < s.mark.line || k.mark.index + 1024 < s.mark.index) then
      if k.required then throw "could not find expected ':'"
      keys := keys ++ [{ k with possible := false }]
    else
      keys := keys ++ [k]
  pure { s with simpleKeys := keys }

/-- Forgets the innermost saved key; a required one is an error. -/
def removeSimpleKey (s : Scanner) : ScanResult := do
  let k := s.topKey
  if k.possible && k.required then throw "could not find expected ':'"
  pure (s.setTopKey { k with possible := false })

/-- Saves the current position as a possible simple key, when one is allowed here. -/
def saveSimpleKey (s : Scanner) : ScanResult := do
  let required := s.flowLevel == 0 && s.indent == (s.mark.column : Int)
  if s.simpleKeyAllowed then
    let s ← s.removeSimpleKey
    pure (s.setTopKey ⟨true, required, s.tokens.size, s.mark⟩)
  else pure s

/-- Enters a flow collection. -/
def increaseFlowLevel (s : Scanner) : Scanner :=
  { s with simpleKeys := default :: s.simpleKeys, flowLevel := s.flowLevel + 1 }

/-- Leaves a flow collection. -/
def decreaseFlowLevel (s : Scanner) : Scanner :=
  if s.flowLevel > 0 then
    { s with flowLevel := s.flowLevel - 1, simpleKeys := s.simpleKeys.drop 1 }
  else s

/-- Opens a block collection at `column` when it is deeper than the current indent; the
start token goes at position `at?`, or at the end. -/
def rollIndent (s : Scanner) (column : Nat) (pos : Option Nat) (t : Token) : Scanner :=
  if s.flowLevel > 0 then s
  else if s.indent < column then
    let tokens := match pos with
      | some i => insertToken s.tokens i t
      | none => s.tokens.push t
    { s with indents := s.indent :: s.indents, indent := column, tokens := tokens }
  else s

/-- Closes the block collections indented deeper than `column`. -/
def unrollIndent (s : Scanner) (column : Int) : Scanner :=
  if s.flowLevel > 0 then s
  else
    let rec go : List Int → Scanner → Scanner
      | [], s => s
      | next :: rest, s =>
        if s.indent > column then go rest { s.emit .blockEnd with indent := next, indents := rest }
        else s
    go s.indents s

/-- Skips blanks, comments and line breaks up to the next token. Tabs are skipped only in
flow collections and where no simple key may start. -/
def scanToNextToken (s : Scanner) : Scanner :=
  let rec go : Nat → Scanner → Scanner
    | 0, s => s
    | fuel + 1, s =>
      let s := if s.mark.column == 0 && s.checkAt 0 (Char.ofNat 0xFEFF) then s.skip else s
      let s := skipBlanks s.input.size s
      let s := if s.checkAt 0 '#' then skipComment s.input.size s else s
      if s.isBreakAt 0 then
        let s := s.skipLine
        let s := if s.flowLevel == 0 then { s with simpleKeyAllowed := true } else s
        go fuel s
      else s
  go (s.input.size + 1) s
where
  /-- Skips spaces, and tabs where they are allowed. -/
  skipBlanks : Nat → Scanner → Scanner
    | 0, s => s
    | fuel + 1, s =>
      if s.checkAt 0 ' ' || ((s.flowLevel > 0 || !s.simpleKeyAllowed) && s.checkAt 0 '\t') then
        skipBlanks fuel s.skip
      else s
  /-- Skips to the end of the line. -/
  skipComment : Nat → Scanner → Scanner
    | 0, s => s
    | fuel + 1, s => if s.isBreakzAt 0 then s else skipComment fuel s.skip

/-- Characters at the front while a test holds, read into a string. -/
def readWhile (p : Char → Bool) (s : Scanner) : Scanner × String :=
  let rec go : Nat → Scanner → String → Scanner × String
    | 0, s, acc => (s, acc)
    | fuel + 1, s, acc =>
      match s.at? 0 with
      | some c => if p c then go fuel s.skip (acc.push c) else (s, acc)
      | none => (s, acc)
  go (s.input.size + 1) s ""

/-- Skips blanks and a comment, and requires the end of the line. -/
def finishLine (s : Scanner) : ScanResult := do
  let (s, _) := s.readWhile isBlankChar
  let (s, _) := if s.checkAt 0 '#' then s.readWhile (fun c => !isBreakChar c) else (s, "")
  if !s.isBreakzAt 0 then throw "did not find expected comment or line break"
  pure (if s.isBreakAt 0 then s.skipLine else s)

/-- Reads `%XX` escapes of a tag URI into the bytes of one UTF-8 character. -/
def readUriEscapes (s : Scanner) : Except String (Scanner × String) := do
  let rec go : Nat → Scanner → Array UInt8 → Nat → Except String (Scanner × Array UInt8)
    | 0, _, _, _ => throw "invalid URI escape"
    | fuel + 1, s, bytes, width =>
      match s.at? 0, (s.at? 1).bind hexValue, (s.at? 2).bind hexValue with
      | some '%', some h, some l => do
        let b := 16 * h + l
        let width := if width == 0 then
            (if b &&& 0x80 == 0 then 1 else if b &&& 0xE0 == 0xC0 then 2
             else if b &&& 0xF0 == 0xE0 then 3 else if b &&& 0xF8 == 0xF0 then 4 else 0)
          else width
        if width == 0 then throw "found an incorrect leading UTF-8 octet"
        if bytes.size > 0 && b &&& 0xC0 != 0x80 then throw "found an incorrect trailing UTF-8 octet"
        let bytes := bytes.push (UInt8.ofNat b)
        let s := s.skip.skip.skip
        if bytes.size == width then pure (s, bytes) else go fuel s bytes width
      | _, _, _ => throw "did not find URI escaped octet"
  let (s, bytes) ← go 5 s #[] 0
  match String.fromUTF8? ⟨bytes⟩ with
  | some text => pure (s, text)
  | none => throw "found an incorrect UTF-8 sequence"

/-- Whether a character may appear in a tag URI; `verbatim` also admits `,`, `[`, `]`. -/
def isUriChar (verbatim : Bool) (c : Char) : Bool :=
  isWordChar c || ";/?:@&=+$.%!~*'()".toList.contains c ||
    (verbatim && (c == ',' || c == '[' || c == ']'))

/-- Reads a tag URI after the given head (whose leading `!` is not copied). -/
def readTagUri (verbatim : Bool) (head : String) (s : Scanner) :
    Except String (Scanner × String) := do
  let rec go : Nat → Scanner → String → Nat → Except String (Scanner × String × Nat)
    | 0, s, acc, n => pure (s, acc, n)
    | fuel + 1, s, acc, n =>
      match s.at? 0 with
      | some c =>
        if isUriChar verbatim c then
          if c == '%' then do
            let (s, text) ← readUriEscapes s
            go fuel s (acc ++ text) (n + 1)
          else go fuel s.skip (acc.push c) (n + 1)
        else pure (s, acc, n)
      | none => pure (s, acc, n)
  let (s, text, n) ← go (s.input.size + 1) s (String.ofList (head.toList.drop 1)) head.length
  if n == 0 then throw "did not find expected tag URI"
  pure (s, text)

/-- Reads a tag handle: `!`, `!!` or `!name!`. -/
def readTagHandle (directive : Bool) (s : Scanner) : Except String (Scanner × String) := do
  if !s.checkAt 0 '!' then throw "did not find expected '!'"
  let s := s.skip
  let (s, name) := s.readWhile isWordChar
  if s.checkAt 0 '!' then pure (s.skip, "!" ++ name ++ "!")
  else if directive && !name.isEmpty then throw "did not find expected '!'"
  else pure (s, "!" ++ name)

/-- Reads a `%YAML` or `%TAG` directive. -/
def fetchDirective (s : Scanner) : ScanResult := do
  let s := s.unrollIndent (-1)
  let s ← s.removeSimpleKey
  let s := { s with simpleKeyAllowed := false }
  let s := s.skip
  let (s, name) := s.readWhile isWordChar
  if name.isEmpty then throw "could not find expected directive name"
  if !s.isBlankzAt 0 then throw "found unexpected non-alphabetical character"
  let (s, token) ← if name == "YAML" then do
      let (s, _) := s.readWhile isBlankChar
      let (s, major) := s.readWhile Char.isDigit
      if major.isEmpty || major.length > 9 then throw "did not find expected version number"
      if !s.checkAt 0 '.' then throw "did not find expected digit or '.' character"
      let (s, minor) := s.skip.readWhile Char.isDigit
      if minor.isEmpty || minor.length > 9 then throw "did not find expected version number"
      pure (s, Token.versionDirective major.toNat! minor.toNat!)
    else if name == "TAG" then do
      let (s, _) := s.readWhile isBlankChar
      let (s, handle) ← readTagHandle true s
      if !s.isBlankAt 0 then throw "did not find expected whitespace"
      let (s, _) := s.readWhile isBlankChar
      let (s, pfx) ← readTagUri true "" s
      if !s.isBlankzAt 0 then throw "did not find expected whitespace or line break"
      pure (s, Token.tagDirective handle pfx)
    else throw "found unknown directive name"
  let s ← s.finishLine
  pure (s.emit token)

/-- Reads `---` or `...`. -/
def fetchDocumentIndicator (s : Scanner) (t : Token) : ScanResult := do
  let s := s.unrollIndent (-1)
  let s ← s.removeSimpleKey
  pure ({ s with simpleKeyAllowed := false }.skip.skip.skip.emit t)

/-- Reads `[` or `{`. -/
def fetchFlowStart (s : Scanner) (t : Token) : ScanResult := do
  let s ← s.saveSimpleKey
  let s := s.increaseFlowLevel
  pure ({ s with simpleKeyAllowed := true }.skip.emit t)

/-- Reads `]` or `}`. -/
def fetchFlowEnd (s : Scanner) (t : Token) : ScanResult := do
  let s ← s.removeSimpleKey
  let s := s.decreaseFlowLevel
  pure ({ s with simpleKeyAllowed := false }.skip.emit t)

/-- Reads `,` in a flow collection. -/
def fetchFlowEntry (s : Scanner) : ScanResult := do
  let s ← s.removeSimpleKey
  pure ({ s with simpleKeyAllowed := true }.skip.emit .flowEntry)

/-- Reads a `-` entry indicator. -/
def fetchBlockEntry (s : Scanner) : ScanResult := do
  let s ← if s.flowLevel == 0 then do
      if !s.simpleKeyAllowed then throw "block sequence entries are not allowed in this context"
      pure (s.rollIndent s.mark.column none .blockSequenceStart)
    else pure s
  let s ← s.removeSimpleKey
  pure ({ s with simpleKeyAllowed := true }.skip.emit .blockEntry)

/-- Reads a `?` key indicator. -/
def fetchKey (s : Scanner) : ScanResult := do
  let s ← if s.flowLevel == 0 then do
      if !s.simpleKeyAllowed then throw "mapping keys are not allowed in this context"
      pure (s.rollIndent s.mark.column none .blockMappingStart)
    else pure s
  let s ← s.removeSimpleKey
  pure ({ s with simpleKeyAllowed := s.flowLevel == 0 }.skip.emit .key)

/-- Reads a `:` value indicator, turning a saved simple key into a key. -/
def fetchValue (s : Scanner) : ScanResult := do
  let k := s.topKey
  let s ← if k.possible then
      let s := { s with tokens := insertToken s.tokens k.tokenNumber .key }
      let s := s.rollIndent k.mark.column (some k.tokenNumber) .blockMappingStart
      pure { s.setTopKey { k with possible := false } with simpleKeyAllowed := false }
    else do
      let s ← if s.flowLevel == 0 then do
          if !s.simpleKeyAllowed then throw "mapping values are not allowed in this context"
          pure (s.rollIndent s.mark.column none .blockMappingStart)
        else pure s
      pure { s with simpleKeyAllowed := s.flowLevel == 0 }
  pure (s.skip.emit .value)

/-- Reads an alias `*name` or an anchor `&name`. -/
def fetchAnchor (s : Scanner) (isAlias : Bool) : ScanResult := do
  let s ← s.saveSimpleKey
  let s := { s with simpleKeyAllowed := false }.skip
  let (s, name) := s.readWhile isWordChar
  let ok := s.isBlankzAt 0 || afterAnchorChars.any (s.checkAt 0)
  if name.isEmpty || !ok then throw "did not find expected alphabetic or numeric character"
  pure (s.emit (if isAlias then .alias name else .anchor name))

/-- Reads a tag `!<uri>`, `!suffix`, `!handle!suffix` or `!`. -/
def fetchTag (s : Scanner) : ScanResult := do
  let s ← s.saveSimpleKey
  let s := { s with simpleKeyAllowed := false }
  let (s, handle, suffix) ← if s.checkAt 1 '<' then do
      let (s, uri) ← readTagUri true "" s.skip.skip
      if !s.checkAt 0 '>' then throw "did not find the expected '>'"
      pure (s.skip, "", uri)
    else do
      let (s, handle) ← readTagHandle false s
      if handle.length > 1 && handle.endsWith "!" then
        let (s, suffix) ← readTagUri false "" s
        pure (s, handle, suffix)
      else
        let (s, suffix) ← readTagUri false handle s
        if suffix.isEmpty then pure (s, "", "!") else pure (s, "!", suffix)
  if !s.isBlankzAt 0 && !(s.flowLevel > 0 && s.checkAt 0 ',') then
    throw "did not find expected whitespace or line break"
  pure (s.emit (.tag handle suffix))

/-- Skips the indentation of a block scalar's lines and collects the empty lines;
settles the indentation when it is still unknown. -/
def blockScalarBreaks (s : Scanner) (indent : Nat) (breaks : String) :
    Except String (Scanner × Nat × String) := do
  let rec go : Nat → Scanner → String → Nat → Except String (Scanner × String × Nat)
    | 0, s, breaks, maxIndent => pure (s, breaks, maxIndent)
    | fuel + 1, s, breaks, maxIndent => do
      let rec spaces : Nat → Scanner → Scanner
        | 0, s => s
        | f + 1, s =>
          if (indent == 0 || s.mark.column < indent) && s.checkAt 0 ' ' then spaces f s.skip else s
      let s := spaces (s.input.size + 1) s
      let maxIndent := max maxIndent s.mark.column
      if (indent == 0 || s.mark.column < indent) && s.checkAt 0 '\t' then
        throw "found a tab character where an indentation space is expected"
      if !s.isBreakAt 0 then pure (s, breaks, maxIndent)
      else
        let (s, br) := s.readLine
        go fuel s (breaks ++ br) maxIndent
  let (s, breaks, maxIndent) ← go (s.input.size + 1) s breaks 0
  let indent := if indent == 0 then
      let i := max maxIndent (s.indent + 1).toNat
      max i 1
    else indent
  pure (s, indent, breaks)

/-- Reads a literal (`|`) or folded (`>`) block scalar. -/
def fetchBlockScalar (s : Scanner) (literal : Bool) : ScanResult := do
  let s ← s.removeSimpleKey
  let s := { s with simpleKeyAllowed := true }.skip
  -- chomping and indentation indicators, in either order
  let digit (c : Option Char) : Option Nat :=
    c.bind fun c => if c.isDigit then some (c.toNat - 48) else none
  let (s, chomping, increment) ← do
    if s.checkAt 0 '+' || s.checkAt 0 '-' then
      let chomping : Int := if s.checkAt 0 '+' then 1 else -1
      let s := s.skip
      match digit (s.at? 0) with
      | some 0 => throw "found an indentation indicator equal to 0"
      | some d => pure (s.skip, chomping, d)
      | none => pure (s, chomping, 0)
    else
      match digit (s.at? 0) with
      | some 0 => throw "found an indentation indicator equal to 0"
      | some d =>
        let s := s.skip
        if s.checkAt 0 '+' || s.checkAt 0 '-' then
          pure (s.skip, (if s.checkAt 0 '+' then 1 else -1 : Int), d)
        else pure (s, (0 : Int), d)
      | none => pure (s, (0 : Int), 0)
  let s ← s.finishLine
  let indent : Nat := if increment > 0 then
      (if s.indent ≥ 0 then (s.indent + increment).toNat else increment) else 0
  let (s, indent, trailing) ← blockScalarBreaks s indent ""
  let rec body : Nat → Scanner → String → String → String → Bool →
      Except String (Scanner × String × String × String)
    | 0, s, text, leading, trailing, _ => pure (s, text, leading, trailing)
    | fuel + 1, s, text, leading, trailing, leadingBlank =>
      if s.mark.column == indent && !s.isEndAt 0 then do
        let trailingBlank := s.isBlankAt 0
        let text :=
          if !literal && leading.startsWith "\n" && !leadingBlank && !trailingBlank then
            if trailing.isEmpty then text.push ' ' else text
          else text ++ leading
        let text := text ++ trailing
        let leadingBlank := s.isBlankAt 0
        let (s, line) := s.readWhile (fun c => !isBreakChar c)
        let text := text ++ line
        let (s, leading) := s.readLine
        let (s, _, trailing) ← blockScalarBreaks s indent ""
        body fuel s text leading trailing leadingBlank
      else pure (s, text, leading, trailing)
  let (s, text, leading, trailing) ← body (s.input.size + 1) s "" "" trailing false
  let text := if chomping != -1 then text ++ leading else text
  let text := if chomping == 1 then text ++ trailing else text
  pure (s.emit (.scalar text (if literal then .literal else .folded)))

/-- The character of a one-letter escape in a double-quoted scalar. -/
def escapeChar (c : Char) : Option Char :=
  match c with
  | '0' => some (Char.ofNat 0)
  | 'a' => some (Char.ofNat 7)
  | 'b' => some (Char.ofNat 8)
  | 't' | '\t' => some '\t'
  | 'n' => some '\n'
  | 'v' => some (Char.ofNat 11)
  | 'f' => some (Char.ofNat 12)
  | 'r' => some '\r'
  | 'e' => some (Char.ofNat 27)
  | ' ' => some ' '
  | '"' => some '"'
  | '/' => some '/'
  | '\'' => some '\''
  | '\\' => some '\\'
  | 'N' => some (Char.ofNat 0x85)
  | '_' => some (Char.ofNat 0xA0)
  | 'L' => some (Char.ofNat 0x2028)
  | 'P' => some (Char.ofNat 0x2029)
  | _ => none

/-- Reads the hexadecimal code of a `\x`, `\u` or `\U` escape. -/
def readEscapeCode (s : Scanner) (width : Nat) : Except String (Scanner × Char) := do
  let digits := (List.range width).map fun k => (s.at? k).bind hexValue
  if digits.any Option.isNone then throw "did not find expected hexdecimal number"
  let value := digits.foldl (fun v d => 16 * v + d.getD 0) 0
  if (0xD800 ≤ value && value ≤ 0xDFFF) || value > 0x10FFFF then
    throw "found invalid Unicode character escape code"
  let s := (List.range width).foldl (fun s _ => s.skip) s
  pure (s, Char.ofNat value)

/-- Reads a single- or double-quoted scalar. -/
def fetchFlowScalar (s : Scanner) (single : Bool) : ScanResult := do
  let s ← s.saveSimpleKey
  let s := { s with simpleKeyAllowed := false }.skip
  let quote := if single then '\'' else '"'
  -- the characters up to a blank, the closing quote, or an escaped line break
  let rec word : Nat → Scanner → String → Except String (Scanner × String × Bool)
    | 0, s, text => pure (s, text, false)
    | fuel + 1, s, text =>
      if s.isBlankzAt 0 then pure (s, text, false)
      else if single && s.checkAt 0 '\'' && s.checkAt 1 '\'' then
        word fuel s.skip.skip (text.push '\'')
      else if s.checkAt 0 quote then pure (s, text, false)
      else if !single && s.checkAt 0 '\\' && s.isBreakAt 1 then
        pure (s.skip.skipLine, text, true)
      else if !single && s.checkAt 0 '\\' then do
        let c := (s.at? 1).getD ' '
        let s := s.skip.skip
        match c with
        | 'x' => let (s, ch) ← readEscapeCode s 2; word fuel s (text.push ch)
        | 'u' => let (s, ch) ← readEscapeCode s 4; word fuel s (text.push ch)
        | 'U' => let (s, ch) ← readEscapeCode s 8; word fuel s (text.push ch)
        | _ =>
          match escapeChar c with
          | some ch => word fuel s (text.push ch)
          | none => throw "found unknown escape character"
      else
        let (s, ch) := s.readChar
        word fuel s (text ++ ch)
  -- blanks and breaks between words
  let rec gap : Nat → Scanner → Bool → String → String → String →
      Scanner × Bool × String × String × String
    | 0, s, lb, ws, leading, trailing => (s, lb, ws, leading, trailing)
    | fuel + 1, s, lb, ws, leading, trailing =>
      if s.isBlankAt 0 then
        if !lb then
          let (s, ch) := s.readChar
          gap fuel s lb (ws ++ ch) leading trailing
        else gap fuel s.skip lb ws leading trailing
      else if s.isBreakAt 0 then
        if !lb then
          let (s, br) := s.readLine
          gap fuel s true "" br trailing
        else
          let (s, br) := s.readLine
          gap fuel s lb ws leading (trailing ++ br)
      else (s, lb, ws, leading, trailing)
  let rec loop : Nat → Scanner → String → Except String (Scanner × String)
    | 0, _, _ => throw "found unexpected end of stream"
    | fuel + 1, s, text => do
      if s.atDocumentIndicator then throw "found unexpected document indicator"
      if s.isEndAt 0 then throw "found unexpected end of stream"
      let (s, part, escapedBreak) ← word (s.input.size + 1) s ""
      let text := text ++ part
      if !escapedBreak && s.checkAt 0 quote then pure (s.skip, text)
      else
        let (s, lb, ws, leading, trailing) :=
          gap (s.input.size + 1) s escapedBreak "" "" ""
        let text :=
          if lb then
            if leading.startsWith "\n" then
              if trailing.isEmpty then text.push ' ' else text ++ trailing
            else text ++ leading ++ trailing
          else text ++ ws
        if s.checkAt 0 quote then pure (s.skip, text) else loop fuel s text
  let (s, text) ← loop (s.input.size + 1) s ""
  pure (s.emit (.scalar text (if single then .singleQuoted else .doubleQuoted)))

/-- Reads a plain scalar. -/
def fetchPlainScalar (s : Scanner) : ScanResult := do
  let s ← s.saveSimpleKey
  let s := { s with simpleKeyAllowed := false }
  let indent : Int := s.indent + 1
  let endsScalar (s : Scanner) : Bool :=
    (s.checkAt 0 ':' && s.isBlankzAt 1) ||
      (s.flowLevel > 0 && flowIndicators.any (s.checkAt 0))
  let rec word : Nat → Scanner → String → Bool → String → String → String →
      Except String (Scanner × String × Bool × String × String × String)
    | 0, s, text, lb, ws, leading, trailing => pure (s, text, lb, ws, leading, trailing)
    | fuel + 1, s, text, lb, ws, leading, trailing => do
      if s.isBlankzAt 0 then pure (s, text, lb, ws, leading, trailing)
      else
        if s.flowLevel > 0 && s.checkAt 0 ':' && ('?' :: flowIndicators).any (s.checkAt 1) then
          throw "found unexpected ':'"
        if endsScalar s then pure (s, text, lb, ws, leading, trailing)
        else
          let (text, lb, ws, leading, trailing) :=
            if lb then
              if leading.startsWith "\n" then
                if trailing.isEmpty then (text.push ' ', false, ws, "", trailing)
                else (text ++ trailing, false, ws, "", "")
              else (text ++ leading ++ trailing, false, ws, "", "")
            else if !ws.isEmpty then (text ++ ws, lb, "", leading, trailing)
            else (text, lb, ws, leading, trailing)
          let (s, ch) := s.readChar
          word fuel s (text ++ ch) lb ws leading trailing
  let rec gap : Nat → Scanner → Bool → String → String → String →
      Except String (Scanner × Bool × String × String × String)
    | 0, s, lb, ws, leading, trailing => pure (s, lb, ws, leading, trailing)
    | fuel + 1, s, lb, ws, leading, trailing => do
      if s.isBlankAt 0 then
        if lb && (s.mark.column : Int) < indent && s.checkAt 0 '\t' then
          throw "found a tab character that violates indentation"
        if !lb then
          let (s, ch) := s.readChar
          gap fuel s lb (ws ++ ch) leading trailing
        else gap fuel s.skip lb ws leading trailing
      else if s.isBreakAt 0 then
        if !lb then
          let (s, br) := s.readLine
          gap fuel s true "" br trailing
        else
          let (s, br) := s.readLine
          gap fuel s lb ws leading (trailing ++ br)
      else pure (s, lb, ws, leading, trailing)
  let rec loop : Nat → Scanner → String → Bool → String → String → String →
      Except String (Scanner × String × Bool)
    | 0, s, text, lb, _, _, _ => pure (s, text, lb)
    | fuel + 1, s, text, lb, ws, leading, trailing => do
      if s.atDocumentIndicator || s.checkAt 0 '#' then pure (s, text, lb)
      else
        let (s, text, lb, ws, leading, trailing) ←
          word (s.input.size + 1) s text lb ws leading trailing
        if !(s.isBlankAt 0 || s.isBreakAt 0) then pure (s, text, lb)
        else
          let (s, lb, ws, leading, trailing) ← gap (s.input.size + 1) s lb ws leading trailing
          if s.flowLevel == 0 && (s.mark.column : Int) < indent then pure (s, text, lb)
          else loop fuel s text lb ws leading trailing
  let (s, text, lb) ← loop (s.input.size + 1) s "" false "" "" ""
  let s := if lb then { s with simpleKeyAllowed := true } else s
  pure (s.emit (.scalar text .plain))

/-- Ends the stream. -/
def fetchStreamEnd (s : Scanner) : ScanResult := do
  let s := if s.mark.column != 0 then { s with mark := ⟨s.mark.index, s.mark.line + 1, 0⟩ } else s
  let s := s.unrollIndent (-1)
  let s ← s.removeSimpleKey
  pure { s.emit .streamEnd with simpleKeyAllowed := false, done := true }

/-- Reads the next token. -/
def fetchNext (s : Scanner) : ScanResult := do
  let s := s.scanToNextToken
  let s ← s.staleSimpleKeys
  let s := s.unrollIndent s.mark.column
  match s.at? 0 with
  | none => s.fetchStreamEnd
  | some c =>
    if s.mark.column == 0 && c == '%' then s.fetchDirective
    else if s.mark.column == 0 && s.checkAt 0 '-' && s.checkAt 1 '-' && s.checkAt 2 '-' &&
        s.isBlankzAt 3 then s.fetchDocumentIndicator .documentStart
    else if s.mark.column == 0 && s.checkAt 0 '.' && s.checkAt 1 '.' && s.checkAt 2 '.' &&
        s.isBlankzAt 3 then s.fetchDocumentIndicator .documentEnd
    else if c == '[' then s.fetchFlowStart .flowSequenceStart
    else if c == '{' then s.fetchFlowStart .flowMappingStart
    else if c == ']' then s.fetchFlowEnd .flowSequenceEnd
    else if c == '}' then s.fetchFlowEnd .flowMappingEnd
    else if c == ',' then s.fetchFlowEntry
    else if c == '-' && s.isBlankzAt 1 then s.fetchBlockEntry
    else if c == '?' && (s.flowLevel > 0 || s.isBlankzAt 1) then s.fetchKey
    else if c == ':' && (s.flowLevel > 0 || s.isBlankzAt 1) then s.fetchValue
    else if c == '*' then s.fetchAnchor true
    else if c == '&' then s.fetchAnchor false
    else if c == '!' then s.fetchTag
    else if c == '|' && s.flowLevel == 0 then s.fetchBlockScalar true
    else if c == '>' && s.flowLevel == 0 then s.fetchBlockScalar false
    else if c == '\'' then s.fetchFlowScalar true
    else if c == '"' then s.fetchFlowScalar false
    else if !(s.isBlankzAt 0 || indicatorChars.contains c) ||
        (c == '-' && !s.isBlankAt 1) ||
        (s.flowLevel == 0 && (c == '?' || c == ':') && !s.isBlankzAt 1) then
      s.fetchPlainScalar
    else throw "found character that cannot start any token"

end Scanner

/-- The tokens of a YAML character stream. -/
def scan (input : Array Char) : Except String (Array Token) := do
  if !input.all isPrintable then throw "control characters are not allowed"
  let start : Scanner :=
    { input := input, mark := ⟨0, 0, 0⟩, tokens := #[.streamStart], flowLevel := 0,
      indent := -1, indents := [], simpleKeyAllowed := true, simpleKeys := [default],
      done := false }
  let rec go : Nat → Scanner → Except String (Array Token)
    | 0, s => pure s.tokens
    | fuel + 1, s => do
      let s ← s.fetchNext
      if s.done then pure s.tokens else go fuel s
  go (input.size + 2) start

end ChartCatalog.Yaml
