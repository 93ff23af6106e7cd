import ProxyLog.Yaml.Token
import ProxyLog.Yaml.Value

/-!
# Structure of a configuration text

* `Node`: scalars, sequences and mappings as they are written.
* `Node.ofTokens? ts`: the only document of a token sequence, or nothing if there is none; a
  failure if the tokens form no document.

Sequences and mappings are written as blocks or between brackets. Where a node is left out, an
empty scalar stands.
-/

set_option autoImplicit false

namespace ProxyLog.Yaml

/-- A part of a document. -/
inductive Node
  | plain (text : String)
  | quoted (text : String)
  | sequence (items : List Node)
  | mapping (entries : List (Node × Node))

namespace Node

/-- A node that is left out. -/
def empty : Node := plain ""

/-- A node and the tokens behind it. -/
abbrev Parsed := Option (Node × List Token)

/-! ## Ends -/

/-- A token in front of which the content of an entry is left out. -/
def endsEntry : Token → Bool
  | .entry | .blockEnd => true
  | _ => false

/-- The same for a sequence that is not indented, in a mapping. -/
def endsInnerEntry : Token → Bool
  | .entry | .key | .value | .blockEnd => true
  | _ => false

/-- The same for the key or value of a mapping. -/
def endsSide : Token → Bool
  | .key | .value | .blockEnd => true
  | _ => false

/-- The same for a key between square brackets. -/
def endsListedKey : Token → Bool
  | .value | .comma | .flowSequenceEnd => true
  | _ => false

/-- The same for a value between square brackets. -/
def endsListedValue : Token → Bool
  | .comma | .flowSequenceEnd => true
  | _ => false

/-- The same for a key between braces. -/
def endsBracedKey : Token → Bool
  | .value | .comma | .flowMappingEnd => true
  | _ => false

/-- The same for a value between braces. -/
def endsBracedValue : Token → Bool
  | .comma | .flowMappingEnd => true
  | _ => false

/-- The tokens behind the comma that separates an item from those before it. -/
def behindComma? (first : Bool) : List Token → Option (List Token)
  | .comma :: rest => if first then some (.comma :: rest) else some rest
  | .flowSequenceEnd :: rest => some (.flowSequenceEnd :: rest)
  | .flowMappingEnd :: rest => some (.flowMappingEnd :: rest)
  | ts => if first then some ts else none

/-! ## Nodes -/

/-- Where a node stands: between brackets, in a block, or in a block where a sequence may do
without indentation. -/
inductive Setting
  | flow
  | block
  | side
  deriving DecidableEq

mutual

/-- Reads a node. Each call takes a token or goes on to a part of the same node, so that `fuel`
need not exceed four times their number. -/
def read (fuel : Nat) (setting : Setting) (ts : List Token) : Parsed :=
  match fuel with
  | 0 => none
  | fuel + 1 =>
    match ts with
    | .plain text :: rest => some (.plain text, rest)
    | .quoted text :: rest => some (.quoted text, rest)
    | .flowSequence :: rest => readListed fuel [] rest
    | .flowMapping :: rest => readBraced fuel [] rest
    | .blockSequence :: rest => if setting = .flow then none else readEntries fuel [] rest
    | .blockMapping :: rest => if setting = .flow then none else readMapping fuel [] rest
    | .entry :: rest => if setting = .side then readInner fuel [] (.entry :: rest) else none
    | _ => none

/-- Reads a node unless it is left out. -/
def readOptional (fuel : Nat) (setting : Setting) (ends : Token → Bool) (ts : List Token) : Parsed :=
  match fuel with
  | 0 => none
  | fuel + 1 => if ts.head?.any ends then some (empty, ts) else read fuel setting ts

/-- Reads the entries of a block sequence. -/
def readEntries (fuel : Nat) (items : List Node) (ts : List Token) : Parsed :=
  match fuel with
  | 0 => none
  | fuel + 1 =>
    match ts with
    | .entry :: rest => do
      let (item, rest) ← readOptional fuel .block endsEntry rest
      readEntries fuel (item :: items) rest
    | .blockEnd :: rest => some (.sequence items.reverse, rest)
    | _ => none

/-- Reads the entries of a sequence that is not indented. -/
def readInner (fuel : Nat) (items : List Node) (ts : List Token) : Parsed :=
  match fuel with
  | 0 => none
  | fuel + 1 =>
    match ts with
    | .entry :: rest => do
      let (item, rest) ← readOptional fuel .block endsInnerEntry rest
      readInner fuel (item :: items) rest
    | ts => some (.sequence items.reverse, ts)

/-- Reads the entries of a block mapping. -/
def readMapping (fuel : Nat) (entries : List (Node × Node)) (ts : List Token) : Parsed :=
  match fuel with
  | 0 => none
  | fuel + 1 =>
    match ts with
    | .key :: rest => do
      let (key, rest) ← readOptional fuel .side endsSide rest
      let (value, rest) ←
        match rest with
        | .value :: rest => readOptional fuel .side endsSide rest
        | rest => some (empty, rest)
      readMapping fuel ((key, value) :: entries) rest
    | .blockEnd :: rest => some (.mapping entries.reverse, rest)
    | _ => none

/-- Reads the items between square brackets. One with a key is a mapping of its own. -/
def readListed (fuel : Nat) (items : List Node) (ts : List Token) : Parsed :=
  match fuel with
  | 0 => none
  | fuel + 1 => do
    match ← behindComma? items.isEmpty ts with
    | .flowSequenceEnd :: rest => some (.sequence items.reverse, rest)
    | .key :: rest =>
      let (key, rest) ← readOptional fuel .flow endsListedKey rest
      let (value, rest) ←
        match rest with
        | .value :: rest => readOptional fuel .flow endsListedValue rest
        | rest => some (empty, rest)
      readListed fuel (.mapping [(key, value)] :: items) rest
    | ts =>
      let (item, rest) ← read fuel .flow ts
      readListed fuel (item :: items) rest

/-- Reads the entries between braces. -/
def readBraced (fuel : Nat) (entries : List (Node × Node)) (ts : List Token) : Parsed :=
  match fuel with
  | 0 => none
  | fuel + 1 => do
    match ← behindComma? entries.isEmpty ts with
    | .flowMappingEnd :: rest => some (.mapping entries.reverse, rest)
    | .key :: rest =>
      let (key, rest) ← readOptional fuel .flow endsBracedKey rest
      let (value, rest) ←
        match rest with
        | .value :: rest => readOptional fuel .flow endsBracedValue rest
        | rest => some (empty, rest)
      readBraced fuel ((key, value) :: entries) rest
    | ts =>
      let (key, rest) ← read fuel .flow ts
      readBraced fuel ((key, empty) :: entries) rest

end

/-! ## Documents -/

/-- Reads the node of a document whose start is marked. -/
def readMarked (fuel : Nat) (ts : List Token) : Parsed :=
  match ts with
  | [] => some (empty, [])
  | t :: rest =>
    if t = .directive || t = .documentStart || t = .documentEnd then some (empty, t :: rest)
    else read fuel .block (t :: rest)

/-- The node of the only document, if there is one. -/
def ofTokens? (ts : List Token) : Option (Option Node) :=
  let fuel := 4 * ts.length + 4
  match ts with
  | [] => some none
  | t :: _ => do
    let (node, rest) ←
      if t = .directive || t = .documentStart then
        match ts.dropWhile (· = .directive) with
        | .documentStart :: rest => readMarked fuel rest
        | _ => none
      else read fuel .block ts
    if (rest.dropWhile (· = .documentEnd)).isEmpty then some (some node) else none

end Node

end ProxyLog.Yaml
