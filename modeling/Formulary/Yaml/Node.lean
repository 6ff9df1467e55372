import Formulary.Yaml.Token
/-!
# Nodes of a document

Tokens make up scalars, sequences and mappings. Where a key, a value or an entry is left out, an
empty plain scalar takes its place. Every function is given more steps than there are tokens, and
each of its calls takes a token or is the only one at its place.
-/

set_option autoImplicit false
namespace Formulary.Yaml

inductive Node where
  | scalar (text : String) (plain : Bool)
  | sequence (items : List Node)
  | mapping (entries : List (Node × Node))
  deriving Inhabited

/-- What stands where nothing is written. -/
def Node.empty : Node := .scalar "" true

/-- Why the next token cannot stand where it stands. -/
def unexpected : List Token → Error
  | .fault e :: _ => e
  | _ => .malformed

/-- Whether the next token is one of the given ones. -/
def nextIn (ts : List Token) (choice : List Token) : Bool := ts.head?.any choice.contains

mutual

/-- A node. In a block it may be a block collection, and behind a key also a sequence that is not
indented. -/
def parseNode (block sequenceHere : Bool) : Nat → List Token → Except Error (Node × List Token)
  | 0, _ => .error .malformed
  | n + 1, ts =>
    match ts with
    | .scalar text plain :: rest => .ok (.scalar text plain, rest)
    | .flowSequenceStart :: rest =>
      (parseFlowSequence n true rest).map fun (items, rest) => (.sequence items, rest)
    | .flowMappingStart :: rest =>
      (parseFlowMapping n true rest).map fun (entries, rest) => (.mapping entries, rest)
    | .blockEntry :: _ =>
      if sequenceHere then
        (parseBlockSequence false n ts).map fun (items, rest) => (.sequence items, rest)
      else .error .malformed
    | .blockSequenceStart :: rest =>
      if block then
        (parseBlockSequence true n rest).map fun (items, rest) => (.sequence items, rest)
      else .error .malformed
    | .blockMappingStart :: rest =>
      if block then (parseBlockMapping n rest).map fun (entries, rest) => (.mapping entries, rest)
      else .error .malformed
    | ts => .error (unexpected ts)

/-- A node, or the empty one in front of the given tokens. -/
def parseNodeUnless (stops : List Token) (block sequenceHere : Bool) :
    Nat → List Token → Except Error (Node × List Token)
  | 0, _ => .error .malformed
  | n + 1, ts =>
    if nextIn ts stops then .ok (.empty, ts) else parseNode block sequenceHere n ts

/-- The entries of a block sequence, with the token that closes it if it is indented. -/
def parseBlockSequence (indented : Bool) : Nat → List Token → Except Error (List Node × List Token)
  | 0, _ => .error .malformed
  | n + 1, ts =>
    match ts with
    | .blockEntry :: rest => do
      let stops : List Token :=
        if indented then [.blockEntry, .blockEnd] else [.blockEntry, .key, .value, .blockEnd]
      let (item, rest) ← parseNodeUnless stops true false n rest
      let (items, rest) ← parseBlockSequence indented n rest
      .ok (item :: items, rest)
    | _ =>
      if !indented then .ok ([], ts)
      else
        match ts with
        | .blockEnd :: rest => .ok ([], rest)
        | ts => .error (unexpected ts)

/-- The entries of a block mapping and the token that closes it. -/
def parseBlockMapping : Nat → List Token → Except Error (List (Node × Node) × List Token)
  | 0, _ => .error .malformed
  | n + 1, ts =>
    match ts with
    | .key :: rest => do
      let (key, rest) ← parseNodeUnless [.key, .value, .blockEnd] true true n rest
      let (value, rest) ←
        match rest with
        | .value :: rest => parseNodeUnless [.key, .value, .blockEnd] true true n rest
        | _ => .ok (.empty, rest)
      let (entries, rest) ← parseBlockMapping n rest
      .ok ((key, value) :: entries, rest)
    | .blockEnd :: rest => .ok ([], rest)
    | ts => .error (unexpected ts)

/-- The value behind a key in a flow collection. -/
def parseFlowValue (closing : Token) : Nat → List Token → Except Error (Node × List Token)
  | 0, _ => .error .malformed
  | n + 1, ts =>
    match ts with
    | .value :: rest => parseNodeUnless [.flowEntry, closing] false false n rest
    | _ => .ok (.empty, ts)

/-- The items of a flow sequence and the token that closes it. A key among them begins a mapping of
one entry. -/
def parseFlowSequence : Nat → Bool → List Token → Except Error (List Node × List Token)
  | 0, _, _ => .error .malformed
  | n + 1, first, ts =>
    match ts with
    | .flowSequenceEnd :: rest => .ok ([], rest)
    | _ => do
      let ts ←
        if first then pure ts
        else
          match ts with
          | .flowEntry :: rest => pure rest
          | ts => .error (unexpected ts)
      match ts with
      | .flowSequenceEnd :: rest => .ok ([], rest)
      | .key :: rest => do
        let (key, rest) ←
          parseNodeUnless [.value, .flowEntry, .flowSequenceEnd] false false n rest
        let (value, rest) ← parseFlowValue .flowSequenceEnd n rest
        let (items, rest) ← parseFlowSequence n false rest
        .ok (.mapping [(key, value)] :: items, rest)
      | _ => do
        let (item, rest) ← parseNode false false n ts
        let (items, rest) ← parseFlowSequence n false rest
        .ok (item :: items, rest)

/-- The entries of a flow mapping and the token that closes it. -/
def parseFlowMapping : Nat → Bool → List Token → Except Error (List (Node × Node) × List Token)
  | 0, _, _ => .error .malformed
  | n + 1, first, ts =>
    match ts with
    | .flowMappingEnd :: rest => .ok ([], rest)
    | _ => do
      let ts ←
        if first then pure ts
        else
          match ts with
          | .flowEntry :: rest => pure rest
          | ts => .error (unexpected ts)
      match ts with
      | .flowMappingEnd :: rest => .ok ([], rest)
      | .key :: rest => do
        let (key, rest) ←
          parseNodeUnless [.value, .flowEntry, .flowMappingEnd] false false n rest
        let (value, rest) ← parseFlowValue .flowMappingEnd n rest
        let (entries, rest) ← parseFlowMapping n false rest
        .ok ((key, value) :: entries, rest)
      | _ => do
        let (key, rest) ← parseNode false false n ts
        let (entries, rest) ← parseFlowMapping n false rest
        .ok ((key, .empty) :: entries, rest)

end

/-- The only document of a stream; none if nothing is written. -/
def Node.ofTokens (ts : List Token) : Except Error (Option Node) := do
  let steps := 4 * ts.length + 4
  let (node, rest) ←
    match ts with
    | [.streamEnd] => pure (none, ts)
    | .documentStart :: rest => do
      let (node, rest) ←
        parseNodeUnless [.documentStart, .documentEnd, .streamEnd] true false steps rest
      pure (some node, rest)
    | _ => do
      let (node, rest) ← parseNode true false steps ts
      pure (some node, rest)
  match rest.dropWhile (· == .documentEnd) with
  | [.streamEnd] => .ok node
  | rest => .error (unexpected rest)

end Formulary.Yaml
