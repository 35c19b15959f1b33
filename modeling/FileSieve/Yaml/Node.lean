import FileSieve.Yaml.Scalar
import FileSieve.Yaml.Token

/-!
# Nodes of a YAML document

The tokens of a document form a tree of scalars, lists and mappings, and the tree stands for a
value. Of several entries with the same key the last one counts.
-/

namespace FileSieve.Yaml

/-- A node. -/
inductive Node where
  /-- A text, plain or not. -/
  | scalar (text : List Char) (isPlain : Bool)
  /-- A list. -/
  | list (items : List Node)
  /-- A mapping. -/
  | mapping (entries : List (Node × Node))
  deriving Repr

namespace Node

/-- What stands where nothing is written. -/
def missing : Node := .scalar [] true

/-! ### Trees -/

/-- Does the next token stand for a node that is left out, because it is one of those that may
follow? -/
def isLeftOut (followers : List Token) : List Token → Bool
  | [] => true
  | token :: _ => followers.contains token

mutual

/-- A node at the front of some tokens, and the tokens after it. In a mapping a list may begin
without more indentation. -/
def parse : Nat → Bool → Bool → List Token → Except Error (Node × List Token)
  | 0, _, _, _ => .error .malformed
  | fuel + 1, inBlock, unindented, tokens =>
    match tokens with
    | .scalar text isPlain :: rest => .ok (.scalar text isPlain, rest)
    | .flowList :: rest => flowItems fuel true [] rest
    | .flowMapping :: rest => flowEntries fuel true [] rest
    | .blockList :: rest => if inBlock then blockItems fuel [] rest else .error .malformed
    | .blockMapping :: rest => if inBlock then blockEntries fuel [] rest else .error .malformed
    | .item :: _ => if unindented then looseItems fuel [] tokens else .error .malformed
    | _ => .error .malformed

/-- A node, or nothing where one is left out. -/
def parseOr : Nat → Bool → Bool → List Token → List Token → Except Error (Node × List Token)
  | 0, _, _, _, _ => .error .malformed
  | fuel + 1, inBlock, unindented, followers, tokens =>
    if isLeftOut followers tokens then .ok (missing, tokens)
    else parse fuel inBlock unindented tokens

/-- The items of a list in a block, after those that were read. -/
def blockItems : Nat → List Node → List Token → Except Error (Node × List Token)
  | 0, _, _ => .error .malformed
  | fuel + 1, items, .item :: rest => do
    let (node, rest) ← parseOr fuel true false [.item, .blockEnd] rest
    blockItems fuel (items ++ [node]) rest
  | _ + 1, items, .blockEnd :: rest => .ok (.list items, rest)
  | _ + 1, _, _ => .error .malformed

/-- The items of a list without indentation of its own. -/
def looseItems : Nat → List Node → List Token → Except Error (Node × List Token)
  | 0, _, _ => .error .malformed
  | fuel + 1, items, .item :: rest => do
    let (node, rest) ← parseOr fuel true false [.item, .key, .value, .blockEnd] rest
    looseItems fuel (items ++ [node]) rest
  | _ + 1, items, rest => .ok (.list items, rest)

/-- The entries of a mapping in a block, after those that were read. -/
def blockEntries : Nat → List (Node × Node) → List Token → Except Error (Node × List Token)
  | 0, _, _ => .error .malformed
  | fuel + 1, entries, .key :: rest => do
    let (key, rest) ← parseOr fuel true true [.key, .value, .blockEnd] rest
    let (value, rest) ← valueAfter fuel true [.key, .value, .blockEnd] rest
    blockEntries fuel (entries ++ [(key, value)]) rest
  | _ + 1, entries, .blockEnd :: rest => .ok (.mapping entries, rest)
  | _ + 1, _, _ => .error .malformed

/-- The value of a key, if a colon announces one. -/
def valueAfter : Nat → Bool → List Token → List Token → Except Error (Node × List Token)
  | 0, _, _, _ => .error .malformed
  | fuel + 1, inBlock, followers, .value :: rest => parseOr fuel inBlock inBlock followers rest
  | _ + 1, _, _, rest => .ok (missing, rest)

/-- The items of a list in a flow. A key makes an item a mapping with one entry. -/
def flowItems : Nat → Bool → List Node → List Token → Except Error (Node × List Token)
  | 0, _, _, _ => .error .malformed
  | _ + 1, _, items, .flowListEnd :: rest => .ok (.list items, rest)
  | fuel + 1, isFirst, items, tokens => do
    match isFirst, tokens with
    | false, .comma :: rest | true, rest =>
      match rest with
      | .flowListEnd :: rest => return (.list items, rest)
      | .key :: rest => do
        let (key, rest) ← parseOr fuel false false [.value, .comma, .flowListEnd] rest
        let (value, rest) ← valueAfter fuel false [.comma, .flowListEnd] rest
        flowItems fuel false (items ++ [.mapping [(key, value)]]) rest
      | rest => do
        let (node, rest) ← parse fuel false false rest
        flowItems fuel false (items ++ [node]) rest
    | _, _ => .error .malformed

/-- The entries of a mapping in a flow. -/
def flowEntries : Nat → Bool → List (Node × Node) → List Token →
    Except Error (Node × List Token)
  | 0, _, _, _ => .error .malformed
  | _ + 1, _, entries, .flowMappingEnd :: rest => .ok (.mapping entries, rest)
  | fuel + 1, isFirst, entries, tokens => do
    match isFirst, tokens with
    | false, .comma :: rest | true, rest =>
      match rest with
      | .flowMappingEnd :: rest => return (.mapping entries, rest)
      | .key :: rest => do
        let (key, rest) ← parseOr fuel false false [.value, .comma, .flowMappingEnd] rest
        let (value, rest) ← valueAfter fuel false [.comma, .flowMappingEnd] rest
        flowEntries fuel false (entries ++ [(key, value)]) rest
      | rest => do
        let (key, rest) ← parse fuel false false rest
        flowEntries fuel false (entries ++ [(key, missing)]) rest
    | _, _ => .error .malformed

end

/-- The tokens without those at the front that end a document. -/
def afterDocuments : List Token → List Token :=
  List.dropWhile (· = .documentEnd)

/-- The node of a whole document: nothing, if there is no document. -/
def document (tokens : List Token) : Except Error Node := do
  let fuel := 4 * tokens.length + 8
  match tokens with
  | [] => return missing
  | .documentStart :: rest =>
    let (node, rest) ← parseOr fuel true false [.documentStart, .documentEnd] rest
    if (afterDocuments rest).isEmpty then return node else .error .malformed
  | tokens =>
    let (node, rest) ← parse fuel true false tokens
    if (afterDocuments rest).isEmpty then return node else .error .malformed

/-! ### Values -/

/-- The key that a value may be. -/
def keyOf : Value → Except Error Key
  | .null => .ok .null
  | .bool b => .ok (.bool b)
  | .int n => .ok (.int n)
  | .float x => .ok (.float x)
  | .text s => .ok (.text s)
  | .other x => .ok (.other x)
  | .list _ | .tuple _ | .map _ => .error .malformed

mutual

/-- The value that a node stands for. -/
def value : Node → Except Error Value
  | .scalar text true => ofPlain text
  | .scalar text false => .ok (.text text)
  | .list items => do return .list (← values items)
  | .mapping entries => do return .map (← table [] entries)

/-- The values that some nodes stand for. -/
def values : List Node → Except Error (List Value)
  | [] => .ok []
  | node :: rest => do return (← node.value) :: (← values rest)

/-- A table with the entries of a mapping added. -/
def table (old : Table) : List (Node × Node) → Except Error Table
  | [] => .ok old
  | (k, v) :: rest => do
    let key ← match k with
      | .scalar ['='] true => .ok (.text ['='])
      | k => do keyOf (← k.value)
    table (old.put key (← v.value)) rest

end

end Node

/-! ### Documents -/

/-- Characters that a document may hold. -/
def isAllowed (c : Char) : Bool :=
  c == '\t' || c == '\n' || c == '\r' || (' ' ≤ c && c ≤ '~') || c == '\x85' ||
    ('\xA0' ≤ c && c ≤ '\uFFFD') || 0x10000 ≤ c.toNat

/-- The value of a document. -/
def read (s : List Char) : Except Error Value :=
  if s.all isAllowed then do
    let node ← Node.document (← tokens s)
    node.value
  else .error .malformed

end FileSieve.Yaml
