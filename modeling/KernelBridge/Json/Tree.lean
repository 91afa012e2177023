import KernelBridge.Json.Token

/-!
# JSON trees

The tokens of a text form a tree. A text that is no JSON has a tree too: the place where
it breaks the grammar is a node, element or member of its own. A reader that walks the
tree from left to right thus meets what it cannot use before, at or after that place, and
the first of the two decides.

## Main definitions

* `Json.Node`, `Json.Elements`, `Json.Members` — the trees
* `Json.Node.ofTokens` — the tree at the head of a list of tokens, and the tokens after it
* `Json.Node.skip` — passing over a value without reading it
-/

namespace KernelBridge.Json

mutual

/-- A value, or what stands in the place of one. -/
inductive Node where
  /-- No value begins here. -/
  | absent (fault : Fault)
  | null
  | bool (value : Bool)
  | brokenWord (fault : Fault)
  | number (numeral : Numeral)
  | brokenNumber (fault : Fault)
  | string (token : StringToken)
  | array (elements : Elements)
  | object (members : Members)

/-- The elements of an array from one of them on. -/
inductive Elements where
  | closed
  /-- Neither a comma nor the closing bracket follows. -/
  | missing (fault : Fault)
  | next (value : Node) (rest : Elements)

/-- The members of an object from one of them on. -/
inductive Members where
  | closed
  /-- Neither a comma nor the closing brace follows. -/
  | missing (fault : Fault)
  /-- A key is due, and something else stands in its place. -/
  | noKey (found : Node)
  | next (key : StringToken) (value : Node) (rest : Members)

end

/-- The fault of a place that needs another token than the next one. -/
def tokenFault : List Token → Fault
  | [] => .truncated
  | _ :: _ => .malformed

mutual

/-- The value at the head of the tokens, and the tokens after it. -/
def Node.build : (fuel : Nat) → List Token → Node × List Token
  | 0, tokens => (.absent (tokenFault tokens), tokens)
  | fuel + 1, tokens =>
    match tokens with
    | .null :: rest => (.null, rest)
    | .bool value :: rest => (.bool value, rest)
    | .brokenWord fault :: rest => (.brokenWord fault, rest)
    | .number numeral :: rest => (.number numeral, rest)
    | .brokenNumber fault :: rest => (.brokenNumber fault, rest)
    | .string token :: rest => (.string token, rest)
    | .openArray :: .closeArray :: rest => (.array .closed, rest)
    | [.openArray] => (.array (.missing .truncated), [])
    | .openArray :: rest =>
      let (value, rest) := Node.build fuel rest
      let (elements, rest) := Elements.build fuel rest
      (.array (.next value elements), rest)
    | .openObject :: .closeObject :: rest => (.object .closed, rest)
    | .openObject :: rest =>
      let (members, rest) := Members.build fuel rest
      (.object members, rest)
    | tokens => (.absent (tokenFault tokens), tokens)

/-- The elements of an array after one of them. -/
def Elements.build : (fuel : Nat) → List Token → Elements × List Token
  | 0, tokens => (.missing (tokenFault tokens), tokens)
  | fuel + 1, tokens =>
    match tokens with
    | .closeArray :: rest => (.closed, rest)
    | .comma :: rest =>
      let (value, rest) := Node.build fuel rest
      let (elements, rest) := Elements.build fuel rest
      (.next value elements, rest)
    | tokens => (.missing (tokenFault tokens), tokens)

/-- The members of an object where a key is due. -/
def Members.build : (fuel : Nat) → List Token → Members × List Token
  | 0, tokens => (.missing (tokenFault tokens), tokens)
  | fuel + 1, tokens =>
    match tokens with
    | .string key :: .colon :: rest =>
      let (value, rest) := Node.build fuel rest
      let (members, rest) := Members.buildAfter fuel rest
      (.next key value members, rest)
    | .string key :: rest => (.next key (.absent (tokenFault rest)) .closed, rest)
    | tokens =>
      let (found, rest) := Node.build fuel tokens
      (.noKey found, rest)

/-- The members of an object after one of them. -/
def Members.buildAfter : (fuel : Nat) → List Token → Members × List Token
  | 0, tokens => (.missing (tokenFault tokens), tokens)
  | fuel + 1, tokens =>
    match tokens with
    | .closeObject :: rest => (.closed, rest)
    | .comma :: rest => Members.build fuel rest
    | tokens => (.missing (tokenFault tokens), tokens)

end

/-- The value at the head of the tokens, and the tokens after it. Between two steps into
the tree that take no token one is taken, so twice the number of tokens is enough. -/
def Node.ofTokens (tokens : List Token) : Node × List Token :=
  Node.build (2 * tokens.length + 2) tokens

/-- The fault of an object where something else than a key stands. -/
def keyFault : Node → Fault
  | .absent fault => fault
  | _ => .malformed

mutual

/-- Passing over a value: it has to follow the grammar, but a numeral may name a number
out of range, and a string may hold half a pair of code units. -/
def Node.skip : Node → Except Fault Unit
  | .absent fault => .error fault
  | .null => .ok ()
  | .bool _ => .ok ()
  | .brokenWord fault => .error fault
  | .number _ => .ok ()
  | .brokenNumber _ => .error .malformed
  | .string token =>
    match token.fault with
    | none => .ok ()
    | some fault => .error fault
  | .array elements => elements.skip
  | .object members => members.skip

/-- Passing over the elements of an array. -/
def Elements.skip : Elements → Except Fault Unit
  | .closed => .ok ()
  | .missing fault => .error fault
  | .next value rest =>
    match value.skip with
    | .ok () => rest.skip
    | .error fault => .error fault

/-- Passing over the members of an object. -/
def Members.skip : Members → Except Fault Unit
  | .closed => .ok ()
  | .missing fault => .error fault
  | .noKey found => .error (keyFault found)
  | .next key value rest =>
    match key.fault with
    | some fault => .error fault
    | none =>
      match value.skip with
      | .ok () => rest.skip
      | .error fault => .error fault

end

end KernelBridge.Json
