import Registrar.Yaml.Token

/-!
# Nodes

A document is a tree of scalars, lists and maps. `Node.ofTokens?` puts tokens together; `Node.read?` reads the one
document of a text. An alias is the node that its anchor named last; inside that node itself it is `Node.loop`.
-/

namespace Registrar.Yaml

/-- A part of a document. -/
inductive Node where
  | scalar (text : String) (style : Style) (tag : Option String)
  | list (items : List Node)
  | map (entries : List (Node × Node))
  /-- An alias inside the node that it names. -/
  | loop
  deriving Inhabited

namespace Node

/-- What stands where nothing is written. -/
def empty : Node := scalar "" .plain none

/-- The node of an anchor or a tag that nothing follows. -/
def emptyWith (tag : Option String) : Node := scalar "" .plain tag

/-- What has been named so far, latest first. -/
abbrev Anchors := List (String × Node)

/-- What handles stand for in tags. -/
abbrev Handles := List (String × String)

/-- The handles that need no directive. -/
def standardHandles : Handles := [("!", "!"), ("!!", "tag:yaml.org,2002:")]

/-- The anchor and the tag in front of a node, each at most once. -/
structure Properties where
  anchor : Option String := none
  tag : Option (String × String) := none

/-- Takes the anchor and the tag off the tokens. -/
def properties : List Token → Properties × List Token
  | .anchor a :: .tag h s :: rest => ({ anchor := a, tag := (h, s) }, rest)
  | .tag h s :: .anchor a :: rest => ({ anchor := a, tag := (h, s) }, rest)
  | .anchor a :: rest => ({ anchor := a }, rest)
  | .tag h s :: rest => ({ tag := (h, s) }, rest)
  | rest => ({}, rest)

/-- The full text of a tag; its handle must stand for something. -/
def resolveTag? (handles : Handles) : Option (String × String) → Option (Option String)
  | none => some none
  | some ("", suffix) => some (some suffix)
  | some (handle, suffix) => (handles.lookup handle).map fun lead => some (lead ++ suffix)

/-- Where a node may stand. -/
inductive Place where
  /-- Inside brackets and braces. -/
  | flow
  /-- In a block. -/
  | block
  /-- After a key or a colon, where items of a list need no further indentation. -/
  | entry
  deriving DecidableEq

/-- Whether nothing is written before the next token. -/
def isAbsent (ends : List Token) : List Token → Bool
  | t :: _ => ends.contains t
  | [] => false

/-- A node with the names that it gives, and the tokens behind it. -/
abbrev Result (α : Type) := Option (α × Anchors × List Token)

mutual

/-- A node. -/
def node (handles : Handles) (place : Place) : Nat → Anchors → List Token → Result Node
  | 0, _, _ => none
  | _ + 1, names, .alias name :: rest => (names.lookup name).map fun n => (n, names, rest)
  | fuel + 1, names, tokens =>
    let (props, rest) := properties tokens
    match resolveTag? handles props.tag with
    | none => none
    | some tag =>
      let inside := match props.anchor with
        | some a => (a, loop) :: names
        | none => names
      match content handles place tag fuel inside rest with
      | none => none
      | some (some n, names, rest) => some (n, (props.anchor.map fun a => (a, n)).toList ++ names, rest)
      | some (none, names, rest) =>
        if props.anchor.isSome || tag.isSome then
          let n := emptyWith tag
          some (n, (props.anchor.map fun a => (a, n)).toList ++ names, rest)
        else none

/-- What follows the properties of a node, if anything does. -/
def content (handles : Handles) (place : Place) (tag : Option String) :
    Nat → Anchors → List Token → Result (Option Node)
  | 0, _, _ => none
  | fuel + 1, names, tokens =>
    let whole (r : Result Node) : Result (Option Node) := r.map fun (n, names, rest) => (some n, names, rest)
    match tokens with
    | .scalar text style :: rest => some (some (scalar text style tag), names, rest)
    | .openList :: rest => whole (flowList handles fuel true [] names rest)
    | .openMap :: rest => whole (flowMap handles fuel true [] names rest)
    | .item :: _ =>
      if place = .entry then whole (blockList handles fuel true [] names tokens) else some (none, names, tokens)
    | .blockList :: rest =>
      if place = .flow then some (none, names, tokens) else whole (blockList handles fuel false [] names rest)
    | .blockMap :: rest =>
      if place = .flow then some (none, names, tokens) else whole (blockMap handles fuel [] names rest)
    | _ => some (none, names, tokens)

/-- The items of a list in a block; without further indentation it ends where no dash follows. -/
def blockList (handles : Handles) : Nat → Bool → List Node → Anchors → List Token → Result Node
  | 0, _, _, _, _ => none
  | fuel + 1, bare, rev, names, tokens =>
    match tokens with
    | .item :: rest =>
      if isAbsent (if bare then [.item, .key, .colon, .blockEnd] else [.item, .blockEnd]) rest then
        blockList handles fuel bare (empty :: rev) names rest
      else match node handles .block fuel names rest with
        | none => none
        | some (n, names, rest) => blockList handles fuel bare (n :: rev) names rest
    | .blockEnd :: rest => some (list rev.reverse, names, if bare then tokens else rest)
    | _ => if bare then some (list rev.reverse, names, tokens) else none

/-- The value of an entry in a block. -/
def blockValue (handles : Handles) : Nat → Anchors → List Token → Result Node
  | 0, _, _ => none
  | fuel + 1, names, tokens =>
    match tokens with
    | .colon :: rest =>
      if isAbsent [.key, .colon, .blockEnd] rest then some (empty, names, rest) else node handles .entry fuel names rest
    | _ => some (empty, names, tokens)

/-- The entries of a map in a block. -/
def blockMap (handles : Handles) : Nat → List (Node × Node) → Anchors → List Token → Result Node
  | 0, _, _, _ => none
  | fuel + 1, rev, names, tokens =>
    match tokens with
    | .key :: rest =>
      let k := if isAbsent [.key, .colon, .blockEnd] rest then some (empty, names, rest)
        else node handles .entry fuel names rest
      match k with
      | none => none
      | some (k, names, rest) =>
        match blockValue handles fuel names rest with
        | none => none
        | some (v, names, rest) => blockMap handles fuel ((k, v) :: rev) names rest
    | .blockEnd :: rest => some (map rev.reverse, names, rest)
    | _ => none

/-- The value of an entry inside brackets or braces, which `close` closes. -/
def flowValue (handles : Handles) (close : Token) : Nat → Anchors → List Token → Result Node
  | 0, _, _ => none
  | fuel + 1, names, tokens =>
    match tokens with
    | .colon :: rest =>
      if isAbsent [.comma, close] rest then some (empty, names, rest) else node handles .flow fuel names rest
    | _ => some (empty, names, tokens)

/-- One entry as an item between brackets; its key must be written. -/
def flowPair (handles : Handles) : Nat → Anchors → List Token → Result Node
  | 0, _, _ => none
  | fuel + 1, names, tokens =>
    match node handles .flow fuel names tokens with
    | none => none
    | some (k, names, rest) =>
      (flowValue handles .closeList fuel names rest).map fun (v, names, rest) => (map [(k, v)], names, rest)

/-- The items between brackets. -/
def flowList (handles : Handles) : Nat → Bool → List Node → Anchors → List Token → Result Node
  | 0, _, _, _, _ => none
  | fuel + 1, first, rev, names, tokens =>
    let tokens? := match tokens with
      | .closeList :: _ => some tokens
      | .comma :: rest => if first then some tokens else some rest
      | _ => if first then some tokens else none
    match tokens? with
    | none => none
    | some (.closeList :: rest) => some (list rev.reverse, names, rest)
    | some (.key :: rest) =>
      match flowPair handles fuel names rest with
      | none => none
      | some (n, names, rest) => flowList handles fuel false (n :: rev) names rest
    | some tokens =>
      match node handles .flow fuel names tokens with
      | none => none
      | some (n, names, rest) => flowList handles fuel false (n :: rev) names rest

/-- The entries between braces. -/
def flowMap (handles : Handles) : Nat → Bool → List (Node × Node) → Anchors → List Token → Result Node
  | 0, _, _, _, _ => none
  | fuel + 1, first, rev, names, tokens =>
    let tokens? := match tokens with
      | .closeMap :: _ => some tokens
      | .comma :: rest => if first then some tokens else some rest
      | _ => if first then some tokens else none
    match tokens? with
    | none => none
    | some (.closeMap :: rest) => some (map rev.reverse, names, rest)
    | some (.key :: rest) =>
      let k := if isAbsent [.colon, .comma, .closeMap] rest then some (empty, names, rest)
        else node handles .flow fuel names rest
      match k with
      | none => none
      | some (k, names, rest) =>
        match flowValue handles .closeMap fuel names rest with
        | none => none
        | some (v, names, rest) => flowMap handles fuel false ((k, v) :: rev) names rest
    | some tokens =>
      match node handles .flow fuel names tokens with
      | none => none
      | some (k, names, rest) => flowMap handles fuel false ((k, empty) :: rev) names rest

end

/-! ## Documents -/

/-- Reads the directives in front of a document. -/
def directives? (version : Bool) (handles : Handles) : List Token → Option (Handles × List Token)
  | .version major minor :: rest =>
    if version || major ≠ 1 || (minor ≠ 1 && minor ≠ 2) then none else directives? true handles rest
  | .tagRule handle lead :: rest =>
    if (handles.lookup handle).isSome then none else directives? version ((handle, lead) :: handles) rest
  | rest => some (handles, rest)

/-- A node and the tokens behind it. -/
def root? (handles : Handles) (tokens : List Token) : Option (Node × List Token) :=
  (node handles .block (4 * tokens.length + 8) [] tokens).map fun (n, _, rest) => (n, rest)

/-- The node behind the start of a document, where nothing need be written. -/
def started? (handles : Handles) (tokens : List Token) : Option (Node × List Token) :=
  match tokens with
  | [] | .documentStart :: _ | .documentEnd :: _ | .version _ _ :: _ | .tagRule _ _ :: _ => some (empty, tokens)
  | _ => root? handles tokens

/-- The first document, and the tokens behind it. Directives need a mark of its start. -/
def first? (tokens : List Token) : Option (Node × List Token) :=
  match directives? false [] tokens with
  | some (handles, .documentStart :: rest) => started? (handles ++ standardHandles) rest
  | some (_, []) => if tokens.isEmpty then some (empty, []) else none
  | some (_, rest) => if tokens.length = rest.length then root? standardHandles rest else none
  | none => none

/-- The only document; no tokens are an empty one. -/
def ofTokens? (tokens : List Token) : Option Node :=
  match first? tokens with
  | some (n, rest) => if rest.all (· = .documentEnd) then some n else none
  | none => none

/-- Reads the one document of a text. -/
def read? (text : String) : Option Node := do ofTokens? (← tokens? text)

end Node

end Registrar.Yaml
