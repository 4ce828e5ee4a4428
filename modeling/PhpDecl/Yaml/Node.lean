import PhpDecl.Yaml.Token

/-!
# YAML nodes

The tokens of the first document of a text make a tree of nodes. A node may carry a tag, and an
anchor under which later aliases mention it again.

* `Node`, `Node.empty`, `Node.sameKey`: nodes, what stands where nothing is written, and equality
  of keys;
* `Parser`, `peek`, `next`: reading from a list of tokens;
* `Properties`, `properties`: the anchor and the tag in front of a node;
* `openAnchor`, `closeAnchor`, `aliasOf`: anchors and what they stand for;
* `node`, with one function for each kind of collection: the node at the start of the tokens;
* `Node.ofScan?`: the node of the first document.

Loops take a bound on the number of steps, which the number of tokens always meets.
-/

namespace PhpDecl.Yaml

/-- A node. Its tag is in short form, and empty where none is written. -/
inductive Node where
  | scalar (tag : String) (plain : Bool) (text : String)
  | sequence (tag : String) (items : List Node)
  | mapping (tag : String) (pairs : List (Node × Node))
  /-- Another mention of a node with an anchor; there is no such node if the alias stands inside
  it. -/
  | alias (name : String) (target : Option Node)
  deriving Inhabited

namespace Node

/-- What stands where nothing is written. -/
def empty : Node := .scalar "" true ""

/-- Two keys count as the same: scalars of one text, aliases of one name, and any two
collections of one kind. -/
def sameKey : Node → Node → Bool
  | .scalar _ _ s, .scalar _ _ t => s = t
  | .sequence .., .sequence .. => true
  | .mapping .., .mapping .. => true
  | .alias a _, .alias b _ => a = b
  | _, _ => false

end Node

/-! ## Tags -/

/-- What the tags of the common types start with. -/
def commonTag : String := "tag:yaml.org,2002:"

/-- A tag in short form. The tag that stands for no tag is empty. -/
def shortTag (tag : String) : String :=
  if tag = "!" then ""
  else if tag.startsWith commonTag then "!!" ++ String.ofList (tag.toList.drop commonTag.length)
  else tag

/-- The handles that are known without a directive, and what they stand for. -/
def commonHandles : List (String × String) := [("!", "!"), ("!!", commonTag)]

/-- The token is a directive. -/
def Token.isDirective : Token → Bool
  | .versionDirective .. | .tagDirective .. => true
  | _ => false

/-- The handle that a directive declares. -/
def Token.handle? : Token → Option (String × String)
  | .tagDirective handle start => some (handle, start)
  | _ => none

/-- At most one directive gives a version, and that is the one known. -/
def versionOk (directives : List Token) : Bool :=
  let versions := directives.filter fun t => t.handle?.isNone
  versions = [] || versions = [.versionDirective 1 1]

/-- The handles that directives declare, none of them twice. -/
def handlesOf? (directives : List Token) : Option (List (String × String)) :=
  let declared := directives.filterMap Token.handle?
  if versionOk directives && decide (declared.map (·.1)).Nodup then some (declared ++ commonHandles)
  else none

/-! ## Reading from tokens -/

/-- The tokens to be read, the handles of tags, and the anchors so far, the last one first. An
anchor has no node as long as its node is being read. -/
structure Parsing where
  tokens : List Token
  handles : List (String × String) := commonHandles
  anchors : List (String × Option Node) := []

/-- Reading from tokens. -/
abbrev Parser := StateT Parsing Option

/-- The next token. -/
def peek : Parser Token := do
  match (← get).tokens with
  | t :: _ => return t
  | [] => failure

/-- Go on behind the next token. -/
def next : Parser Unit := modify fun s => { s with tokens := s.tokens.tail }

/-! ## Properties of nodes -/

/-- The anchor and the tag in front of a node. -/
structure Properties where
  anchor : Option String := none
  tag : Option String := none

/-- The tag of a node, in short form. -/
def Properties.shortTag (p : Properties) : String := (p.tag.map Yaml.shortTag).getD ""

/-- The tag with a handle and a suffix. -/
def resolveTag (handle suffix : String) : Parser String := do
  if handle = "" then return suffix
  match (← get).handles.lookup handle with
  | some start => return start ++ suffix
  | none => failure

/-- The anchor and the tag of the next node, in either order. -/
def properties : Parser Properties := do
  match ← peek with
  | .anchor a =>
    next
    match ← peek with
    | .tag handle suffix =>
      next
      return { anchor := a, tag := ← resolveTag handle suffix }
    | _ => return { anchor := a }
  | .tag handle suffix =>
    next
    let tag ← resolveTag handle suffix
    match ← peek with
    | .anchor a =>
      next
      return { anchor := a, tag }
    | _ => return { tag }
  | _ => return {}

/-! ## Anchors -/

/-- The node of an anchor starts. -/
def openAnchor : Option String → Parser Unit
  | some a => modify fun s => { s with anchors := (a, none) :: s.anchors }
  | none => return

/-- The node of an anchor ends. An anchor of that name inside the node stays in force. -/
def closeAnchor (anchor : Option String) (n : Node) : Parser Unit :=
  match anchor with
  | some a => modify fun s =>
    if (s.anchors.lookup a).join.isSome then s else { s with anchors := (a, some n) :: s.anchors }
  | none => return

/-- A node whose properties were read before. -/
def withProperties (p : Properties) (body : Parser Node) : Parser Node := do
  openAnchor p.anchor
  let n ← body
  closeAnchor p.anchor n
  return n

/-- The alias with a name. -/
def aliasOf (name : String) : Parser Node := do
  match (← get).anchors.lookup name with
  | some target => return .alias name target
  | none => failure

/-- Nothing is written behind properties. Without properties something has to be there. -/
def emptyWith (p : Properties) : Parser Node :=
  if p.anchor.isSome || p.tag.isSome then withProperties p (return .scalar p.shortTag true "")
  else failure

/-! ## Nodes -/

mutual

/-- The next node. Collections by indentation are allowed in a block, and a sequence that is not
indented as the value of a mapping. -/
def node (block unindented : Bool) : Nat → Parser Node
  | 0 => failure
  | steps + 1 => do
    match ← peek with
    | .alias name =>
      next
      aliasOf name
    | _ =>
      let p ← properties
      let sequence (items : Parser (List Node)) : Parser Node :=
        withProperties p do return .sequence p.shortTag (← items)
      let mapping (pairs : Parser (List (Node × Node))) : Parser Node :=
        withProperties p do return .mapping p.shortTag (← pairs)
      match ← peek with
      | .scalar plain text =>
        next
        withProperties p (return .scalar p.shortTag plain text)
      | .flowSequenceStart =>
        next
        sequence (flowItems true steps)
      | .flowMappingStart =>
        next
        mapping (flowPairs true steps)
      | .blockEntry => if unindented then sequence (unindentedItems steps) else emptyWith p
      | .blockSequenceStart =>
        if block then
          next
          sequence (blockItems steps)
        else emptyWith p
      | .blockMappingStart =>
        if block then
          next
          mapping (blockPairs steps)
        else emptyWith p
      | _ => emptyWith p

/-- The entries of a block sequence, and its end. -/
def blockItems : Nat → Parser (List Node)
  | 0 => failure
  | steps + 1 => do
    match ← peek with
    | .blockEntry =>
      next
      let item ←
        match ← peek with
        | .blockEntry | .blockEnd => pure .empty
        | _ => node true false steps
      return item :: (← blockItems steps)
    | .blockEnd =>
      next
      return []
    | _ => failure

/-- The entries of a sequence that is not indented. -/
def unindentedItems : Nat → Parser (List Node)
  | 0 => failure
  | steps + 1 => do
    match ← peek with
    | .blockEntry =>
      next
      let item ←
        match ← peek with
        | .blockEntry | .key | .value | .blockEnd => pure .empty
        | _ => node true false steps
      return item :: (← unindentedItems steps)
    | _ => return []

/-- The pairs of a block mapping, and its end. -/
def blockPairs : Nat → Parser (List (Node × Node))
  | 0 => failure
  | steps + 1 => do
    match ← peek with
    | .key =>
      next
      let k ← blockPart steps
      let v ←
        match ← peek with
        | .value =>
          next
          blockPart steps
        | _ => pure .empty
      return (k, v) :: (← blockPairs steps)
    | .blockEnd =>
      next
      return []
    | _ => failure

/-- A key or a value of a block mapping, behind its mark. -/
def blockPart : Nat → Parser Node
  | 0 => failure
  | steps + 1 => do
    match ← peek with
    | .key | .value | .blockEnd => return .empty
    | _ => node true true steps

/-- The items of a sequence in brackets, and its end. -/
def flowItems (first : Bool) : Nat → Parser (List Node)
  | 0 => failure
  | steps + 1 => do
    if !first && (← peek) = .flowEntry then
      next
      flowItemsAt steps
    else if first || (← peek) = .flowSequenceEnd then
      flowItemsAt steps
    else failure

/-- The items of a sequence in brackets, at the start of one, and its end. -/
def flowItemsAt : Nat → Parser (List Node)
  | 0 => failure
  | steps + 1 => do
    match ← peek with
    | .flowSequenceEnd =>
      next
      return []
    | .key =>
      next
      let pair ← flowPair steps
      return .mapping "" [pair] :: (← flowItems false steps)
    | _ =>
      let item ← node false false steps
      return item :: (← flowItems false steps)

/-- A pair by itself in a sequence in brackets, behind the mark of its key. Where the key is
missing, the token that shows it is passed over. -/
def flowPair : Nat → Parser (Node × Node)
  | 0 => failure
  | steps + 1 => do
    let k ←
      match ← peek with
      | .value | .flowEntry | .flowSequenceEnd =>
        next
        pure .empty
      | _ => node false false steps
    let v ←
      match ← peek with
      | .value =>
        next
        match ← peek with
        | .flowEntry | .flowSequenceEnd => pure .empty
        | _ => node false false steps
      | _ => pure .empty
    return (k, v)

/-- The pairs of a mapping in brackets, and its end. -/
def flowPairs (first : Bool) : Nat → Parser (List (Node × Node))
  | 0 => failure
  | steps + 1 => do
    if !first && (← peek) = .flowEntry then
      next
      flowPairsAt steps
    else if first || (← peek) = .flowMappingEnd then
      flowPairsAt steps
    else failure

/-- The pairs of a mapping in brackets, at the start of one, and its end. -/
def flowPairsAt : Nat → Parser (List (Node × Node))
  | 0 => failure
  | steps + 1 => do
    match ← peek with
    | .flowMappingEnd =>
      next
      return []
    | .key =>
      next
      let k ←
        match ← peek with
        | .value | .flowEntry | .flowMappingEnd => pure .empty
        | _ => node false false steps
      let v ←
        match ← peek with
        | .value =>
          next
          match ← peek with
          | .flowEntry | .flowMappingEnd => pure .empty
          | _ => node false false steps
        | _ => pure .empty
      return (k, v) :: (← flowPairs false steps)
    | _ =>
      let k ← node false false steps
      return (k, .empty) :: (← flowPairs false steps)

end

/-! ## Documents -/

/-- The directives in front of a document, and the mark of its start. -/
def documentHead : Parser Unit := do
  let s ← get
  match handlesOf? (s.tokens.takeWhile Token.isDirective) with
  | some handles => set { s with handles, tokens := s.tokens.dropWhile Token.isDirective }
  | none => failure
  match ← peek with
  | .documentStart => next
  | _ => failure

/-- The node of the first document, up to the token behind it. -/
def documentNode (steps : Nat) : Parser Node := do
  match ← peek with
  | .streamEnd => failure
  | .versionDirective .. | .tagDirective .. | .documentStart =>
    documentHead
    match ← peek with
    | .versionDirective .. | .tagDirective .. | .documentStart | .documentEnd | .streamEnd =>
      return .empty
    | _ => node true false steps
  | _ => node true false steps

/-- The node of the first document of a text. -/
def Node.ofScan? (s : Scan) : Option Node := do
  let tokens := s.usable
  let (n, _) ← (do
    let n ← documentNode (4 * (tokens.length + 1))
    let _ ← peek
    return n : Parser Node).run { tokens }
  return n

end PhpDecl.Yaml
