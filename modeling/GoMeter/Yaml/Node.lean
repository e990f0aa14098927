import GoMeter.Yaml.Layout
import GoMeter.Yaml.Tag

/-!
# Documents of a YAML text

A document is one node: a scalar, a list of nodes, or a mapping from nodes to nodes. An anchor gives a
node a name, and an alias stands for the node with that name.

* `Node`: the nodes.
* `Node.ofTokens`: the node of a text with one document; an empty text has none.
-/

namespace GoMeter.Yaml

/-- A node of a document. -/
inductive Node where
  | scalar (tag : Tag) (text : List Char)
  | list (tag : Tag) (items : List Node)
  | map (tag : Tag) (entries : List (Node × Node))
  deriving Repr

namespace Node

/-- The tag of a node. -/
def tag : Node → Tag
  | .scalar t _ => t
  | .list t _ => t
  | .map t _ => t

/-- The node where nothing is written. -/
def empty : Node := .scalar .null []

end Node

/-- The tokens that remain, the nodes with names, and the handles of tags. -/
structure Feed where
  tokens : List Token
  anchors : List (String × Node)
  handles : List (String × String)

namespace Feed

/-- The next token. -/
def next (f : Feed) : Token := f.tokens.headD .streamEnd

/-- Without the next token. -/
def drop (f : Feed) : Feed := { f with tokens := f.tokens.tail }

/-- Without the next token, which has to be a given one. -/
def expect (f : Feed) (t : Token) : Except Fault Feed :=
  if f.next = t then .ok f.drop else .error .malformed

/-- Whether the next token is one of some tokens. -/
def atOneOf (f : Feed) (ts : List Token) : Bool := ts.contains f.next

end Feed

/-- What may stand before a node. -/
structure Properties where
  anchor : Option String
  tag : Option String

/-- The name of a tag whose handle is written out. -/
def tagName (f : Feed) (handle : Option String) (rest : String) : Except Fault String :=
  match handle with
  | none => .ok rest
  | some h =>
    match f.handles.lookup h with
    | some target => .ok (target ++ rest)
    | none => .error .malformed

/-- An anchor and a tag, in either order. -/
def properties (f : Feed) : Except Fault (Properties × Feed) :=
  match f.next with
  | .anchor a =>
    match f.drop.next with
    | .tag h r => do pure (⟨some a, some (← tagName f h r)⟩, f.drop.drop)
    | _ => .ok (⟨some a, none⟩, f.drop)
  | .tag h r => do
    let name ← tagName f h r
    match f.drop.next with
    | .anchor a => pure (⟨some a, some name⟩, f.drop.drop)
    | _ => pure (⟨none, some name⟩, f.drop)
  | _ => .ok (⟨none, none⟩, f)

namespace Properties

/-- Whether nothing stands before a node. -/
def isNone (p : Properties) : Bool := p.anchor.isNone && p.tag.isNone

/-- The tag of a node, given the one that follows from its form. -/
def tagOr (p : Properties) (natural : Tag) : Tag :=
  match p.tag with
  | none | some "!" => natural
  | some uri => .ofUri uri

/-- The tag of a scalar. -/
def scalarTag (p : Properties) (text : List Char) (isPlain : Bool) : Tag :=
  match p.tag with
  | none => if isPlain then .ofPlain text else .text
  | some "!" => .ofPlain text
  | some uri => .ofUri uri

/-- Gives a node its name; a name can be given once. -/
def name (p : Properties) (node : Node) (f : Feed) : Except Fault (Node × Feed) :=
  match p.anchor with
  | none => .ok (node, f)
  | some a =>
    if (f.anchors.lookup a).isSome then .error .malformed
    else .ok (node, { f with anchors := (a, node) :: f.anchors })

end Properties

mutual

/-- A node. `inBlock` says whether indented blocks may stand here, and `bareItems` whether items may
stand here without an indentation of their own. -/
def node : Nat → Bool → Bool → Feed → Except Fault (Node × Feed)
  | 0, _, _, _ => .error .malformed
  | fuel + 1, inBlock, bareItems, f =>
    match f.next with
    | .alias a =>
      match f.anchors.lookup a with
      | some n => .ok (n, f.drop)
      | none => .error .malformed
    | _ => do
      let (p, f) ← properties f
      match f.next with
      | .scalar text isPlain => p.name (.scalar (p.scalarTag text isPlain) text) f.drop
      | .openList =>
        let (items, f) ← flowItems fuel true f.drop
        p.name (.list (p.tagOr .list) items) f
      | .openMap =>
        let (entries, f) ← flowEntries fuel true f.drop
        p.name (.map (p.tagOr .map) entries) f
      | t =>
        if t = .entry && bareItems then
          let (items, f) ← bareItemsFrom fuel f
          p.name (.list (p.tagOr .list) items) f
        else if t = .sequenceStart && inBlock then
          let (items, f) ← blockItems fuel f.drop
          p.name (.list (p.tagOr .list) items) f
        else if t = .mappingStart && inBlock then
          let (entries, f) ← blockEntries fuel f.drop
          p.name (.map (p.tagOr .map) entries) f
        else if p.isNone then throw .malformed
        else p.name (.scalar (p.scalarTag [] true) []) f

/-- A node, or nothing if one of some tokens comes next. -/
def nodeUnless : Nat → List Token → Bool → Bool → Feed → Except Fault (Node × Feed)
  | 0, _, _, _, _ => .error .malformed
  | fuel + 1, stops, inBlock, bareItems, f =>
    if f.atOneOf stops then .ok (.empty, f) else node fuel inBlock bareItems f

/-- The items of an indented list, up to its end. -/
def blockItems : Nat → Feed → Except Fault (List Node × Feed)
  | 0, _ => .error .malformed
  | fuel + 1, f =>
    if f.next = .entry then do
      let (item, f) ← nodeUnless fuel [.entry, .blockEnd] true false f.drop
      let (items, f) ← blockItems fuel f
      pure (item :: items, f)
    else do pure ([], ← f.expect .blockEnd)

/-- The items of a list that has the column of the key before it. -/
def bareItemsFrom : Nat → Feed → Except Fault (List Node × Feed)
  | 0, _ => .error .malformed
  | fuel + 1, f =>
    if f.next = .entry then do
      let (item, f) ← nodeUnless fuel [.entry, .key, .value, .blockEnd] true false f.drop
      let (items, f) ← bareItemsFrom fuel f
      pure (item :: items, f)
    else .ok ([], f)

/-- The entries of an indented mapping, up to its end. -/
def blockEntries : Nat → Feed → Except Fault (List (Node × Node) × Feed)
  | 0, _ => .error .malformed
  | fuel + 1, f =>
    if f.next = .key then do
      let (k, f) ← nodeUnless fuel [.key, .value, .blockEnd] true true f.drop
      let (v, f) ←
        if f.next = .value then nodeUnless fuel [.key, .value, .blockEnd] true true f.drop
        else pure (.empty, f)
      let (entries, f) ← blockEntries fuel f
      pure ((k, v) :: entries, f)
    else do pure ([], ← f.expect .blockEnd)

/-- The items between brackets; a pair among them is a mapping with one entry. -/
def flowItems : Nat → Bool → Feed → Except Fault (List Node × Feed)
  | 0, _, _ => .error .malformed
  | fuel + 1, isFirst, f =>
    if f.next = .closeList then .ok ([], f.drop)
    else do
      let f ← if isFirst then pure f else f.expect .comma
      if f.next = .key then
        let (k, f) ← nodeUnless fuel [.value, .comma, .closeList] false false f.drop
        let (v, f) ←
          if f.next = .value then nodeUnless fuel [.comma, .closeList] false false f.drop
          else pure (.empty, f)
        let (items, f) ← flowItems fuel false f
        pure (.map .map [(k, v)] :: items, f)
      else if f.next = .closeList then pure ([], f.drop)
      else
        let (item, f) ← node fuel false false f
        let (items, f) ← flowItems fuel false f
        pure (item :: items, f)

/-- The entries between braces; a node alone is a key. -/
def flowEntries : Nat → Bool → Feed → Except Fault (List (Node × Node) × Feed)
  | 0, _, _ => .error .malformed
  | fuel + 1, isFirst, f =>
    if f.next = .closeMap then .ok ([], f.drop)
    else do
      let f ← if isFirst then pure f else f.expect .comma
      if f.next = .key then
        let (k, f) ← nodeUnless fuel [.value, .comma, .closeMap] false false f.drop
        let (v, f) ←
          if f.next = .value then nodeUnless fuel [.comma, .closeMap] false false f.drop
          else pure (.empty, f)
        let (entries, f) ← flowEntries fuel false f
        pure ((k, v) :: entries, f)
      else if f.next = .closeMap then pure ([], f.drop)
      else
        let (k, f) ← node fuel false false f
        let (entries, f) ← flowEntries fuel false f
        pure ((k, .empty) :: entries, f)

end

/-! ## Documents -/

/-- The handles that need no directive. -/
def defaultHandles : List (String × String) := [("!", "!"), ("!!", tagBase)]

/-- Reads directives: one version at most, which has to be of the first kind, and each handle once. -/
def directives (versioned : Bool) (handles : List (String × String)) :
    List Token → Except Fault (List (String × String) × List Token)
  | .version major :: rest =>
    if versioned || major != 1 then .error .malformed else directives true handles rest
  | .handle name target :: rest =>
    if (handles.lookup name).isSome then .error .malformed
    else directives versioned (handles ++ [(name, target)]) rest
  | .reserved :: rest => directives versioned handles rest
  | rest => .ok (handles, rest)

/-- Whether a token is a directive. -/
def Token.isDirective : Token → Bool
  | .version _ | .handle _ _ | .reserved => true
  | _ => false

/-- The node of a document that starts with directives and a separator. -/
def markedDocument (tokens : List Token) : Except Fault (Node × Feed) := do
  let (handles, rest) ← directives false [] tokens
  let f : Feed := ⟨rest, [], handles ++ defaultHandles⟩
  let f ← f.expect .documentStart
  if f.next.isDirective || f.atOneOf [.documentStart, .documentEnd, .streamEnd] then pure (.empty, f)
  else node (4 * tokens.length + 4) true false f

/-- The node of the first document. -/
def firstDocument (tokens : List Token) : Except Fault (Node × Feed) :=
  let f : Feed := ⟨tokens, [], defaultHandles⟩
  if f.next.isDirective || f.next = .documentStart then markedDocument tokens
  else node (4 * tokens.length + 4) true false f

/-- The node of a text with one document; an empty text has none. -/
def Node.ofTokens (tokens : List Token) : Except Fault (Option Node) :=
  if tokens.head? = some .streamEnd then .ok none
  else do
    let (n, f) ← firstDocument tokens
    match f.tokens.dropWhile (· = .documentEnd) with
    | [.streamEnd] => pure (some n)
    | _ => throw .malformed

end GoMeter.Yaml
