import GoMeter.Go.Token
import GoMeter.Syntax.Node

/-!
# Reading a token list

A parser moves a cursor over the tokens and gives a result, or stops at an offset. Every repetition
is bounded by the number of tokens that are left, and every recursion between the rules of the
grammar goes through one function that is handed to them.

* `Parser`: the type of parsers, with `peek`, `advance`, `expect`, `accept`, `attempt`.
* `Parser.repeating`, `Parser.commaList`, `Parser.lineList`: repetition.
* `Rule`: the rules that call each other.
* `Parser.node`, `leaf`, `mark`: the nodes of the tree.
-/

namespace GoMeter

/-- The node in the role `f`. -/
def Node.filling (n : Node) (f : Field) : Node :=
  .mk { n.label with field := some f } n.children

/-- The node without a role. -/
def Node.bare (n : Node) : Node := .mk { n.label with field := none } n.children

/-- The node with another kind. -/
def Node.withKind (n : Node) (k : Kind) : Node := .mk { n.label with kind := k } n.children

namespace Go

/-- Where a parser stands. -/
structure Cursor where
  /-- The tokens that are left. -/
  rest : List Token
  /-- How many they are. -/
  left : Nat
  /-- Where the last token that was taken ends. -/
  last : Nat

/-- A parser gives a result or the offset at which it stopped. -/
abbrev Parser := StateT Cursor (Except Nat)

/-- The rules that call each other. `header` says that the rule stands in the header of a statement
with a block, where a brace after a type name opens that block. -/
inductive Rule where
  /-- A type. -/
  | type
  /-- An expression whose binary operators bind at least as strongly as `level`. -/
  | expression (header : Bool) (level : Nat)
  /-- An operand with its prefixes and what follows it directly. -/
  | unary (header : Bool)
  /-- A parenthesised list of parameters. -/
  | parameters
  /-- A braced list of elements. -/
  | literalValue
  /-- A braced list of statements. -/
  | block
  /-- A statement. -/
  | statement

/-- A choice of parsers, one for each rule. -/
abbrev Rules := Rule → Parser Node

/-- Opening brace. -/
def openBrace : String := "\x7b"

/-- Closing brace. -/
def closeBrace : String := "\x7d"

namespace Parser

/-- The token after `n` others. -/
def peekAt (n : Nat) : Parser Token := do
  let c ← get
  pure ((c.rest[n]?).getD ⟨.endOfFile, c.last, c.last, true⟩)

/-- The next token. -/
def peek : Parser Token := peekAt 0

/-- Stops at the next token. -/
def fail {α : Type} : Parser α := do
  throw (← peek).start

/-- Takes the next token. -/
def advance : Parser Token := do
  let t ← peek
  modify fun c => ⟨c.rest.drop 1, c.left - 1, t.stop⟩
  pure t

/-- Whether the token after `n` others is the symbol `s`. -/
def seesAt (n : Nat) (s : String) : Parser Bool := do
  pure ((← peekAt n).shape == .symbol s)

/-- Whether the next token is the symbol `s`. -/
def sees (s : String) : Parser Bool := seesAt 0 s

/-- Whether the next token is one of some symbols. -/
def seesAny (ss : List String) : Parser Bool := do
  match (← peek).shape with
  | .symbol s => pure (ss.contains s)
  | _ => pure false

/-- Takes the symbol `s`. -/
def expect (s : String) : Parser Token := do
  if ← sees s then advance else fail

/-- Takes the symbol `s` if it is next. -/
def accept (s : String) : Parser Bool := do
  if ← sees s then
    let _ ← advance
    pure true
  else pure false

/-- Whether a token is a name. -/
def isName (t : Token) : Bool :=
  match t.shape with
  | .name _ => true
  | _ => false

/-- Whether the token after `n` others is a name. -/
def seesNameAt (n : Nat) : Parser Bool := do
  pure (isName (← peekAt n))

/-- Whether the next token is a name. -/
def seesName : Parser Bool := seesNameAt 0

/-- Takes a name. -/
def name : Parser Token := do
  if ← seesName then advance else fail

/-- Whether a token is a semicolon, written or implied. -/
def isSemicolon (t : Token) : Bool :=
  match t.shape with
  | .semicolon _ => true
  | _ => false

/-- Whether the next token is a semicolon. -/
def seesSemicolon : Parser Bool := do
  pure (isSemicolon (← peek))

/-- Takes a semicolon if it is next. -/
def acceptSemicolon : Parser Bool := do
  if ← seesSemicolon then
    let _ ← advance
    pure true
  else pure false

/-- Whether the next token is a string literal. -/
def seesString : Parser Bool := do
  let t ← peek
  pure (t.shape == .string || t.shape == .rawString)

/-- The first parser, or the second from the same place if the first stops. -/
def attempt {α : Type} (p q : Parser α) : Parser α := fun c =>
  match p.run c with
  | .ok r => .ok r
  | .error _ => q.run c

/-- Repeats a step at most so many times, as long as it asks for more. -/
def repeatFrom {α : Type} (step : α → Parser (α × Bool)) : Nat → α → Parser α
  | 0, _ => fail
  | n + 1, a => do
    let (b, more) ← step a
    if more then repeatFrom step n b else pure b

/-- Repeats a step that takes a token each time, as long as it asks for more. -/
def repeating {α : Type} (step : α → Parser (α × Bool)) (a : α) : Parser α := do
  repeatFrom step ((← get).left + 1) a

/-- Items up to the symbol `close`, which is not taken, with commas between them and possibly after
the last. -/
def commaList {α : Type} (close : String) (item : Parser α) : Parser (List α) := do
  let items ← repeating
    (fun done => do
      if ← sees close then pure (done, false)
      else
        let a ← item
        pure (a :: done, ← accept ","))
    []
  pure items.reverse

/-- One item or more, with the symbol `separator` between them. -/
def sepList {α : Type} (separator : String) (item : Parser α) : Parser (List α) := do
  let items ← repeating
    (fun done => do
      let a ← item
      pure (a :: done, ← accept separator))
    []
  pure items.reverse

/-- Items up to the symbol `close`, which is not taken, with a semicolon between any two of them. -/
def lineList {α : Type} (close : String) (item : Parser α) : Parser (List α) := do
  let items ← repeating
    (fun done => do
      if ← sees close then pure (done, false)
      else
        let a ← item
        pure (a :: done, ← acceptSemicolon))
    []
  pure items.reverse

/-- A node from `start` to the last token that was taken. -/
def node (kind : Kind) (start : Nat) (children : List Node) : Parser Node := do
  pure (.mk ⟨kind, start, (← get).last, true, none, false⟩ children)

end Parser

/-- A node of one token. -/
def leaf (kind : Kind) (t : Token) : Node := .mk ⟨kind, t.start, t.stop, true, none, false⟩ []

/-- A token that the grammar does not name. -/
def mark (kind : Kind) (t : Token) : Node := .mk ⟨kind, t.start, t.stop, false, none, false⟩ []

/-- A node around others, from the start of `first` to the end of `final`. -/
def wrap (kind : Kind) (first final : Node) (children : List Node) : Node :=
  .mk ⟨kind, first.start, final.stop, true, none, false⟩ children

end Go

end GoMeter
