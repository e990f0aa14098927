import GoMeter.Path
import GoMeter.Pattern.Glob
import GoMeter.Text.Blank

/-!
# Ignore rules

A file of ignore rules has one rule a line. A rule names files and folders by a pattern in which `*` and
`?` do not cross slashes and `**` stands for any folders; a rule with a slash before its end starts at
the root of the tree. A rule for a folder holds for all below it, and a slash at its end restricts a rule
to folders. `!` takes files out again. The last rule that names the path itself decides; where no rule
does, the last that names a folder above it.

* `Ignore.Rule.ofLine`: the rule of a line.
* `Ignore.ignores`: whether rules hold for a path.
-/

namespace GoMeter.Ignore

/-- What stands in a rule for a part of a path. -/
inductive Piece where
  /-- One given character. -/
  | char (c : Char)
  /-- One character other than a slash. -/
  | any
  /-- One character that is, or is not, in one of some ranges. -/
  | oneOf (negated : Bool) (ranges : List (Char × Char))
  /-- Any run of characters other than slashes. -/
  | run
  /-- A run of characters other than slashes that is not empty. -/
  | name
  /-- Nothing, or folders with a slash after them. -/
  | leading
  /-- Nothing, or folders with a slash before them. -/
  | inner
  /-- Any characters, at least one. -/
  | anything
  deriving DecidableEq, Repr

/-- How a rule ends. -/
inductive Ending where
  /-- It names a file, or a folder and all below it. -/
  | here
  /-- It names all below a folder; `byFolder` says whether it is a rule for folders. -/
  | below (byFolder : Bool)
  /-- It names a thing and all below it alike. -/
  | either
  deriving DecidableEq, Repr

/-- A rule. -/
structure Rule where
  negated : Bool
  pieces : List Piece
  ending : Ending
  deriving DecidableEq, Repr

/-- What a line stands for. -/
inductive Line where
  | rule (r : Rule)
  /-- A comment or a blank line. -/
  | nothing
  /-- A rule that names nothing, or ends in a backslash. -/
  | invalid (line : String)
  deriving DecidableEq, Repr

/-! ## Reading -/

/-- The ranges of a class. -/
def ranges : List Char → List (Char × Char)
  | lo :: '-' :: hi :: rest => (lo, hi) :: ranges rest
  | c :: rest => (c, c) :: ranges rest
  | [] => []

/-- The start of a class in which a closing bracket is a member. -/
def classLead : List Char → List Char
  | '!' :: ']' :: _ => ['!', ']']
  | '^' :: ']' :: _ => ['^', ']']
  | '!' :: _ => ['!']
  | '^' :: _ => ['^']
  | ']' :: _ => [']']
  | _ => []

/-- The text of a class and what follows its closing bracket. -/
def splitClass? (cs : List Char) : Option (List Char × List Char) :=
  let lead := classLead cs
  let body := cs.drop lead.length
  match body.dropWhile (· != ']') with
  | [] => none
  | _ :: rest => some (lead ++ body.takeWhile (· != ']'), rest)

/-- What follows a class is shorter than the text. -/
theorem splitClass?_length {cs inner rest : List Char}
    (h : splitClass? cs = some (inner, rest)) : rest.length < cs.length := by
  unfold splitClass? at h
  simp only at h
  split at h
  · simp at h
  · rename_i c r hd
    simp only [Option.some.injEq, Prod.mk.injEq] at h
    have h1 : (c :: r).length ≤ (cs.drop (classLead cs).length).length := by
      rw [← hd]; exact (List.dropWhile_sublist _).length_le
    simp only [List.length_cons, List.length_drop] at h1
    rw [← h.2]
    omega

/-- The class of a text. -/
def classOf : List Char → Piece
  | '!' :: cs => .oneOf true (ranges cs)
  | '^' :: cs => .oneOf true (ranges cs)
  | cs => .oneOf false (ranges cs)

/-- The pieces of a name; nothing if it ends in a backslash. -/
def namePieces? : List Char → Option (List Piece)
  | [] => some []
  | c :: rest =>
    if c = '\\' then
      match rest with
      | [] => none
      | d :: rest => (namePieces? rest).map (.char d :: ·)
    else if c = '*' then (namePieces? rest).map (.run :: ·)
    else if c = '?' then (namePieces? rest).map (.any :: ·)
    else if c = '[' then
      match _h : splitClass? rest with
      | none => (namePieces? rest).map (.char '[' :: ·)
      | some (inner, after) => (namePieces? after).map (classOf inner :: ·)
    else (namePieces? rest).map (.char c :: ·)
termination_by cs => cs.length
decreasing_by
  all_goals simp only [List.length_cons]
  all_goals first
    | omega
    | exact Nat.lt_succ_of_lt (splitClass?_length _h)

/-- The pieces of one segment of a rule. -/
def segmentPieces? (segment : List Char) : Option (List Piece) :=
  if segment = ['*'] then some [.name] else namePieces? segment

/-- A slash, if one is needed. -/
def slashIf (needed : Bool) : List Piece := if needed then [.char '/'] else []

/-- The pieces and the ending of a rule from its segments. -/
def compile? (forFolders isFirst needsSlash : Bool) : List (List Char) → Option (List Piece × Ending)
  | [] => none
  | [segment] =>
    if segment = ['*', '*'] then
      some (if isFirst then ([.name], .either) else ([], .below forFolders))
    else
      (segmentPieces? segment).map fun ps => (slashIf needsSlash ++ ps, .here)
  | segment :: rest =>
    if segment = ['*', '*'] then
      (compile? forFolders false (!isFirst) rest).map fun (ps, e) =>
        ((if isFirst then .leading else .inner) :: ps, e)
    else
      match segmentPieces? segment, compile? forFolders false true rest with
      | some ps, some (qs, e) => some (slashIf needsSlash ++ ps ++ qs, e)
      | _, _ => none

/-- Segments with one `**` for each run of them. -/
def dropRepeats : List (List Char) → List (List Char)
  | a :: b :: rest =>
    if a = ['*', '*'] && b = ['*', '*'] then dropRepeats (b :: rest) else a :: dropRepeats (b :: rest)
  | short => short

/-- Segments counted from the root: a leading slash is dropped, and a single name may stand at any
depth. -/
def fromRoot : List (List Char) → List (List Char)
  | [] :: rest => rest
  | [name] => if name = ['*', '*'] then [name] else [['*', '*'], name]
  | [name, []] => if name = ['*', '*'] then [name, []] else [['*', '*'], name, []]
  | segments => segments

/-- Segments with `**` for the nothing after a slash at the end. -/
def fillLast : List (List Char) → List (List Char)
  | [] => []
  | [a] => [a]
  | [a, []] => [a, ['*', '*']]
  | a :: rest => a :: fillLast rest

/-- The rule of a pattern. -/
def ruleOf? (negated : Bool) (pattern : List Char) : Option Rule :=
  let segments := Path.pieces pattern
  let forFolders := segments.getLast? == some []
  let segments := dropRepeats segments
  if segments = [['*', '*'], []] then some ⟨negated, [.anything], .below true⟩
  else
    (compile? forFolders true false (fillLast (fromRoot segments))).map fun (pieces, ending) =>
      ⟨negated, pieces, ending⟩

/-- A line without the blanks at its end, of which one after a backslash stays. -/
def trimmed (cs : List Char) : List Char :=
  if ['\\', ' '].isSuffixOf cs then cs else Text.trimEndChars Text.isBlank cs

/-- The rule of a line. -/
def Line.ofText (cs : List Char) : Line :=
  let pattern := trimmed cs
  if pattern.isEmpty || pattern.head? = some '#' || pattern = ['/'] then .nothing
  else
    let (negated, body) := match pattern with
      | '!' :: rest => (true, rest)
      | _ => (false, pattern)
    match ruleOf? negated body with
    | some r => .rule r
    | none => .invalid (String.ofList cs)

/-! ## Matching -/

/-- Carries the marks over one character that is accepted. -/
def overOne (accepts : Char → Bool) (text : List Char) (marks : List Bool) : List Bool :=
  false :: List.zipWith (fun mark c => mark && accepts c) marks text

/-- Carries the marks over any run of characters that are accepted; `seen` says whether such a run has
reached the first place. -/
def overRun (accepts : Char → Bool) (seen : Bool) : List Char → List Bool → List Bool
  | _, [] => []
  | [], mark :: _ => [seen || mark]
  | c :: text, mark :: marks =>
    (seen || mark) :: overRun accepts ((seen || mark) && accepts c) text marks

/-- Whether a character is not a slash. -/
def notSlash (c : Char) : Bool := c != '/'

/-- Carries the marks over one piece. A mark stands at the end of each part of the text, from its start,
that the pieces before match. -/
def advance (text : List Char) (marks : List Bool) (p : Piece) : List Bool :=
  let all : Char → Bool := fun _ => true
  let someOf (accepts : Char → Bool) (marks : List Bool) : List Bool :=
    overRun accepts false text (overOne accepts text marks)
  match p with
  | .char d => overOne (· == d) text marks
  | .any => overOne notSlash text marks
  | .oneOf negated ranges =>
    overOne (fun c => (ranges.any fun (lo, hi) => lo ≤ c && c ≤ hi) != negated) text marks
  | .run => overRun notSlash false text marks
  | .name => someOf notSlash marks
  | .anything => someOf all marks
  | .leading => List.zipWith (· || ·) marks (overOne (· == '/') text (someOf all marks))
  | .inner => List.zipWith (· || ·) marks (someOf all (overOne (· == '/') text marks))

/-- How a rule holds for a path. -/
inductive Hold where
  /-- The rule names the path itself. -/
  | byName
  /-- The rule names a folder above. -/
  | byFolder
  deriving DecidableEq, Repr

/-- Whether and how a rule holds for a path. -/
def Rule.holds? (r : Rule) (path : String) : Option Hold :=
  let text := path.toList
  let start := true :: List.replicate text.length false
  let marks := r.pieces.foldl (advance text) start
  let atEnd := (marks.getLast?).getD false
  let atSlash := (List.zipWith (fun mark c => mark && c == '/') marks text).any id
  match r.ending with
  | .here => if atEnd then some .byName else if atSlash then some .byFolder else none
  | .below byFolder => if atSlash then some (if byFolder then .byFolder else .byName) else none
  | .either => if atEnd || atSlash then some .byName else none

/-- The last rule that holds for a path in a given way. -/
def lastHolding? (rules : List Rule) (path : String) (h : Hold) : Option Rule :=
  rules.reverse.find? fun r => r.holds? path = some h

/-- Whether rules hold for a path: the last that names it decides, and if there is none, the last that
names a folder above it. -/
def ignores (rules : List Rule) (path : String) : Bool :=
  match lastHolding? rules path .byName <|> lastHolding? rules path .byFolder with
  | some r => !r.negated
  | none => false

/-- The rules of some lines; the first line that is no rule is a failure. -/
def rulesOf : List (List Char) → Except String (List Rule)
  | [] => .ok []
  | line :: rest =>
    match Line.ofText line with
    | .nothing => rulesOf rest
    | .invalid s => .error s
    | .rule r => do
      let rs ← rulesOf rest
      pure (r :: rs)

end GoMeter.Ignore
