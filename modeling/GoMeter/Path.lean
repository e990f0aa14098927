/-!
# Paths

A path is a run of names under nothing, under the root `/`, or under the root `//`. Doubled slashes,
`.` and a slash at the end leave no trace; `..` is a name like any other, because what it means
depends on links.

* `Path.ofText`, `Path.text`: a path and its text.
* `Path.join`: a path below another one.
* `Path.parent`, `Path.name`, `Path.suffix`: the parts of a path.
-/

namespace GoMeter

/-- A path: the number of slashes that it starts with, at most two, and its names. -/
structure Path where
  slashes : Nat
  names : List String
  deriving DecidableEq, Repr, Inhabited

namespace Path

/-- The pieces of a text between slashes. -/
def pieces : List Char → List (List Char)
  | [] => [[]]
  | '/' :: rest => [] :: pieces rest
  | c :: rest =>
    match pieces rest with
    | [] => [[c]]
    | piece :: more => (c :: piece) :: more

/-- Whether a piece of a path names something. -/
def isName (piece : List Char) : Bool := !piece.isEmpty && piece != ['.']

/-- The names in a text. -/
def namesIn (cs : List Char) : List String := ((pieces cs).filter isName).map String.ofList

/-- The root that a run of slashes stands for: exactly two are kept, more are one. -/
def rootOf (slashes : Nat) : Nat := if 2 < slashes then 1 else slashes

/-- The path of a text. -/
def ofText (s : String) : Path :=
  let cs := s.toList
  ⟨rootOf (cs.takeWhile (· == '/')).length, namesIn cs⟩

/-- The text of a path; the path without names is `.`. -/
def text (p : Path) : String :=
  if p.slashes = 0 && p.names.isEmpty then "."
  else String.ofList (List.replicate p.slashes '/') ++ "/".intercalate p.names

/-- Whether a path starts at the root. -/
def isAbsolute (p : Path) : Bool := p.slashes != 0

/-- A path read below another one; an absolute path stays as it is. -/
def join (base p : Path) : Path :=
  if p.isAbsolute then p else { base with names := base.names ++ p.names }

/-- A name below a path. -/
def child (p : Path) (name : String) : Path := { p with names := p.names ++ [name] }

/-- The path without its last name. -/
def parent (p : Path) : Path := { p with names := p.names.dropLast }

/-- The last name of a path. -/
def name (p : Path) : String := p.names.getLast?.getD ""

/-- The ending of a name from its last point on, if the point is neither its first nor its last
character. -/
def suffix (p : Path) : String :=
  let backwards := p.name.toList.reverse
  let ending := backwards.takeWhile (· != '.')
  let stem := (backwards.drop ending.length).drop 1
  if ending.isEmpty || stem.isEmpty then "" else String.ofList ('.' :: ending.reverse)

/-- The order of paths: by their roots, then name by name, each by its code points. -/
def key (p : Path) : List String :=
  if p.slashes = 0 then p.names else String.ofList (List.replicate p.slashes '/') :: p.names

/-- Whether a path comes before another one or is the same. -/
def le (p q : Path) : Bool := !(decide (q.key < p.key))

end Path

end GoMeter
