/-!
# Wildcards

A wildcard pattern is matched against a whole text. `*` stands for any run of characters, `?` for any
one character, and `[...]` for one character of a class; every other character stands for itself. A
class may start with `!` to stand for the characters outside of it, holds ranges such as `a-z`, and may
have `]` as its first member. A bracket that is not closed stands for itself.

* `Glob.parse`: the elements of a pattern.
* `Glob.fits`: whether a pattern matches a text.
-/

namespace GoMeter.Glob

/-- What stands in a pattern for a part of a text. -/
inductive Element where
  /-- Any run of characters. -/
  | star
  /-- Any one character. -/
  | any
  /-- One given character. -/
  | char (c : Char)
  /-- One character that is, or is not, in one of some ranges. -/
  | oneOf (negated : Bool) (ranges : List (Char × Char))
  deriving DecidableEq, Repr

/-- Whether an element stands for a character. -/
def Element.accepts (e : Element) (c : Char) : Bool :=
  match e with
  | .star => false
  | .any => true
  | .char d => c == d
  | .oneOf negated ranges => (ranges.any fun (lo, hi) => lo ≤ c && c ≤ hi) != negated

/-- Splits a text at its first hyphen that has at least `least` characters before it. -/
def splitHyphen? (least : Nat) (cs : List Char) : Option (List Char × List Char) :=
  match (cs.drop least).dropWhile (· != '-') with
  | [] => none
  | _ :: rest => some (cs.take least ++ (cs.drop least).takeWhile (· != '-'), rest)

/-- What follows the hyphen is shorter than the text. -/
theorem splitHyphen?_length {least : Nat} {cs chunk rest : List Char}
    (h : splitHyphen? least cs = some (chunk, rest)) : rest.length < cs.length := by
  unfold splitHyphen? at h
  split at h
  · simp at h
  · rename_i c r hd
    simp only [Option.some.injEq, Prod.mk.injEq] at h
    have h1 : (c :: r).length ≤ (cs.drop least).length := by
      rw [← hd]; exact (List.dropWhile_sublist _).length_le
    simp only [List.length_cons, List.length_drop] at h1
    rw [← h.2]
    omega

/-- The chunks of a class between the hyphens that make ranges. A hyphen makes a range if it is not at
the start of its chunk nor right after the end of a range; one at the end of the class is a member. -/
def chunks (least : Nat) (cs : List Char) : List (List Char) :=
  match _h : splitHyphen? least cs with
  | none => [cs]
  | some (chunk, []) => [chunk ++ ['-']]
  | some (chunk, c :: rest) => chunk :: chunks 2 (c :: rest)
termination_by cs.length
decreasing_by exact splitHyphen?_length _h

/-- Removes the ranges that run downwards, from the right. -/
def dropEmpty : List (List Char) → List (List Char)
  | [] => []
  | chunk :: rest =>
    match chunk.getLast?, dropEmpty rest with
    | some lo, (hi :: next) :: more =>
      if hi < lo then (chunk.dropLast ++ next) :: more else chunk :: (hi :: next) :: more
    | _, kept => chunk :: kept

/-- One range for each of some characters. -/
def singles (cs : List Char) : List (Char × Char) := cs.map fun c => (c, c)

/-- The ranges of a class, given the chunk that is being read and those after it. The hyphen between
two chunks makes a range of the characters beside it, or is a member if there is none before it. -/
def rangesFrom (chunk : List Char) : List (List Char) → List (Char × Char)
  | [] => singles chunk
  | next :: more =>
    match chunk.getLast?, next with
    | some lo, hi :: rest => singles chunk.dropLast ++ (lo, hi) :: rangesFrom rest more
    | _, _ => singles chunk ++ ('-', '-') :: rangesFrom next more

/-- The class that the text between two brackets stands for. -/
def classOf (cs : List Char) : Element :=
  match dropEmpty (chunks (if cs.head? = some '!' then 2 else 1) cs) with
  | [] => .oneOf false []
  | ('!' :: chunk) :: more => .oneOf true (rangesFrom chunk more)
  | chunk :: more => .oneOf false (rangesFrom chunk more)

/-- The members that may be a closing bracket: those at the start of a class. -/
def classLead : List Char → List Char
  | '!' :: ']' :: _ => ['!', ']']
  | '!' :: _ => ['!']
  | ']' :: _ => [']']
  | _ => []

/-- The text of a class and what follows its closing bracket. -/
def splitClass? (cs : List Char) : Option (List Char × List Char) :=
  let lead := classLead cs
  let body := cs.drop lead.length
  match body.dropWhile (· != ']') with
  | [] => none
  | _ :: rest => some (lead ++ body.takeWhile (· != ']'), rest)

/-- What follows a class is shorter than the text. -/
theorem splitClass?_length {cs inner rest : List Char}
    (h : splitClass? cs = some (inner, rest)) : rest.length < cs.length := by
  unfold splitClass? at h
  simp only at h
  split at h
  · simp at h
  · rename_i c r hd
    simp only [Option.some.injEq, Prod.mk.injEq] at h
    have h1 : (c :: r).length ≤ (cs.drop (classLead cs).length).length := by
      rw [← hd]; exact (List.dropWhile_sublist _).length_le
    simp only [List.length_cons, List.length_drop] at h1
    rw [← h.2]
    omega

/-- The elements of a pattern. -/
def parse : List Char → List Element
  | [] => []
  | c :: rest =>
    if c = '*' then .star :: parse rest
    else if c = '?' then .any :: parse rest
    else if c = '[' then
      match _h : splitClass? rest with
      | none => .char '[' :: parse rest
      | some (inner, after) => classOf inner :: parse after
    else .char c :: parse rest
termination_by cs => cs.length
decreasing_by
  all_goals simp only [List.length_cons]
  all_goals first
    | omega
    | exact Nat.lt_succ_of_lt (splitClass?_length _h)

/-- From each place on: whether this place or an earlier one is marked. -/
def spread (seen : Bool) : List Bool → List Bool
  | [] => []
  | b :: rest => (seen || b) :: spread (seen || b) rest

/-- Carries the marks over one element. A mark stands at the end of each part of the text, from its
start, that the elements before match. -/
def advance (text : List Char) (marks : List Bool) (e : Element) : List Bool :=
  match e with
  | .star => spread false marks
  | e => false :: List.zipWith (fun mark c => mark && e.accepts c) marks text

/-- Whether some elements match a whole text. -/
def fitsAll (elements : List Element) (text : List Char) : Bool :=
  let start := true :: List.replicate text.length false
  ((elements.foldl (advance text) start).getLast?).getD false

/-- Whether a pattern matches a whole text. -/
def fits (pattern text : String) : Bool := fitsAll (parse pattern.toList) text.toList

end GoMeter.Glob
