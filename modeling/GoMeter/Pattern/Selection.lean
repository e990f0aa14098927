import GoMeter.Path
import GoMeter.Pattern.Glob
import GoMeter.Text.Blank

/-!
# Patterns that select files

A pattern of the configuration selects paths below the analysed directory. Without wildcards it
selects one path and all below it, and a bare name also every directory of that name. With wildcards it
selects a path if it matches the whole path, where `*` runs over slashes too, or if its names match the
last names of the path; `**/` may also stand for nothing. `**` alone selects everything.

* `Selection.normalize`: a pattern as it is used.
* `Selection.selects?`: whether a pattern selects a path.
-/

namespace GoMeter.Selection

/-- Whether a pattern has wildcards. -/
def hasGlob (pattern : String) : Bool :=
  pattern.toList.any fun c => c == '*' || c == '?' || c == '['

/-- A pattern as it is used: without blanks and slashes around it, with slashes for backslashes, and
without a leading `./`. The empty pattern, which comments have too, selects nothing. -/
def normalize (pattern : String) : String :=
  let cs := (Text.strip pattern.toList).map fun c => if c = '\\' then '/' else c
  if cs.isEmpty || cs.head? == some '#' then ""
  else
    let cs := if ['.', '/'].isPrefixOf cs then cs.drop 2 else cs
    let cs := Text.trimChars (· == '/') cs
    if cs.isEmpty || cs == ['.'] then "**" else String.ofList cs

/-- A text without the occurrences of `**/` in it. -/
def withoutAnyDepth : List Char → List Char
  | '*' :: '*' :: '/' :: rest => withoutAnyDepth rest
  | c :: rest => c :: withoutAnyDepth rest
  | [] => []

/-- The patterns that a pattern with wildcards stands for. -/
def readings (pattern : String) : List String :=
  let short := String.ofList (withoutAnyDepth pattern.toList)
  if short = pattern then [pattern] else [pattern, short]

/-- Whether names match the last of some other names. -/
def matchesEnd (patterns names : List String) : Bool :=
  patterns.length ≤ names.length &&
    (patterns.reverse.zip names.reverse).all fun (pattern, name) => Glob.fits pattern name

/-- Whether the names of a pattern match the last names of a path, or all of them if the pattern starts
at a root. Nothing if the pattern has no names and no root. -/
def matchesNames? (pattern : Path) (p : Path) : Option Bool :=
  if pattern.isAbsolute then
    some (pattern.slashes = p.slashes && pattern.names.length = p.names.length &&
      matchesEnd pattern.names p.names)
  else if pattern.names.isEmpty then none
  else some (matchesEnd pattern.names p.key)

/-- Whether one of some patterns matches a path; nothing if a pattern without names is reached. -/
def anyMatches? (p : Path) : List String → Option Bool
  | [] => some false
  | pattern :: rest =>
    if Glob.fits pattern p.text then some true
    else
      match matchesNames? (.ofText pattern) p with
      | none => none
      | some true => some true
      | some false => anyMatches? p rest

/-- Whether a pattern without wildcards selects a path. -/
def selectsBelow (pattern : String) (p : Path) : Bool :=
  p.text == pattern || (pattern ++ "/").toList.isPrefixOf p.text.toList ||
    (!pattern.toList.contains '/' && p.names.dropLast.contains pattern)

/-- Whether a normal pattern selects a path; nothing if a reading of the pattern has no names. -/
def selects? (pattern : String) (p : Path) : Option Bool :=
  if pattern = "**" then some true
  else if hasGlob pattern then anyMatches? p (readings pattern)
  else some (selectsBelow pattern p)

/-- The wording for a pattern that has no names. -/
def emptyPattern : String := "empty pattern"

end GoMeter.Selection
