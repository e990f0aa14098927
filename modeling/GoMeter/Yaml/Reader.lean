import GoMeter.Yaml.Node

/-!
# The value of a YAML text

The value of a node follows its tag. A mapping keeps its keys in the order in which they first appear;
a later entry of an equal key replaces the value. The key `<<` takes over the entries of one mapping or
of several, before all entries of its own mapping, so that those win. Lists and mappings are no keys.

* `Node.value`: the value of a node.
* `read`: the value of a text with one document.
-/

namespace GoMeter.Yaml

/-! ## Scalars -/

/-- The value of digits in a base up to sixteen; nothing if there are none. -/
def inBase? (base : Nat) (cs : List Char) : Option Nat :=
  if cs.isEmpty then none
  else
    (cs.mapM fun c => (Json.hexValue? c).filter (· < base)).map fun ds =>
      ds.foldl (fun n d => n * base + d) 0

/-- The integer of digits in a base. -/
def digitsInBase (base : Nat) (cs : List Char) : Except Fault Int :=
  match inBase? base cs with
  | some n => .ok n
  | none => .error (.notNumeral base (String.ofList cs))

/-- The integer of a decimal numeral. -/
def decimalInteger (cs : List Char) : Except Fault Int :=
  match readInteger (String.ofList cs) with
  | .ok n => .ok n
  | .error fault => .error (.notInteger fault)

/-- The integer of a numeral without a sign and without underscores. -/
def unsignedInteger (cs : List Char) : Except Fault Int :=
  match cs with
  | ['0'] => .ok 0
  | '0' :: 'b' :: ds => digitsInBase 2 ds
  | '0' :: 'x' :: ds => digitsInBase 16 ds
  | '0' :: _ => digitsInBase 8 cs
  | _ =>
    if cs.contains ':' then do
      let parts ← (colonPieces cs).mapM decimalInteger
      pure (parts.foldl (fun n d => n * 60 + d) 0)
    else decimalInteger cs

/-- The integer of a scalar. -/
def integerValue (cs : List Char) : Except Fault Value := do
  let (negative, body) := signOf (cs.filter (· != '_'))
  let n ← unsignedInteger body
  pure (.int (if negative then -n else n))

/-- The number of a decimal numeral without a sign. -/
def decimalNumber? (cs : List Char) : Option Binary64 :=
  let whole := cs.takeWhile Char.isDigit
  let (fraction, rest) := match cs.drop whole.length with
    | '.' :: rest => (rest.takeWhile Char.isDigit, rest.dropWhile Char.isDigit)
    | rest => ([], rest)
  let digits := whole ++ fraction
  let exponent : Option Int := match rest with
    | [] => some 0
    | e :: rest =>
      let (negative, ds) := signOf rest
      if (e == 'e' || e == 'E') && isRun Char.isDigit ds then
        let n : Int := Decimal.value ds
        some (if negative then -n else n)
      else none
  if digits.isEmpty then none
  else exponent.map fun e =>
    .ofDecimal false (Decimal.value digits) digits.length (e - fraction.length)

/-- The number of a numeral in base sixty, from its parts. -/
def sexagesimal (parts : List Binary64) : Binary64 :=
  (parts.reverse.foldl (fun (sum, base) x => (Binary64.add sum (x.scale base), base * 60))
    (Binary64.zero false, 1)).1

/-- The number of a scalar. -/
def floatValue (cs : List Char) : Except Fault Value :=
  let (negative, body) := signOf (Text.lower (cs.filter (· != '_')))
  let number : Option Binary64 :=
    if body = ".inf".toList then some (.infinite false)
    else if body = ".nan".toList then some .nan
    else if body.contains ':' then ((colonPieces body).mapM decimalNumber?).map sexagesimal
    else decimalNumber? body
  match number with
  | some x => .ok (.float (if negative then x.neg else x))
  | none => .error (.notNumber (String.ofList body))

/-- The truth value of a scalar. -/
def truthValue (cs : List Char) : Except Fault Value :=
  let word := String.ofList (Text.lower cs)
  if trueWords.contains word then .ok (.bool true)
  else if falseWords.contains word then .ok (.bool false)
  else .error (.notTruth word)

/-- What is wrong with an offset from universal time of a day or more. -/
def zoneFault? (s : Stamp) : Option String := do
  let zone ← s.clock.bind (·.zone)
  if zone.natAbs < 1440 then none
  let seconds := zone * 60
  let days := Int.fdiv seconds 86400
  let rest := Int.fmod seconds 86400
  pure ("offset must be a timedelta strictly between -timedelta(hours=24) and timedelta(hours=24), " ++
    "not datetime.timedelta(days=" ++ Decimal.text days ++
    (if rest = 0 then "" else ", seconds=" ++ Decimal.text rest) ++ ").")

/-- The date of a scalar. -/
def stampValue (cs : List Char) : Except Fault Value :=
  match stamp? cs with
  | none => .error .notStamp
  | some s =>
    match (zoneFault? s).or s.fault? with
    | some reason => .error (.noSuchDate reason)
    | none => .ok (.stamp s)

/-- The value of a scalar. -/
def scalarValue (tag : Tag) (cs : List Char) : Except Fault Value :=
  match tag with
  | .null => .ok .null
  | .bool => truthValue cs
  | .int => integerValue cs
  | .float => floatValue cs
  | .stamp => stampValue cs
  | .text => .ok (.text (String.ofList cs))
  | _ => .error .malformed

/-! ## Mappings -/

/-- Whether a value can be a key. -/
def isKey : Value → Bool
  | .list _ | .map _ => false
  | _ => true

/-- A number as a fraction with its sign; truth values are one and zero. -/
def fraction? : Value → Option (Int × Nat)
  | .bool b => some (if b then 1 else 0, 1)
  | .int n => some (n, 1)
  | .float (.finite negative mantissa exponent) =>
    let (num, den) := Binary64.ratio mantissa exponent
    some (if negative then -(num : Int) else num, den)
  | _ => none

/-- Whether two values are the same key. Numbers are the same if they are equal. -/
def sameKey (a b : Value) : Bool :=
  match a, b with
  | .null, .null => true
  | .text s, .text t => s == t
  | .stamp s, .stamp t => s == t
  | .float (.infinite s), .float (.infinite t) => s == t
  | a, b =>
    match fraction? a, fraction? b with
    | some (n, d), some (n', d') => n * d' == n' * d
    | _, _ => false

/-- Adds an entry; an equal key keeps its place and gets the new value. -/
def addEntry (entries : List (Value × Value)) (k v : Value) : List (Value × Value) :=
  match entries with
  | [] => [(k, v)]
  | (k', v') :: rest => if sameKey k' k then (k', v) :: rest else (k', v') :: addEntry rest k v

/-- The mapping of some entries. -/
def mappingOf (entries : List (Value × Value)) : Value :=
  .map (entries.foldl (fun es (k, v) => addEntry es k v) [])

/-- The entries of a mapping: those that it takes over, and its own. -/
structure Entries where
  merged : List (Value × Value)
  own : List (Value × Value)

/-- All entries, those that are taken over first. -/
def Entries.all (e : Entries) : List (Value × Value) := e.merged ++ e.own

/-- The key of an entry; a default value has a key of text. -/
def keyValue (tag : Tag) (v : Except Fault Value) : Except Fault Value :=
  if tag = .default then .ok (.text "=")
  else do
    let k ← v
    if isKey k then pure k else throw .malformed

mutual

/-- The value of a node. -/
def Node.value : Node → Except Fault Value
  | .scalar tag cs => scalarValue tag cs
  | .list tag items =>
    if tag = .list then do pure (.list (← itemValues items)) else .error .malformed
  | .map tag entries =>
    if tag = .map then do pure (mappingOf (← entryValues entries).all) else .error .malformed

/-- The values of some nodes. -/
def itemValues : List Node → Except Fault (List Value)
  | [] => .ok []
  | n :: rest => do
    let v ← n.value
    let vs ← itemValues rest
    pure (v :: vs)

/-- The entries of a mapping. -/
def entryValues : List (Node × Node) → Except Fault Entries
  | [] => .ok ⟨[], []⟩
  | (k, v) :: rest =>
    if k.tag = .merge then do
      let taken ← takenEntries v
      let e ← entryValues rest
      pure ⟨taken ++ e.merged, e.own⟩
    else do
      let key ← keyValue k.tag k.value
      let value ← v.value
      let e ← entryValues rest
      pure ⟨e.merged, (key, value) :: e.own⟩

/-- The entries that a mapping takes over from a node: a mapping, or a list of mappings. -/
def takenEntries : Node → Except Fault (List (Value × Value))
  | .map _ entries => do pure (← entryValues entries).all
  | .list _ items => sharedEntries items
  | .scalar _ _ => .error .malformed

/-- The entries of several mappings, the last one first, so that earlier ones win. -/
def sharedEntries : List Node → Except Fault (List (Value × Value))
  | [] => .ok []
  | .map _ entries :: rest => do
    let e ← entryValues entries
    let others ← sharedEntries rest
    pure (others ++ e.all)
  | _ :: _ => .error .malformed

end

/-- The value of a text with one document; an empty text has none. -/
def read (text : List Char) : Except Fault Value := do
  match ← Node.ofTokens (← tokens text) with
  | none => pure .null
  | some n => n.value

end GoMeter.Yaml
