import GoMeter.Lines.Directive
import GoMeter.Proofs.Number.Decimal
import GoMeter.Proofs.Outcome
import Mathlib.Data.List.DropRight
import Mathlib.Data.List.TakeWhile
import Mathlib.Tactic.SplitIfs

/-!
# The grammar of line directives

A directive says `file:line` or `file:line:column`. The file may hold colons and digits of its own,
so which number is the line is decided from the right: the number after the last colon is a column
if what stands before that colon ends in a number too.

* `Directive.Names`: the grammar, one rule for each of the two shapes.
* `Directive.splitLastColon?_eq_some_iff`: a text is split at its last colon.
* `Directive.target?_lineOnly`, `Directive.target?_lineAndColumn`: how each shape is read;
  `Directive.shape_cases`: every text has one of the shapes or none.
* `Directive.target?_eq_some_iff`, `Directive.target?_eq_none_iff`,
  `Directive.exists_target?_error_iff`: reading against the grammar.
* `Directive.reading_follows_grammar`: the line that a comment names, and when it is malformed.
-/

namespace GoMeter.Directive

/-! ## The grammar -/

/-- A non-empty run of the digits 0 to 9. -/
def IsNumeral (cs : List Char) : Prop := cs ≠ [] ∧ ∀ c ∈ cs, c.isDigit = true

/-- A number that may be a line or a column. -/
def InRange (n : Nat) : Prop := 1 ≤ n ∧ n ≤ 2 ^ 30

instance : DecidablePred InRange := fun n => inferInstanceAs (Decidable (1 ≤ n ∧ n ≤ 2 ^ 30))

/-- A text ends in a colon and a numeral. -/
def EndsInNumeral (cs : List Char) : Prop :=
  ∃ front digits, cs = front ++ ':' :: digits ∧ IsNumeral digits

/-- What follows the opening of a directive names a line: it is `file:line:column`, or it is
`file:line` where the file does not end in a number of its own. -/
inductive Names : List Char → Nat → Prop where
  | lineAndColumn {file line column : List Char} (hline : IsNumeral line)
      (hcolumn : IsNumeral column) (hcolumnRange : InRange (Decimal.value column))
      (hlineRange : InRange (Decimal.value line)) :
      Names (file ++ ':' :: (line ++ ':' :: column)) (Decimal.value line)
  | lineOnly {file line : List Char} (hline : IsNumeral line) (hfile : ¬ EndsInNumeral file)
      (hlineRange : InRange (Decimal.value line)) :
      Names (file ++ ':' :: line) (Decimal.value line)

/-- A comment opens a directive, and this is what it says: all that follows the opening of a line
comment, and all but the last two characters of what follows the opening of a block comment. -/
inductive Opens : List Char → List Char → Prop where
  | line (rest : List Char) : Opens ("//line ".toList ++ rest) rest
  | block (rest : List Char) : Opens ("/*line ".toList ++ rest) (rest.rdrop 2)

/-- Every run of digits in a text is short enough to be read as a number. -/
def ShortRuns (cs : List Char) : Prop :=
  ∀ run, run <:+: cs → (∀ c ∈ run, c.isDigit = true) → run.length ≤ 4300

theorem ShortRuns.of_part {cs ds : List Char} (h : ShortRuns cs) (hpart : ds <:+: cs) :
    ShortRuns ds := fun run hrun hdigits => h run (hrun.trans hpart) hdigits

/-! ## The last colon -/

theorem splitLastColon?_append {before after : List Char} (h : ':' ∉ after) :
    splitLastColon? (before ++ ':' :: after) = some (before, after) := by
  have htake : ((before ++ ':' :: after).reverse.takeWhile (· != ':')).reverse = after := by
    have hafter : ∀ c ∈ after.reverse, (c != ':') = true := by
      intro c hc
      have hne : c ≠ ':' := fun heq => h (heq ▸ List.mem_reverse.mp hc)
      simpa using hne
    rw [List.reverse_append, List.reverse_cons, List.append_assoc,
      List.takeWhile_append_of_pos hafter]
    simp
  have hlength : (before ++ ':' :: after).length - after.length - 1 = before.length := by
    simp only [List.length_append, List.length_cons]
    omega
  rw [splitLastColon?, if_pos (by simp)]
  simp only [htake, hlength, List.take_left]

/-- A text with a colon has a last one. -/
theorem exists_last_colon {cs : List Char} (h : ':' ∈ cs) :
    ∃ before after, cs = before ++ ':' :: after ∧ ':' ∉ after := by
  obtain ⟨front, back, hsplit, hfront⟩ := List.eq_append_cons_of_mem (List.mem_reverse.mpr h)
  refine ⟨back.reverse, front.reverse, ?_, fun hmem => hfront (List.mem_reverse.mp hmem)⟩
  rw [← cs.reverse_reverse, hsplit]
  simp

theorem splitLastColon?_eq_none_iff {cs : List Char} : splitLastColon? cs = none ↔ ':' ∉ cs := by
  unfold splitLastColon?
  split_ifs with h <;> simp [h]

theorem splitLastColon?_eq_some_iff {cs before after : List Char} :
    splitLastColon? cs = some (before, after) ↔ cs = before ++ ':' :: after ∧ ':' ∉ after := by
  constructor
  · intro h
    have hmem : ':' ∈ cs := by
      by_contra hnot
      rw [splitLastColon?_eq_none_iff.mpr hnot] at h
      cases h
    obtain ⟨front, back, rfl, hback⟩ := exists_last_colon hmem
    rw [splitLastColon?_append hback] at h
    cases h
    exact ⟨rfl, hback⟩
  · rintro ⟨rfl, hafter⟩
    exact splitLastColon?_append hafter

/-! ## Numerals -/

theorem isNumber_iff {cs : List Char} : isNumber cs = true ↔ IsNumeral cs := by
  simp [isNumber, IsNumeral]

theorem IsNumeral.colon_not_mem {cs : List Char} (h : IsNumeral cs) : ':' ∉ cs := fun hmem =>
  absurd (h.2 ':' hmem) (by decide)

theorem isNumeral_digits (n : Nat) : IsNumeral (Decimal.digits n) :=
  ⟨Decimal.digits_ne_nil n, fun _ hc => Decimal.isDigit_of_mem_digits hc⟩

theorem number_eq_ok {cs : List Char} (h : cs.length ≤ digitLimit) :
    number cs = .ok (Decimal.value cs) :=
  if_pos h

/-- What stands after the last colon decides whether a text ends in a numeral. -/
theorem endsInNumeral_append_iff {before after : List Char} (h : ':' ∉ after) :
    EndsInNumeral (before ++ ':' :: after) ↔ IsNumeral after := by
  constructor
  · rintro ⟨front, digits, hsplit, hdigits⟩
    have hsame := (splitLastColon?_append h).symm.trans
      (splitLastColon?_eq_some_iff.mpr ⟨hsplit, hdigits.colon_not_mem⟩)
    cases hsame
    exact hdigits
  · intro hafter
    exact ⟨before, after, rfl, hafter⟩

theorem inRange_iff {n : Nat} : InRange n ↔ ¬ (n = 0 ∨ limit < n) := by
  have hlimit : limit = 2 ^ 30 := rfl
  rw [InRange, hlimit]
  omega

theorem checkLine_eq_ok_iff {n line : Nat} : checkLine n = .ok line ↔ InRange n ∧ n = line := by
  rw [checkLine, inRange_iff]
  split_ifs with hout <;> simp [hout]

theorem checkColumn_eq_ok_iff {n column : Nat} :
    checkColumn n = .ok column ↔ InRange n ∧ n = column := by
  rw [checkColumn, inRange_iff]
  split_ifs with hout <;> simp [hout]

/-! ## Reading what follows the opening -/

theorem trailing?_of_numeral {front digits : List Char} (h : IsNumeral digits)
    (hshort : digits.length ≤ digitLimit) :
    trailing? (front ++ ':' :: digits) = .ok (some (Decimal.value digits)) := by
  rw [trailing?, splitLastColon?_append h.colon_not_mem]
  simp only [isNumber_iff.mpr h, number_eq_ok hshort, if_true]
  rfl

theorem trailing?_of_not_endsInNumeral {cs : List Char} (h : ¬ EndsInNumeral cs) :
    trailing? cs = .ok none := by
  unfold trailing?
  split
  · next front digits hsplit =>
    obtain ⟨rfl, hdigits⟩ := splitLastColon?_eq_some_iff.mp hsplit
    rw [endsInNumeral_append_iff hdigits] at h
    rw [if_neg fun hnumber => h (isNumber_iff.mp hnumber)]
  · rfl

theorem target?_of_no_colon {cs : List Char} (h : ':' ∉ cs) : target? cs = .ok none := by
  rw [target?, splitLastColon?_eq_none_iff.mpr h]

theorem target?_of_not_numeral {file last : List Char} (hcolon : ':' ∉ last)
    (h : ¬ IsNumeral last) :
    target? (file ++ ':' :: last) = .error (.line (String.ofList last)) := by
  rw [target?, splitLastColon?_append hcolon]
  exact if_neg fun hnumber => h (isNumber_iff.mp hnumber)

theorem target?_lineOnly {file line : List Char} (hline : IsNumeral line)
    (hfile : ¬ EndsInNumeral file) (hshort : line.length ≤ digitLimit) :
    target? (file ++ ':' :: line) = some <$> checkLine (Decimal.value line) := by
  rw [target?, splitLastColon?_append hline.colon_not_mem]
  simp only [isNumber_iff.mpr hline, if_true, number_eq_ok hshort,
    trailing?_of_not_endsInNumeral hfile]
  rfl

theorem target?_lineAndColumn {file line column : List Char} (hline : IsNumeral line)
    (hcolumn : IsNumeral column)
    (hshort : line.length ≤ digitLimit ∧ column.length ≤ digitLimit) :
    target? (file ++ ':' :: (line ++ ':' :: column)) =
      checkColumn (Decimal.value column) >>= fun _ => some <$> checkLine (Decimal.value line) := by
  have hsplit : file ++ ':' :: (line ++ ':' :: column) =
      (file ++ ':' :: line) ++ ':' :: column := by simp
  rw [target?, hsplit, splitLastColon?_append hcolumn.colon_not_mem]
  simp only [isNumber_iff.mpr hcolumn, if_true, number_eq_ok hshort.2,
    trailing?_of_numeral hline hshort.1]
  rfl

theorem target?_lineOnly_eq_some_iff {file line : List Char} {n : Nat} (hline : IsNumeral line)
    (hfile : ¬ EndsInNumeral file) (hshort : line.length ≤ digitLimit) :
    target? (file ++ ':' :: line) = .ok (some n) ↔
      InRange (Decimal.value line) ∧ Decimal.value line = n := by
  rw [target?_lineOnly hline hfile hshort, ← checkLine_eq_ok_iff]
  cases checkLine (Decimal.value line) <;> simp

theorem target?_lineAndColumn_eq_some_iff {file line column : List Char} {n : Nat}
    (hline : IsNumeral line) (hcolumn : IsNumeral column)
    (hshort : line.length ≤ digitLimit ∧ column.length ≤ digitLimit) :
    target? (file ++ ':' :: (line ++ ':' :: column)) = .ok (some n) ↔
      InRange (Decimal.value column) ∧ InRange (Decimal.value line) ∧ Decimal.value line = n := by
  rw [target?_lineAndColumn hline hcolumn hshort, ← checkLine_eq_ok_iff]
  by_cases hrange : InRange (Decimal.value column)
  · rw [checkColumn_eq_ok_iff.mpr ⟨hrange, rfl⟩]
    cases checkLine (Decimal.value line) <;> simp [hrange, bind, Except.bind]
  · cases hcheck : checkColumn (Decimal.value column) with
    | error fault => simp [hrange, bind, Except.bind]
    | ok c => exact absurd (checkColumn_eq_ok_iff.mp hcheck).1 hrange

/-- The shapes of a text: it has no colon, or its last colon is not followed by a number, or it is
`file:line` or `file:line:column`. -/
theorem shape_cases (cs : List Char) :
    ':' ∉ cs ∨
      (∃ file last, cs = file ++ ':' :: last ∧ ':' ∉ last ∧ ¬ IsNumeral last) ∨
      (∃ file line, cs = file ++ ':' :: line ∧ IsNumeral line ∧ ¬ EndsInNumeral file) ∨
      ∃ file line column, cs = file ++ ':' :: (line ++ ':' :: column) ∧ IsNumeral line ∧
        IsNumeral column := by
  by_cases hcolon : ':' ∈ cs
  · obtain ⟨before, last, rfl, hlast⟩ := exists_last_colon hcolon
    by_cases hnumeral : IsNumeral last
    · by_cases hbefore : EndsInNumeral before
      · obtain ⟨file, line, rfl, hline⟩ := hbefore
        exact .inr (.inr (.inr ⟨file, line, last, by simp, hline, hnumeral⟩))
      · exact .inr (.inr (.inl ⟨before, last, rfl, hnumeral, hbefore⟩))
    · exact .inr (.inl ⟨before, last, rfl, hlast, hnumeral⟩)
  · exact .inl hcolon

namespace ShortRuns

variable {file line column : List Char}

theorem length_line (h : ShortRuns (file ++ ':' :: line)) (hline : IsNumeral line) :
    line.length ≤ digitLimit :=
  h line ⟨file ++ [':'], [], by simp⟩ hline.2

theorem length_lineAndColumn (h : ShortRuns (file ++ ':' :: (line ++ ':' :: column)))
    (hline : IsNumeral line) (hcolumn : IsNumeral column) :
    line.length ≤ digitLimit ∧ column.length ≤ digitLimit :=
  ⟨h line ⟨file ++ [':'], ':' :: column, by simp⟩ hline.2,
    h column ⟨file ++ ':' :: (line ++ [':']), [], by simp⟩ hcolumn.2⟩

end ShortRuns

theorem target?_eq_some_iff {cs : List Char} (h : ShortRuns cs) {n : Nat} :
    target? cs = .ok (some n) ↔ Names cs n := by
  constructor
  · intro hok
    rcases shape_cases cs with hcolon | ⟨file, last, rfl, hlast, hnot⟩ |
      ⟨file, line, rfl, hline, hfile⟩ | ⟨file, line, column, rfl, hline, hcolumn⟩
    · rw [target?_of_no_colon hcolon] at hok
      cases hok
    · rw [target?_of_not_numeral hlast hnot] at hok
      cases hok
    · obtain ⟨hrange, rfl⟩ :=
        (target?_lineOnly_eq_some_iff hline hfile (h.length_line hline)).mp hok
      exact .lineOnly hline hfile hrange
    · have hshort := h.length_lineAndColumn hline hcolumn
      obtain ⟨hcolumnRange, hlineRange, rfl⟩ :=
        (target?_lineAndColumn_eq_some_iff hline hcolumn hshort).mp hok
      exact .lineAndColumn hline hcolumn hcolumnRange hlineRange
  · intro hnames
    cases hnames with
    | lineAndColumn hline hcolumn hcolumnRange hlineRange =>
      have hshort := h.length_lineAndColumn hline hcolumn
      exact (target?_lineAndColumn_eq_some_iff hline hcolumn hshort).mpr
        ⟨hcolumnRange, hlineRange, rfl⟩
    | lineOnly hline hfile hlineRange =>
      exact (target?_lineOnly_eq_some_iff hline hfile (h.length_line hline)).mpr ⟨hlineRange, rfl⟩

theorem target?_eq_none_iff {cs : List Char} (h : ShortRuns cs) :
    target? cs = .ok none ↔ ':' ∉ cs := by
  refine ⟨fun hok => ?_, target?_of_no_colon⟩
  rcases shape_cases cs with hcolon | ⟨file, last, rfl, hlast, hnot⟩ |
    ⟨file, line, rfl, hline, hfile⟩ | ⟨file, line, column, rfl, hline, hcolumn⟩
  · exact hcolon
  · rw [target?_of_not_numeral hlast hnot] at hok
    cases hok
  · rw [target?_lineOnly hline hfile (h.length_line hline)] at hok
    obtain ⟨n, -, hsome⟩ := exists_of_map_ok hok
    cases hsome
  · rw [target?_lineAndColumn hline hcolumn (h.length_lineAndColumn hline hcolumn)] at hok
    obtain ⟨-, -, hok⟩ := exists_of_bind_ok hok
    obtain ⟨n, -, hsome⟩ := exists_of_map_ok hok
    cases hsome

/-- What has a colon and names nothing is malformed. -/
theorem exists_target?_error_iff {cs : List Char} (h : ShortRuns cs) :
    (∃ fault, target? cs = .error fault) ↔ ':' ∈ cs ∧ ∀ n, ¬ Names cs n := by
  constructor
  · rintro ⟨fault, hfault⟩
    constructor
    · by_contra hcolon
      rw [target?_of_no_colon hcolon] at hfault
      cases hfault
    · intro n hnames
      rw [(target?_eq_some_iff h).mpr hnames] at hfault
      cases hfault
  · rintro ⟨hcolon, hnames⟩
    cases htarget : target? cs with
    | error fault => exact ⟨fault, rfl⟩
    | ok result =>
      cases result with
      | none => exact absurd hcolon ((target?_eq_none_iff h).mp htarget)
      | some n => exact absurd ((target?_eq_some_iff h).mp htarget) (hnames n)

/-! ## The opening -/

theorem isOpened_iff {cs : List Char} : isOpened cs = true ↔ ∃ target, Opens cs target := by
  rw [isOpened, openings, List.any_cons, List.any_cons, List.any_nil, Bool.or_false,
    Bool.or_eq_true, List.isPrefixOf_iff_prefix, List.isPrefixOf_iff_prefix]
  constructor
  · rintro (⟨rest, rfl⟩ | ⟨rest, rfl⟩)
    · exact ⟨rest, .line rest⟩
    · exact ⟨rest.rdrop 2, .block rest⟩
  · rintro ⟨target, hopens⟩
    cases hopens with
    | line => exact .inl (List.prefix_append _ _)
    | block => exact .inr (List.prefix_append _ _)

theorem Opens.payload_eq {cs target : List Char} (h : Opens cs target) : payload cs = target := by
  cases h with
  | line rest => rfl
  | block rest =>
    -- The last two characters are dropped before the opening is, and may be the opening's own.
    show (("/*line ".toList ++ rest).dropLast.dropLast).drop 7 = rest.rdrop 2
    have hdrop : ("/*line ".toList ++ rest).drop 7 = rest := rfl
    have hopening : "/*line ".toList.length = 7 := rfl
    rw [List.dropLast_eq_take, List.dropLast_eq_take, List.take_take, List.drop_take, hdrop,
      List.rdrop]
    congr 1
    simp only [List.length_take, List.length_append]
    omega

theorem Opens.isInfix {cs target : List Char} (h : Opens cs target) : target <:+: cs := by
  cases h with
  | line rest => exact (List.suffix_append _ _).isInfix
  | block rest =>
    have htake : rest.rdrop 2 <+: rest := List.take_prefix _ rest
    exact htake.isInfix.trans (List.suffix_append _ _).isInfix

theorem named?_of_opens {text : String} {target : List Char} (h : Opens text.toList target) :
    named? text = target? target := by
  rw [named?, if_pos (isOpened_iff.mpr ⟨target, h⟩), h.payload_eq]

theorem named?_of_not_opens {text : String} (h : ¬ ∃ target, Opens text.toList target) :
    named? text = .ok none :=
  if_neg fun hopened => h (isOpened_iff.mp hopened)

/-- A comment that opens a directive is read as what it says, and any other names nothing. -/
theorem named?_eq_iff {text : String} {result : Except Fault (Option Nat)} :
    named? text = result ↔ (∃ target, Opens text.toList target ∧ target? target = result) ∨
      (¬ ∃ target, Opens text.toList target) ∧ result = .ok none := by
  constructor
  · rintro rfl
    by_cases hopened : ∃ target, Opens text.toList target
    · obtain ⟨target, hopens⟩ := hopened
      exact .inl ⟨target, hopens, (named?_of_opens hopens).symm⟩
    · exact .inr ⟨hopened, named?_of_not_opens hopened⟩
  · rintro (⟨target, hopens, rfl⟩ | ⟨hopened, rfl⟩)
    · exact named?_of_opens hopens
    · exact named?_of_not_opens hopened

theorem named?_eq_none_iff {text : String} (h : ShortRuns text.toList) :
    named? text = .ok none ↔ (¬ ∃ target, Opens text.toList target) ∨
      ∃ target, Opens text.toList target ∧ ':' ∉ target := by
  rw [named?_eq_iff]
  constructor
  · rintro (⟨target, hopens, htarget⟩ | ⟨hopened, -⟩)
    · exact .inr ⟨target, hopens, (target?_eq_none_iff (h.of_part hopens.isInfix)).mp htarget⟩
    · exact .inl hopened
  · rintro (hopened | ⟨target, hopens, hcolon⟩)
    · exact .inr ⟨hopened, rfl⟩
    · exact .inl ⟨target, hopens, target?_of_no_colon hcolon⟩

theorem named?_eq_some_iff {text : String} (h : ShortRuns text.toList) {n : Nat} :
    named? text = .ok (some n) ↔ ∃ target, Opens text.toList target ∧ Names target n := by
  rw [named?_eq_iff]
  constructor
  · rintro (⟨target, hopens, htarget⟩ | ⟨-, hnone⟩)
    · exact ⟨target, hopens, (target?_eq_some_iff (h.of_part hopens.isInfix)).mp htarget⟩
    · cases hnone
  · rintro ⟨target, hopens, hnames⟩
    exact .inl ⟨target, hopens, (target?_eq_some_iff (h.of_part hopens.isInfix)).mpr hnames⟩

theorem exists_named?_error_iff {text : String} (h : ShortRuns text.toList) :
    (∃ fault, named? text = .error fault) ↔
      ∃ target, Opens text.toList target ∧ ':' ∈ target ∧ ∀ n, ¬ Names target n := by
  constructor
  · rintro ⟨fault, hfault⟩
    rcases named?_eq_iff.mp hfault with ⟨target, hopens, htarget⟩ | ⟨-, hnone⟩
    · have hshort := h.of_part hopens.isInfix
      exact ⟨target, hopens, (exists_target?_error_iff hshort).mp ⟨fault, htarget⟩⟩
    · cases hnone
  · rintro ⟨target, hopens, hmalformed⟩
    have hshort := h.of_part hopens.isInfix
    obtain ⟨fault, htarget⟩ := (exists_target?_error_iff hshort).mpr hmalformed
    exact ⟨fault, (named?_of_opens hopens).trans htarget⟩

/-! ## Directives as they are written -/

theorem length_digits_le_digitLimit {n : Nat} (h : InRange n) :
    (Decimal.digits n).length ≤ digitLimit := by
  have hten : n < 10 ^ 10 := by
    have := h.2
    omega
  have hlength := Decimal.length_digits_le (by decide) hten
  have hlimit : digitLimit = 4300 := rfl
  omega

theorem toList_text (n : Nat) : (Decimal.text n).toList = Decimal.digits n := by
  rw [Decimal.text, String.toList_ofList, Decimal.chars, if_neg (by omega), Int.natAbs_natCast]

theorem named?_lineAndColumn (file : String) {line column : Nat} (hline : InRange line)
    (hcolumn : InRange column) :
    named? ("//line " ++ file ++ ":" ++ Decimal.text line ++ ":" ++ Decimal.text column) =
      .ok (some line) := by
  have hopens : Opens ("//line " ++ file ++ ":" ++ Decimal.text line ++ ":" ++
      Decimal.text column).toList
      (file.toList ++ ':' :: (Decimal.digits line ++ ':' :: Decimal.digits column)) := by
    simp only [String.toList_append, toList_text, List.append_assoc]
    exact .line _
  rw [named?_of_opens hopens, target?_lineAndColumn_eq_some_iff (isNumeral_digits line)
    (isNumeral_digits column)
    ⟨length_digits_le_digitLimit hline, length_digits_le_digitLimit hcolumn⟩,
    Decimal.value_digits, Decimal.value_digits]
  exact ⟨hcolumn, hline, rfl⟩

theorem named?_lineOnly {file : String} (hfile : ¬ EndsInNumeral file.toList) {line : Nat}
    (hline : InRange line) :
    named? ("//line " ++ file ++ ":" ++ Decimal.text line) = .ok (some line) := by
  have hopens : Opens ("//line " ++ file ++ ":" ++ Decimal.text line).toList
      (file.toList ++ ':' :: Decimal.digits line) := by
    simp only [String.toList_append, toList_text, List.append_assoc]
    exact .line _
  rw [named?_of_opens hopens, target?_lineOnly_eq_some_iff (isNumeral_digits line) hfile
    (length_digits_le_digitLimit hline), Decimal.value_digits]
  exact ⟨hline, rfl⟩

/-- A comment without long runs of digits is no directive, or names a line, or is malformed, just as
the grammar says: it is no directive if it opens none or says nothing with a colon, it names what
its text names, and it is malformed in every other case. So a written `file:line:column` names its
line, and so does `file:line` if the file does not end in a number of its own. -/
theorem reading_follows_grammar :
    (∀ text : String, ShortRuns text.toList →
      (named? text = .ok none ↔ (¬ ∃ target, Opens text.toList target) ∨
        ∃ target, Opens text.toList target ∧ ':' ∉ target) ∧
      (∀ n, named? text = .ok (some n) ↔ ∃ target, Opens text.toList target ∧ Names target n) ∧
      ((∃ fault, named? text = .error fault) ↔
        ∃ target, Opens text.toList target ∧ ':' ∈ target ∧ ∀ n, ¬ Names target n)) ∧
    ∀ (file : String) (line : Nat), InRange line →
      (∀ column, InRange column →
        named? ("//line " ++ file ++ ":" ++ Decimal.text line ++ ":" ++ Decimal.text column) =
          .ok (some line)) ∧
      (¬ EndsInNumeral file.toList →
        named? ("//line " ++ file ++ ":" ++ Decimal.text line) = .ok (some line)) := by
  refine ⟨fun text hshort => ⟨named?_eq_none_iff hshort, fun n => named?_eq_some_iff hshort,
    exists_named?_error_iff hshort⟩, fun file line hline => ⟨fun column hcolumn => ?_,
    fun hfile => ?_⟩⟩
  · exact named?_lineAndColumn file hline hcolumn
  · exact named?_lineOnly hfile hline

/-- A file on a drive, with a colon that no number follows. -/
theorem driveFile_named :
    ShortRuns "//line C:\\gen.go:5".toList ∧ ¬ EndsInNumeral "C:\\gen.go".toList ∧
      named? "//line C:\\gen.go:5" = .ok (some 5) ∧
      named? ("//line " ++ "C:\\gen.go" ++ ":" ++ Decimal.text 5) = .ok (some 5) ∧
      named? ("//line " ++ "C:\\gen.go" ++ ":" ++ Decimal.text 5 ++ ":" ++ Decimal.text 9) =
        .ok (some 5) := by
  have hshort : ShortRuns "//line C:\\gen.go:5".toList := fun run hrun _ =>
    hrun.length_le.trans (by decide)
  have hfile : ¬ EndsInNumeral "C:\\gen.go".toList := by
    rw [show "C:\\gen.go".toList = ['C'] ++ ':' :: "\\gen.go".toList from rfl,
      endsInNumeral_append_iff (by decide), ← isNumber_iff]
    decide
  have hline : Names ("C:\\gen.go".toList ++ ':' :: ['5']) 5 :=
    .lineOnly (isNumber_iff.mp (by decide)) hfile (by decide)
  have hwritten := reading_follows_grammar.2 "C:\\gen.go" 5 (by decide)
  exact ⟨hshort, hfile, ((reading_follows_grammar.1 _ hshort).2.1 5).mpr ⟨_, .line _, hline⟩,
    hwritten.2 hfile, hwritten.1 9 (by decide)⟩

end GoMeter.Directive
