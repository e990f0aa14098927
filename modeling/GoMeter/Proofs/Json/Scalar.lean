import GoMeter.Json.Reader
import GoMeter.Json.Writer
import GoMeter.Proofs.Number.Decimal

/-!
# Scalars in JSON

A scalar that was written is read back, whatever follows it in the text; only after an integer the text
must not go on like a number.

* `Json.stringRest_escape`: a character of a string, plain, escaped, or as one or two UTF-16 units.
* `Json.string?_escaped`: a string.
* `Json.scalar_chars`: an integer whose digits are within the limit.
-/

namespace GoMeter.Json

/-! ## Characters and their UTF-16 units -/

theorem hexValue?_hexDigit {d : Nat} (h : d < 16) : hexValue? (hexDigit d) = some d := by
  interval_cases d <;> rfl

/-- A unit is read back from its four digits. -/
theorem hex4?_hex4 {n : Nat} (h : n < 0x10000) (rest : List Char) :
    hex4? (hex4 n ++ rest) = some (n, rest) := by
  have hdigit (m : Nat) : hexValue? (hexDigit (m % 16)) = some (m % 16) :=
    hexValue?_hexDigit (Nat.mod_lt m (by decide))
  simp only [hex4, List.cons_append, List.nil_append, hex4?, hdigit, Option.some.injEq, Prod.mk.injEq,
    and_true]
  omega

/-- A character is no half of a pair. -/
theorem toNat_not_surrogate (c : Char) :
    c.toNat < 0xd800 ∨ 0xe000 ≤ c.toNat ∧ c.toNat < 0x110000 := by
  have hvalid : c.toNat < 0xd800 ∨ 0xdfff < c.toNat ∧ c.toNat < 0x110000 := c.valid
  omega

/-- A character that has one unit. -/
theorem unicodeEscape?_one (c : Char) (h : c.toNat < 0x10000) (rest : List Char) :
    unicodeEscape? (hex4 c.toNat ++ rest) = some (c, rest) := by
  have hrange := toNat_not_surrogate c
  rw [unicodeEscape?, hex4?_hex4 h]
  simp only [loneUnit, Char.ofNat_toNat]
  rw [if_neg (by omega), if_neg (by omega)]

/-- Two units that form a pair. -/
theorem unicodeEscape?_pair {high low : Nat} (hhigh : 0xd800 ≤ high ∧ high < 0xdc00)
    (hlow : 0xdc00 ≤ low ∧ low < 0xe000) (rest : List Char) :
    unicodeEscape? (hex4 high ++ (escapeUnit low ++ rest)) =
      some (Char.ofNat (0x10000 + (high - 0xd800) * 0x400 + (low - 0xdc00)), rest) := by
  rw [unicodeEscape?, hex4?_hex4 (by omega)]
  simp only [escapeUnit, List.cons_append, hex4?_hex4 (show low < 0x10000 by omega), if_pos hhigh,
    if_pos hlow]

/-- A character that has two units. -/
theorem unicodeEscape?_two (c : Char) (h : 0x10000 ≤ c.toNat) (rest : List Char) :
    unicodeEscape? (hex4 (0xd800 + (c.toNat - 0x10000) / 0x400) ++
      (escapeUnit (0xdc00 + (c.toNat - 0x10000) % 0x400) ++ rest)) = some (c, rest) := by
  have hrange := toNat_not_surrogate c
  have hpair : 0x10000 + (0xd800 + (c.toNat - 0x10000) / 0x400 - 0xd800) * 0x400 +
      (0xdc00 + (c.toNat - 0x10000) % 0x400 - 0xdc00) = c.toNat := by omega
  rw [unicodeEscape?_pair (by omega) (by omega), hpair, Char.ofNat_toNat]

/-! ## Strings -/

theorem stringRest_unicode {fuel : Nat} {cs rest : List Char} {c : Char}
    (h : unicodeEscape? cs = some (c, rest)) :
    stringRest (fuel + 1) ('\\' :: 'u' :: cs) =
      (stringRest fuel rest).map fun (s, r) => (c :: s, r) := by
  rw [stringRest, h]

theorem stringRest_simple {fuel : Nat} {e c : Char} (h : simpleEscape? e = some c)
    (rest : List Char) :
    stringRest (fuel + 1) ('\\' :: e :: rest) =
      (stringRest fuel rest).map fun (s, r) => (c :: s, r) := by
  have hne : e ≠ 'u' := by
    rintro rfl
    cases h
  rw [stringRest.eq_def]
  split <;> simp_all

theorem stringRest_plain {fuel : Nat} {c : Char} (hlow : 0x20 ≤ c.toNat) (hquote : c ≠ '"')
    (hslash : c ≠ '\\') (rest : List Char) :
    stringRest (fuel + 1) (c :: rest) = (stringRest fuel rest).map fun (s, r) => (c :: s, r) := by
  rw [stringRest.eq_def]
  split <;> simp_all

/-- A character of a string is read back from the way it is written. -/
theorem stringRest_escape (fuel : Nat) (c : Char) (rest : List Char) :
    stringRest (fuel + 1) (escape c ++ rest) =
      (stringRest fuel rest).map fun (s, r) => (c :: s, r) := by
  unfold escape
  split
  -- Seven characters have an escape of one letter; any other is plain or goes by its units.
  case h_8 hquote hslash _ _ _ _ _ =>
    simp only
    split
    case isTrue hplain => exact stringRest_plain hplain.1 hquote hslash rest
    split
    · exact stringRest_unicode (unicodeEscape?_one c ‹_› rest)
    · rw [List.append_assoc]
      exact stringRest_unicode (unicodeEscape?_two c (by omega) rest)
  all_goals exact stringRest_simple rfl rest

/-- The characters of a string are read back, with as much fuel as there are characters. -/
theorem stringRest_flatMap_escape {fuel : Nat} {s : List Char} (h : s.length < fuel)
    (rest : List Char) :
    stringRest fuel (s.flatMap escape ++ '"' :: rest) = some (s, rest) := by
  induction s generalizing fuel with
  | nil =>
    obtain ⟨fuel, rfl⟩ := Nat.exists_eq_add_one.mpr h
    rfl
  | cons c s ih =>
    obtain ⟨fuel, rfl⟩ := Nat.exists_eq_add_one.mpr (Nat.lt_of_le_of_lt (Nat.zero_le _) h)
    rw [List.flatMap_cons, List.append_assoc, stringRest_escape, ih (by simpa using h)]
    rfl

theorem escape_ne_nil (c : Char) : escape c ≠ [] := by
  unfold escape escapeUnit
  grind

theorem length_le_flatMap_escape (s : List Char) : s.length ≤ (s.flatMap escape).length := by
  induction s with
  | nil => simp
  | cons c s ih =>
    have hpos := List.length_pos_iff.mpr (escape_ne_nil c)
    simp only [List.length_cons, List.flatMap_cons, List.length_append]
    omega

/-- A string is read back from the way it is written. -/
theorem string?_escaped (s rest : List Char) :
    string? (s.flatMap escape ++ '"' :: rest) = some (s, rest) := by
  -- An escape is never shorter than its character, so the length of the text is enough fuel.
  have hlength := length_le_flatMap_escape s
  exact stringRest_flatMap_escape (by simp only [List.length_append]; omega) rest

/-! ## Integers -/

/-- A character with which a number may go on. -/
def ExtendsNumber (c : Char) : Prop := c.isDigit = true ∨ c = '.' ∨ c = 'e' ∨ c = 'E'

instance : DecidablePred ExtendsNumber := fun c =>
  inferInstanceAs (Decidable (c.isDigit = true ∨ c = '.' ∨ c = 'e' ∨ c = 'E'))

/-- A text does not go on like a number. -/
def EndsNumber (rest : List Char) : Prop := ∀ c ∈ rest.head?, ¬ ExtendsNumber c

theorem endsNumber_nil : EndsNumber [] := fun _ hc => by cases hc

theorem endsNumber_cons {c : Char} (h : ¬ ExtendsNumber c) (cs : List Char) :
    EndsNumber (c :: cs) := by
  intro d hd
  obtain rfl : c = d := by simpa using hd
  exact h

theorem takeDigits_append {ds rest : List Char} (hds : ∀ c ∈ ds, c.isDigit = true)
    (hrest : EndsNumber rest) : takeDigits (ds ++ rest) = (ds, rest) := by
  have hend : rest.takeWhile Char.isDigit = [] ∧ rest.dropWhile Char.isDigit = rest := by
    cases rest with
    | nil => simp
    | cons c rest =>
      have hc : c.isDigit = false := by simpa using fun hd => hrest c rfl (.inl hd)
      simp [hc]
  rw [takeDigits, List.takeWhile_append_of_pos hds, List.dropWhile_append_of_pos hds, hend.1, hend.2,
    List.append_nil]

/-- The digits of a number are taken whole: zero is one digit, and any other number starts with
another. -/
theorem wholePart?_digits (n : Nat) {rest : List Char} (hrest : EndsNumber rest) :
    wholePart? (Decimal.digits n ++ rest) = some (Decimal.digits n, rest) := by
  rcases Nat.eq_zero_or_pos n with rfl | hpos
  · rw [Decimal.digits_of_lt_ten (by decide)]
    rfl
  · have htake := takeDigits_append (fun _ => Decimal.isDigit_of_mem_digits (n := n)) hrest
    have hhead := Decimal.head?_digits_ne_zero hpos
    obtain ⟨c, cs, hdigits⟩ := List.exists_cons_of_ne_nil (Decimal.digits_ne_nil n)
    rw [hdigits] at htake hhead ⊢
    rw [wholePart?.eq_def]
    split <;> simp_all

theorem fraction_of_endsNumber {rest : List Char} (h : EndsNumber rest) :
    fraction rest = ([], rest) := by
  unfold fraction
  split
  · exact absurd (by decide) (h '.' rfl)
  · rfl

theorem exponent_of_endsNumber {rest : List Char} (h : EndsNumber rest) :
    exponent rest = (none, rest) := by
  cases rest with
  | nil => rfl
  | cons c rest =>
    have hc : ¬ (c = 'e' ∨ c = 'E') := fun he => h c rfl (.inr (.inr he))
    simp [exponent, hc]

theorem numberRest_digits (negative : Bool) {n : Nat} (hn : (Decimal.digits n).length ≤ digitLimit)
    {rest : List Char} (hrest : EndsNumber rest) :
    numberRest negative (Decimal.digits n ++ rest) =
      .ok (.int (if negative then -(n : Int) else n), rest) := by
  simp [numberRest, wholePart?_digits n hrest, fraction_of_endsNumber hrest,
    exponent_of_endsNumber hrest, Nat.not_lt.mpr hn]

theorem ne_of_isDigit {c d : Char} (hc : c.isDigit = true) (hd : d.isDigit = false) : d ≠ c := by
  rintro rfl
  simp_all

/-- No word starts with a digit. -/
theorem word?_of_isDigit {c : Char} (hc : c.isDigit = true) (cs : List Char) :
    word? (c :: cs) = none := by
  simp [word?, words, ne_of_isDigit hc]

/-- The only word that starts with a minus sign does not go on with a digit. -/
theorem word?_minus {c : Char} (hc : c.isDigit = true) (cs : List Char) :
    word? ('-' :: c :: cs) = none := by
  simp [word?, words, ne_of_isDigit hc]

/-- A number without a sign. -/
theorem scalar_digits {n : Nat} (hn : (Decimal.digits n).length ≤ digitLimit) {rest : List Char}
    (hrest : EndsNumber rest) : scalar (Decimal.digits n ++ rest) = .ok (.int n, rest) := by
  have hread := numberRest_digits false hn hrest
  obtain ⟨c, cs, hdigits⟩ := List.exists_cons_of_ne_nil (Decimal.digits_ne_nil n)
  have hc : c.isDigit = true := Decimal.isDigit_of_mem_digits (hdigits ▸ List.mem_cons_self)
  have hquote : '"' ≠ c := ne_of_isDigit hc rfl
  have hminus : '-' ≠ c := ne_of_isDigit hc rfl
  rw [hdigits, List.cons_append] at hread ⊢
  unfold scalar
  split
  · simp_all
  · rw [word?_of_isDigit hc]
    simp only
    split <;> simp_all

/-- A number after a minus sign. -/
theorem scalar_minus {n : Nat} (hn : (Decimal.digits n).length ≤ digitLimit) {rest : List Char}
    (hrest : EndsNumber rest) :
    scalar ('-' :: Decimal.digits n ++ rest) = .ok (.int (-n), rest) := by
  have hread := numberRest_digits true hn hrest
  obtain ⟨c, cs, hdigits⟩ := List.exists_cons_of_ne_nil (Decimal.digits_ne_nil n)
  have hc : c.isDigit = true := Decimal.isDigit_of_mem_digits (hdigits ▸ List.mem_cons_self)
  rw [hdigits, List.cons_append] at hread
  simpa [hdigits, scalar, word?_minus hc] using hread

/-- An integer is read back from the way it is written. -/
theorem scalar_chars {n : Int} (hn : (Decimal.digits n.natAbs).length ≤ digitLimit)
    {rest : List Char} (hrest : EndsNumber rest) :
    scalar (Decimal.chars n ++ rest) = .ok (.int n, rest) := by
  unfold Decimal.chars
  split
  · have hvalue : -(n.natAbs : Int) = n := by omega
    rw [scalar_minus hn hrest, hvalue]
  · have hvalue : (n.natAbs : Int) = n := by omega
    rw [scalar_digits hn hrest, hvalue]

end GoMeter.Json
