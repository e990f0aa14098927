import GoMeter.Config.Load

/-!
# Text files in ASCII

A text of printable ASCII characters and line feeds is what a file with its bytes is read as, whatever
is done about line ends.

* `Text.IsLegible`: the characters of such a text.
* `Config.textOf_toUTF8`: the text of the bytes of a text.
-/

namespace GoMeter

namespace Text

/-- A printable character of ASCII or a line feed. -/
def IsLegible (c : Char) : Prop := c = '\n' ∨ 0x20 ≤ c.toNat ∧ c.toNat ≤ 0x7e

instance : DecidablePred IsLegible := fun c =>
  inferInstanceAs (Decidable (c = '\n' ∨ 0x20 ≤ c.toNat ∧ c.toNat ≤ 0x7e))

/-- The characters of a literal text can be looked at one by one. -/
theorem forall_isLegible_of_all {cs : List Char} (h : cs.all (fun c => decide (IsLegible c)) = true) :
    ∀ c ∈ cs, IsLegible c := by
  intro c hc
  exact of_decide_eq_true (List.all_eq_true.mp h c hc)

theorem IsLegible.toNat_lt {c : Char} (h : IsLegible c) : c.toNat < 0x80 := by
  rcases h with rfl | h
  · decide
  · omega

theorem IsLegible.ne_return {c : Char} (h : IsLegible c) : c ≠ '\r' := by
  rintro rfl
  exact absurd h (by decide)

/-- A text without returns has its line ends in order. -/
theorem unifyLines_of_forall_ne {cs : List Char} (h : ∀ c ∈ cs, c ≠ '\r') : unifyLines cs = cs := by
  induction cs with
  | nil => rfl
  | cons c cs ih =>
    have hc : c ≠ '\r' := h c List.mem_cons_self
    rw [unifyLines.eq_def]
    split <;> simp_all

end Text

namespace Utf8

/-- The bytes of ASCII characters. -/
theorem toUTF8_ofList {cs : List Char} (h : ∀ c ∈ cs, c.toNat < 0x80) :
    (String.ofList cs).toUTF8.data.toList = cs.map Char.toUInt8 := by
  simp only [String.toUTF8_eq_toByteArray, String.toByteArray_ofList, List.utf8Encode,
    List.data_toByteArray, List.toList_toArray]
  induction cs with
  | nil => rfl
  | cons c cs ih =>
    have hsize : c.utf8Size = 1 := by
      rw [Char.utf8Size_eq_one_iff, UInt32.le_iff_toNat_le]
      exact Nat.le_of_lt_succ (h c List.mem_cons_self)
    rw [List.flatMap_cons, String.utf8EncodeChar_eq_singleton hsize,
      ih fun d hd => h d (List.mem_cons_of_mem c hd)]
    rfl

/-- A byte of ASCII is a character. -/
theorem first_ascii {c : Char} (h : c.toNat < 0x80) (rest : List UInt8) :
    first c.toUInt8 rest = (some c, 0) := by
  have hbyte : c.toUInt8.toNat = c.toNat := Nat.mod_eq_of_lt (show c.toNat < 2 ^ 8 by omega)
  have hlow : c.toUInt8 < 0x80 := by
    rw [UInt8.lt_iff_toNat_lt, hbyte]
    exact h
  rw [first, if_pos hlow, hbyte, Char.ofNat_toNat]

/-- ASCII characters are read back from their bytes. -/
theorem mapM_char?_glyphs {cs : List Char} (h : ∀ c ∈ cs, c.toNat < 0x80) (offset : Nat) :
    (glyphs offset (cs.map Char.toUInt8)).mapM Glyph.char? = some cs := by
  induction cs generalizing offset with
  | nil => simp [glyphs]
  | cons c cs ih =>
    rw [List.map_cons, glyphs, first_ascii (h c List.mem_cons_self)]
    simp [ih fun d hd => h d (List.mem_cons_of_mem c hd)]

end Utf8

/-- A text of printable ASCII characters and line feeds is the text of its bytes. -/
theorem Config.textOf_toUTF8 {cs : List Char} (h : ∀ c ∈ cs, Text.IsLegible c) :
    Config.textOf (String.ofList cs).toUTF8.data = .ok cs := by
  have hascii : ∀ c ∈ cs, c.toNat < 0x80 := fun c hc => (h c hc).toNat_lt
  have hdecode : Utf8.decode? (String.ofList cs).toUTF8.data.toList = some (String.ofList cs) := by
    rw [Utf8.decode?, Utf8.toUTF8_ofList hascii, Utf8.mapM_char?_glyphs hascii]
    rfl
  rw [Config.textOf, hdecode]
  simp only [String.toList_ofList, Text.unifyLines_of_forall_ne fun c hc => (h c hc).ne_return]

end GoMeter
