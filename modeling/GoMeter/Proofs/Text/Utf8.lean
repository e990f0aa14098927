import GoMeter.Proofs.Text.Ascii
import GoMeter.Source
import Mathlib.Data.List.Infix
import Mathlib.Tactic.Ring
import Mathlib.Tactic.SplitIfs

/-!
# ASCII in text that may be malformed

Bytes are read as text even where they are not well formed, and then replacement characters stand in
the text. None of them is an ASCII character, nor is any character of several bytes, so ASCII text
is seen in the decoded text only where its bytes stand.

* `Utf8.tails_bounds`: the range of the value that continuation bytes complete.
* `Utf8.isValidChar_of_lead?`: a lead byte and its continuation bytes spell a character beyond
  ASCII.
* `Utf8.prefix_of_prefix_decode`: what a decoded text starts with, as far as it is ASCII, its bytes
  do.
* `occursIn_iff`, `Source.contains_of_prefix_text`: so ASCII text at the start of a part of a source
  occurs in its bytes.
-/

namespace GoMeter

namespace Utf8

/-! ## Characters of several bytes -/

/-- Continuation bytes add six bits each. -/
theorem tails_bounds {owed value taken total count : Nat} {bytes : List UInt8}
    (h : tails owed 0x80 0xBF value taken bytes = (total, count, true)) :
    value * 64 ^ owed ≤ total ∧ total < (value + 1) * 64 ^ owed := by
  induction owed generalizing value taken bytes with
  | zero =>
    rw [tails] at h
    cases h
    simp
  | succ owed ih =>
    cases bytes with
    | nil => simp [tails] at h
    | cons b rest =>
      rw [tails] at h
      split_ifs at h with hrange
      · obtain ⟨hlow, hhigh⟩ := ih h
        have hb : b.toNat - 0x80 ≤ 63 := by
          have := UInt8.le_iff_toNat_le.mp hrange.2
          simp only [UInt8.reduceToNat] at this
          omega
        constructor
        · calc value * 64 ^ (owed + 1) = value * 64 * 64 ^ owed := by ring
            _ ≤ (value * 64 + (b.toNat - 0x80)) * 64 ^ owed := Nat.mul_le_mul_right _ (by omega)
            _ ≤ total := hlow
        · calc total < (value * 64 + (b.toNat - 0x80) + 1) * 64 ^ owed := hhigh
            _ ≤ (value + 1) * 64 * 64 ^ owed := Nat.mul_le_mul_right _ (by omega)
            _ = (value + 1) * 64 ^ (owed + 1) := by ring
      · simp at h

/-- The first continuation byte may be restricted further. -/
theorem tails_bounds_of_restricted {owed value taken total count : Nat} {low high : UInt8}
    {bytes : List UInt8} (h : tails (owed + 1) low high value taken bytes = (total, count, true)) :
    (value * 64 + (low.toNat - 0x80)) * 64 ^ owed ≤ total ∧
      total < (value * 64 + (high.toNat - 0x80) + 1) * 64 ^ owed := by
  cases bytes with
  | nil => simp [tails] at h
  | cons b rest =>
    rw [tails] at h
    split_ifs at h with hrange
    · obtain ⟨hlow, hhigh⟩ := tails_bounds h
      have hb : low.toNat ≤ b.toNat ∧ b.toNat ≤ high.toNat :=
        ⟨UInt8.le_iff_toNat_le.mp hrange.1, UInt8.le_iff_toNat_le.mp hrange.2⟩
      constructor
      · exact (Nat.mul_le_mul_right _ (by omega)).trans hlow
      · exact hhigh.trans_le (Nat.mul_le_mul_right _ (by omega))
    · simp at h

/-- A lead byte and the continuation bytes it announces spell a character beyond ASCII. -/
theorem isValidChar_of_lead? {b : UInt8} {l : Lead} {value count : Nat} {rest : List UInt8}
    (hlead : lead? b = some l)
    (h : tails l.owed l.low l.high l.bits 0 rest = (value, count, true)) :
    0x80 ≤ value ∧ value.isValidChar := by
  simp only [lead?, UInt8.lt_iff_toNat_lt, UInt8.le_iff_toNat_le, UInt8.ext_iff,
    UInt8.reduceToNat] at hlead
  unfold Nat.isValidChar
  -- One case for each row of the table of lead bytes; no row reaches ASCII or the surrogates.
  split_ifs at hlead <;> cases hlead <;>
    have hbounds := tails_bounds_of_restricted h <;>
    simp only [UInt8.reduceToNat] at hbounds <;>
    omega

theorem toNat_ofNat_of_isValidChar {n : Nat} (h : n.isValidChar) : (Char.ofNat n).toNat = n := by
  rw [Char.ofNat, dif_pos h]
  rfl

/-- Where a text shows an ASCII character, its byte stands. -/
theorem first_of_ascii {b : UInt8} {rest : List UInt8} {c : Char}
    (hc : (first b rest).1.getD replacement = c) (hascii : c.toNat < 0x80) :
    b = c.toUInt8 ∧ (first b rest).2 = 0 := by
  unfold first at hc ⊢
  split_ifs at hc ⊢ with hlow
  · have hb : b.toNat < 0x80 := UInt8.lt_iff_toNat_lt.mp hlow
    have hvalid : b.toNat.isValidChar := .inl (by omega)
    subst hc
    refine ⟨UInt8.toNat_inj.mp ?_, rfl⟩
    show b.toNat = (Char.ofNat b.toNat).toNat % 2 ^ 8
    rw [toNat_ofNat_of_isValidChar hvalid]
    omega
  · -- Neither a replacement character nor a character of several bytes is ASCII.
    exfalso
    have hreplacement : replacement.toNat = 0xFFFD := rfl
    split at hc
    · subst hc
      simp [hreplacement] at hascii
    · next l hlead =>
      split at hc
      · next value count htails =>
        obtain ⟨hge, hvalid⟩ := isValidChar_of_lead? hlead htails
        subst hc
        rw [Option.getD_some, toNat_ofNat_of_isValidChar hvalid] at hascii
        omega
      · subst hc
        simp [hreplacement] at hascii

theorem prefix_of_prefix_glyphs {cs : List Char} {bytes : List UInt8} {offset : Nat}
    (hascii : ∀ c ∈ cs, c.toNat < 0x80) (h : cs <+: (glyphs offset bytes).map Glyph.char) :
    cs.map Char.toUInt8 <+: bytes := by
  induction cs generalizing bytes offset with
  | nil => exact List.nil_prefix
  | cons c cs ih =>
    cases bytes with
    | nil => simp [glyphs] at h
    | cons b rest =>
      rw [glyphs, List.map_cons, List.cons_prefix_cons] at h
      obtain ⟨hc, hrest⟩ := h
      obtain ⟨rfl, hmore⟩ := first_of_ascii hc.symm (hascii c List.mem_cons_self)
      rw [hmore] at hrest
      rw [List.map_cons, List.cons_prefix_cons]
      exact ⟨rfl, ih (fun d hd => hascii d (List.mem_cons_of_mem c hd)) hrest⟩

/-- What a decoded text starts with, as far as it is ASCII, its bytes start with. -/
theorem prefix_of_prefix_decode {cs : List Char} {bytes : List UInt8}
    (hascii : ∀ c ∈ cs, c.toNat < 0x80) (h : cs <+: (decode bytes).toList) :
    cs.map Char.toUInt8 <+: bytes := by
  rw [decode, String.toList_ofList] at h
  exact prefix_of_prefix_glyphs hascii h

end Utf8

/-! ## Text in a source -/

theorem occursIn_iff {needle hay : List UInt8} : occursIn needle hay = true ↔ needle <:+: hay := by
  induction hay with
  | nil => simp [occursIn]
  | cons a rest ih =>
    rw [occursIn, Bool.or_eq_true, ih, List.isPrefixOf_iff_prefix, List.infix_cons_iff]

namespace Source

variable (src : Source)

theorem slice_isInfix (start stop : Nat) : src.slice start stop <:+: src.bytes.toList := by
  rw [slice, Array.toList_extract, List.extract_eq_take_drop]
  have htake := List.take_prefix (stop - start) (src.bytes.toList.drop start)
  exact htake.isInfix.trans (List.drop_suffix _ _).isInfix

/-- ASCII text with which the text of a part of the source starts occurs in the source. -/
theorem contains_of_prefix_text {needle : String} (hascii : ∀ c ∈ needle.toList, c.toNat < 0x80)
    {start stop : Nat} (h : needle.toList <+: (src.text start stop).toList) :
    src.contains needle = true := by
  have hbytes : needle.toUTF8.data.toList = needle.toList.map Char.toUInt8 := by
    rw [← Utf8.toUTF8_ofList hascii, String.ofList_toList]
  rw [contains, occursIn_iff, hbytes]
  exact (Utf8.prefix_of_prefix_decode hascii h).isInfix.trans (src.slice_isInfix start stop)

end Source

end GoMeter
