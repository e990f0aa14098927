import GoMeter.Json.Writer
import GoMeter.Proofs.Number.Decimal
import GoMeter.Proofs.Text.Ascii

/-!
# The characters of JSON text

Every value is written in printable ASCII characters and line feeds, so that its text survives being
put into a file.

* `Json.isLegible_write`: the characters of a written value.
-/

namespace GoMeter.Json

open Text (IsLegible forall_isLegible_of_all)

theorem isLegible_of_isDigit {c : Char} (h : c.isDigit = true) : IsLegible c := by
  have hrange : 48 ≤ c.toNat ∧ c.toNat ≤ 57 := by
    simpa [Char.isDigit, UInt32.le_iff_toNat_le] using h
  exact .inr (by omega)

theorem isLegible_hexDigit {d : Nat} (h : d < 16) : IsLegible (hexDigit d) := by
  interval_cases d <;> decide

theorem isLegible_escapeUnit (n : Nat) : ∀ c ∈ escapeUnit n, IsLegible c := by
  have hdigit (m : Nat) : IsLegible (hexDigit (m % 16)) := isLegible_hexDigit (Nat.mod_lt m (by decide))
  simp [escapeUnit, hex4, hdigit, show IsLegible '\\' by decide, show IsLegible 'u' by decide]

theorem isLegible_escape (c : Char) : ∀ d ∈ escape c, IsLegible d := by
  unfold escape
  split
  case h_8 =>
    simp only
    split
    case isTrue hplain => simpa using .inr hplain
    split
    · exact isLegible_escapeUnit _
    · exact List.forall_mem_append.mpr ⟨isLegible_escapeUnit _, isLegible_escapeUnit _⟩
  all_goals exact forall_isLegible_of_all (by decide)

theorem isLegible_quote (s : List Char) : ∀ c ∈ quote s, IsLegible c := by
  simp only [quote, List.cons_append, List.forall_mem_cons, List.forall_mem_append]
  refine ⟨by decide, ?_, by decide, by simp⟩
  intro c hc
  obtain ⟨d, -, hc⟩ := List.mem_flatMap.mp hc
  exact isLegible_escape d c hc

theorem isLegible_digits (n : Nat) : ∀ c ∈ Decimal.digits n, IsLegible c :=
  fun _ hc => isLegible_of_isDigit (Decimal.isDigit_of_mem_digits hc)

theorem isLegible_chars (n : Int) : ∀ c ∈ Decimal.chars n, IsLegible c := by
  unfold Decimal.chars
  split
  · exact List.forall_mem_cons.mpr ⟨by decide, isLegible_digits _⟩
  · exact isLegible_digits _

theorem isLegible_number (x : Binary64) : ∀ c ∈ number x, IsLegible c := by
  cases x with
  | nan => exact forall_isLegible_of_all (by decide)
  | infinite negative => cases negative <;> exact forall_isLegible_of_all (by decide)
  | finite negative mantissa exponent =>
    unfold number
    have hsign : ∀ c ∈ (if negative then ['-'] else []), IsLegible c := by
      cases negative <;> exact forall_isLegible_of_all (by decide)
    refine List.forall_mem_append.mpr ⟨hsign, ?_⟩
    split
    · exact forall_isLegible_of_all (by decide)
    · exact List.forall_mem_append.mpr
        ⟨isLegible_digits _, List.forall_mem_cons.mpr ⟨by decide, isLegible_chars _⟩⟩

/-! ## Values -/

/-- A layout adds only printable characters and line feeds. -/
structure Layout.Legible (layout : Layout) : Prop where
  colon : ∀ c ∈ layout.colon, IsLegible c
  line : ∀ level, ∀ c ∈ layout.line level, IsLegible c

theorem Layout.legible_twoBlanks : Layout.twoBlanks.Legible where
  colon := forall_isLegible_of_all (by decide)
  line level := List.forall_mem_cons.mpr
    ⟨by decide, fun _ hc => List.eq_of_mem_replicate hc ▸ by decide⟩

variable {layout : Layout} (hlayout : layout.Legible)

include hlayout

mutual

/-- A value is written in printable characters and line feeds. -/
theorem isLegible_write (level : Nat) : ∀ v : Value, ∀ c ∈ write layout level v, IsLegible c
  | .null => forall_isLegible_of_all (by rw [write]; decide)
  | .bool b => by
    rw [write]
    cases b <;> exact forall_isLegible_of_all (by decide)
  | .int n => isLegible_chars n
  | .float x => isLegible_number x
  | .text s => isLegible_quote s.toList
  | .stamp s => isLegible_quote s.plain
  | .list [] => forall_isLegible_of_all (by rw [write]; decide)
  | .list (v :: vs) => by
    have hv := isLegible_write (level + 1) v
    have hvs := isLegible_writeItems (level + 1) vs
    have hline := hlayout.line
    simp only [write, List.cons_append, List.forall_mem_cons, List.forall_mem_append]
    exact ⟨by decide, ⟨⟨⟨hline _, hv⟩, hvs⟩, hline _⟩, by decide, by simp⟩
  | .map [] => forall_isLegible_of_all (by rw [write]; decide)
  | .map ((k, v) :: entries) => by
    have hv := isLegible_write (level + 1) v
    have hentries := isLegible_writeEntries (level + 1) entries
    have hline := hlayout.line
    simp only [write, List.cons_append, List.forall_mem_cons, List.forall_mem_append]
    exact ⟨by decide, ⟨⟨⟨⟨⟨hline _, isLegible_quote _⟩, hlayout.colon⟩, hv⟩, hentries⟩, hline _⟩,
      by decide, by simp⟩

theorem isLegible_writeItems (level : Nat) :
    ∀ vs : List Value, ∀ c ∈ writeItems layout level vs, IsLegible c
  | [] => by simp [writeItems]
  | v :: vs => by
    have hv := isLegible_write level v
    have hvs := isLegible_writeItems level vs
    simp only [writeItems, List.cons_append, List.forall_mem_cons, List.forall_mem_append]
    exact ⟨by decide, ⟨hlayout.line level, hv⟩, hvs⟩

theorem isLegible_writeEntries (level : Nat) :
    ∀ entries : List (Value × Value), ∀ c ∈ writeEntries layout level entries, IsLegible c
  | [] => by simp [writeEntries]
  | (k, v) :: entries => by
    have hv := isLegible_write level v
    have hentries := isLegible_writeEntries level entries
    simp only [writeEntries, List.cons_append, List.forall_mem_cons, List.forall_mem_append]
    exact ⟨by decide, ⟨⟨⟨hlayout.line level, isLegible_quote _⟩, hlayout.colon⟩, hv⟩, hentries⟩

end

end GoMeter.Json
