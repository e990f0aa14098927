import GoMeter.Config.Show
import GoMeter.Proofs.Json.Characters
import GoMeter.Yaml.Writer

/-!
# The characters of YAML text

A text is written in the style that it needs: characters other than printable ASCII and line feeds are
escaped, and folding adds nothing but line feeds, blanks and backslashes. So a configuration survives
being put into a file.

* `Yaml.isLegible_scalar`: the characters of a written text.
* `Config.isLegible_toYaml`: the characters of a configuration file.
-/

namespace GoMeter

open Text (IsLegible forall_isLegible_of_all)

namespace Yaml

theorem isLegible_of_between {c : Char} (h : (' ' ≤ c && c ≤ '~') = true) : IsLegible c := by
  simp only [Bool.and_eq_true, decide_eq_true_eq, Char.le_def, UInt32.le_iff_toNat_le] at h
  exact .inr h

theorem isLegible_of_not_needsEscape {c : Char} (h : needsEscape c = false) : IsLegible c := by
  by_cases hc : c = '\n'
  · exact .inl hc
  · have hplain : (' ' ≤ c && c ≤ '~') = true := by simpa [needsEscape, hc] using h
    exact isLegible_of_between hplain

theorem isLegible_newLine (indent : Nat) : ∀ c ∈ newLine indent, IsLegible c :=
  List.forall_mem_cons.mpr ⟨by decide, fun _ hc => List.eq_of_mem_replicate hc ▸ by decide⟩

/-! ## Plain and single-quoted texts -/

theorem mem_of_mem_runs {cs : List Char} : ∀ run ∈ runs cs, ∀ c ∈ run, c ∈ cs := by
  induction cs with
  | nil => simp [runs]
  | cons c rest ih =>
    rw [runs]
    split
    · next d run more hruns =>
      rw [hruns, List.forall_mem_cons, List.forall_mem_cons] at ih
      split_ifs <;> grind
    · grind

theorem isLegible_writeRuns {rs : List (List Char)} (h : ∀ run ∈ rs, ∀ c ∈ run, IsLegible c)
    (indent : Nat) (isFirst : Bool) (column : Nat) :
    ∀ c ∈ writeRuns indent isFirst column rs, IsLegible c := by
  induction rs generalizing isFirst column with
  | nil => simp [writeRuns]
  | cons run rest ih =>
    rw [List.forall_mem_cons] at h
    have hrest := ih h.2
    have hline := isLegible_newLine indent
    have hbreaks : ∀ c ∈ List.replicate run.length '\n', IsLegible c :=
      fun _ hc => List.eq_of_mem_replicate hc ▸ by decide
    rw [writeRuns]
    split_ifs
    · exact List.forall_mem_append.mpr ⟨hline, hrest _ _⟩
    · exact List.forall_mem_append.mpr ⟨List.forall_mem_append.mpr ⟨hbreaks, hline⟩, hrest _ _⟩
    · exact List.forall_mem_append.mpr ⟨h.1, hrest _ _⟩

theorem isLegible_doubleQuotes {cs : List Char} (h : ∀ c ∈ cs, IsLegible c) :
    ∀ c ∈ doubleQuotes cs, IsLegible c := by
  intro d hd
  obtain ⟨c, hc, hd⟩ := List.mem_flatMap.mp hd
  split_ifs at hd
  · exact forall_isLegible_of_all (by decide) d hd
  · rw [List.mem_singleton.mp hd]
    exact h c hc

/-! ## Double-quoted texts -/

theorem isLegible_upperHex (width n : Nat) : ∀ c ∈ upperHex width n, IsLegible c := by
  have hdigit : ∀ d < 16, IsLegible (Text.hexChar d).toUpper := by decide
  intro c hc
  simp only [upperHex, Text.hexDigits, List.mem_map, List.mem_reverse, List.mem_range] at hc
  obtain ⟨-, ⟨i, -, rfl⟩, rfl⟩ := hc
  exact hdigit _ (Nat.mod_lt _ (by decide))

theorem isLegible_escapeOf (c : Char) : ∀ d ∈ escapeOf c, IsLegible d := by
  have hletters : ∀ entry ∈ shortEscapes, IsLegible entry.2 := by decide
  have hescape : ∀ letter cs, IsLegible letter → (∀ d ∈ cs, IsLegible d) →
      ∀ d ∈ '\\' :: letter :: cs, IsLegible d := by
    intro letter cs hletter hcs
    exact List.forall_mem_cons.mpr ⟨by decide, List.forall_mem_cons.mpr ⟨hletter, hcs⟩⟩
  unfold escapeOf
  dsimp only
  split
  · next letter hletter =>
    obtain ⟨before, after, hentry, -⟩ := List.lookup_eq_some_iff.mp hletter
    exact hescape _ _ (hletters (c.toNat, letter) (hentry ▸ by simp)) (by simp)
  · split_ifs
    · exact hescape _ _ (by decide) (isLegible_upperHex _ _)
    · exact hescape _ _ (by decide) (isLegible_upperHex _ _)
    · exact hescape _ _ (by decide) (isLegible_upperHex _ _)

/-- A line that is folded ends in a backslash. -/
theorem isLegible_fold (indent : Nat) : ∀ c ∈ '\\' :: newLine indent, IsLegible c :=
  List.forall_mem_cons.mpr ⟨by decide, isLegible_newLine indent⟩

/-- The line after it may start with another. -/
theorem isLegible_backslashIf (p : Prop) [Decidable p] :
    ∀ c ∈ (if p then ['\\'] else []), IsLegible c := by
  split_ifs <;> exact forall_isLegible_of_all (by decide)

theorem isLegible_writeDouble {cs pending : List Char} (h : ∀ c ∈ pending, IsLegible c)
    (indent : Nat) (isFirst : Bool) (column : Nat) :
    ∀ c ∈ writeDouble indent isFirst column pending cs, IsLegible c := by
  induction cs generalizing isFirst column pending with
  | nil => simpa [writeDouble] using h
  | cons c rest ih =>
    have hpart := List.forall_mem_append.mpr ⟨h, isLegible_escapeOf c⟩
    rw [writeDouble]
    dsimp only
    split
    · split
      · simp only [List.forall_mem_append]
        exact ⟨⟨⟨⟨h, isLegible_escapeOf c⟩, isLegible_fold indent⟩, isLegible_backslashIf _⟩,
          ih (by simp) _ _⟩
      · exact List.forall_mem_append.mpr ⟨hpart, ih (by simp) _ _⟩
    · next hescaped =>
      have hbetween : (' ' ≤ c && c ≤ '~') = true := by
        by_contra hnot
        exact hescaped (by simp [isEscaped, hnot])
      have hc : ∀ d ∈ [c], IsLegible d := by simpa using isLegible_of_between hbetween
      split
      · simp only [List.forall_mem_append]
        exact ⟨⟨⟨h, isLegible_fold indent⟩, isLegible_backslashIf _⟩, ih hc _ _⟩
      · exact ih (List.forall_mem_append.mpr ⟨h, hc⟩) _ _

/-! ## Entries -/

theorem isLegible_scalar (indent column : Nat) (cs : List Char) :
    ∀ c ∈ scalar indent column cs, IsLegible c := by
  have hsimple (hstyle : Style.ofText cs ≠ .double) : ∀ c ∈ cs, IsLegible c := by
    intro c hc
    apply isLegible_of_not_needsEscape
    by_contra hneeds
    have hany : cs.any needsEscape = true := List.any_eq_true.mpr ⟨c, hc, by simpa using hneeds⟩
    exact hstyle (by simp [Style.ofText, hany])
  unfold scalar
  split
  · next hstyle =>
    have hcs := hsimple (by simp [hstyle])
    exact isLegible_writeRuns (fun run hrun c hc => hcs c (mem_of_mem_runs run hrun c hc)) _ _ _
  · next hstyle =>
    have hcs := hsimple (by simp [hstyle])
    have hruns : ∀ run ∈ (runs cs).map doubleQuotes, ∀ c ∈ run, IsLegible c := by
      rw [List.forall_mem_map]
      exact fun run hrun =>
        isLegible_doubleQuotes fun c hc => hcs c (mem_of_mem_runs run hrun c hc)
    rw [List.cons_append]
    exact List.forall_mem_cons.mpr ⟨by decide,
      List.forall_mem_append.mpr ⟨isLegible_writeRuns hruns _ _ _, forall_isLegible_of_all (by decide)⟩⟩
  · rw [List.cons_append]
    exact List.forall_mem_cons.mpr ⟨by decide,
      List.forall_mem_append.mpr ⟨isLegible_writeDouble (by simp) _ _ _,
        forall_isLegible_of_all (by decide)⟩⟩

theorem isLegible_listEntry {key : String} (hkey : ∀ c ∈ key.toList, IsLegible c)
    (items : List String) : ∀ c ∈ listEntry key items, IsLegible c := by
  have hitem : ∀ s : String, ∀ c ∈ item s, IsLegible c := by
    intro s
    rw [item, List.cons_append, List.cons_append]
    exact List.forall_mem_cons.mpr ⟨by decide, List.forall_mem_cons.mpr ⟨by decide,
      List.forall_mem_append.mpr ⟨isLegible_scalar _ _ _, forall_isLegible_of_all (by decide)⟩⟩⟩
  unfold listEntry
  split_ifs
  · exact List.forall_mem_append.mpr ⟨hkey, forall_isLegible_of_all (by decide)⟩
  · refine List.forall_mem_append.mpr ⟨List.forall_mem_append.mpr
      ⟨hkey, forall_isLegible_of_all (by decide)⟩, fun c hc => ?_⟩
    obtain ⟨s, -, hc⟩ := List.mem_flatMap.mp hc
    exact hitem s c hc

theorem isLegible_plainEntry {key word : String} (hkey : ∀ c ∈ key.toList, IsLegible c)
    (hword : ∀ c ∈ word.toList, IsLegible c) : ∀ c ∈ plainEntry key word, IsLegible c := by
  simp only [plainEntry, List.forall_mem_append]
  exact ⟨⟨⟨hkey, forall_isLegible_of_all (by decide)⟩, hword⟩, forall_isLegible_of_all (by decide)⟩

end Yaml

theorem Setting.isLegible_entry {key : String} (hkey : ∀ c ∈ key.toList, IsLegible c) (s : Setting)
    (hword : ∀ w, s = .word w → ∀ c ∈ w.toList, IsLegible c) : ∀ c ∈ s.entry key, IsLegible c := by
  cases s with
  | texts items => exact Yaml.isLegible_listEntry hkey items
  | truth b =>
    refine Yaml.isLegible_plainEntry hkey ?_
    cases b <;> exact forall_isLegible_of_all (by decide)
  | number n =>
    refine Yaml.isLegible_plainEntry hkey ?_
    rw [Decimal.text, String.toList_ofList]
    exact Json.isLegible_chars n
  | word w => exact Yaml.isLegible_plainEntry hkey (hword w rfl)

/-- A configuration file is written in printable ASCII characters and line feeds. -/
theorem Config.isLegible_toYaml (c : Config) : ∀ d ∈ c.toYaml.toList, IsLegible d := by
  have hall : keys.all (fun key => key.toList.all fun d => decide (IsLegible d)) = true := by decide
  have hkeys : ∀ key ∈ keys, ∀ d ∈ key.toList, IsLegible d :=
    fun key hkey => forall_isLegible_of_all (List.all_eq_true.mp hall key hkey)
  have hword : ∀ f : ReportFormat, ∀ d ∈ f.word.toList, IsLegible d := by
    intro f
    cases f <;> exact forall_isLegible_of_all (by decide)
  intro d hd
  rw [toYaml, String.toList_ofList, List.mem_flatMap] at hd
  obtain ⟨⟨key, s⟩, hs, hd⟩ := hd
  have hkey : key ∈ c.settings.map Prod.fst := List.mem_map_of_mem hs
  refine s.isLegible_entry (hkeys key hkey) ?_ d hd
  rintro w rfl
  obtain ⟨-, rfl⟩ : key = "format" ∧ w = c.format.word := by simpa [settings] using hs
  exact hword _

end GoMeter
