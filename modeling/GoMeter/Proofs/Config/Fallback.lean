import GoMeter.Proofs.Config.Law

/-!
# Settings that are not well formed

A mapping may hold any value under any key. A value that does not fit its key is passed over, and the
setting stays what it was. Two conversions are not guarded: an infinite number has no integer, and an
integer with too many digits has no text. Where a mapping has neither in the place of such a conversion,
and only there, merging it comes to an end.

* `Value.Convertible`: no conversion of a mapping's values fails.
* `Settings.FallsBack`: every setting is the value under its key if that fits, and else what it was.
* `Settings.returns_merge_iff`: merging a mapping returns exactly if its values are convertible.
* `merge_falls_back`: then every value that does not fit is passed over.
-/

namespace GoMeter

/-! ## Conversions that fail -/

/-- No integer setting of a mapping is infinite, and its patterns and its report format can be
written. -/
structure Value.Convertible (raw : Value) : Prop where
  finite : ∀ key ∈ ["max_files", "inline_budget", "max_func_calls"], ∀ negative,
    raw.get? key ≠ some (.float (.infinite negative))
  patterns : ∀ key ∈ ["include", "exclude"], ∀ items, raw.get? key = some (.list items) →
    ∀ v ∈ items, v.isWritable
  format : ∀ v, raw.get? "format" = some v → v.isWritable

theorem readInteger_ne_infinite (s : String) : readInteger s ≠ .error .infinite := by
  unfold readInteger
  generalize signOf (Text.trimChars isNumeralBlank s.toList) = signed
  obtain ⟨negative, body⟩ := signed
  intro h
  dsimp only at h
  split at h
  · cases h
  · split_ifs at h
    cases h

/-- Of all values only an infinite number is refused as such. -/
theorem Value.toInteger_eq_infinite_iff (v : Value) :
    v.toInteger = .error .infinite ↔ ∃ negative, v = .float (.infinite negative) := by
  cases v with
  | float x => cases x <;> simp [toInteger]
  | text s => simpa [toInteger] using readInteger_ne_infinite s
  | _ => simp [toInteger]

namespace Settings

variable {raw : Value} {key : String}

theorem returns_listAt_iff :
    (Attempt.ofExcept (listAt raw key)).Returns ↔
      ∀ items, raw.get? key = some (.list items) → ∀ v ∈ items, v.isWritable := by
  unfold Attempt.Returns listAt
  rw [Attempt.outcome_ofExcept]
  split
  · next items hgiven =>
    by_cases hall : items.all Value.isWritable
    · rw [if_pos hall]
      simpa [hgiven] using hall
    · rw [if_neg hall]
      simpa [hgiven] using hall
  · next hother =>
    simp only [Except.ok.injEq, exists_eq', true_iff]
    exact fun items hgiven => absurd hgiven (hother items)

theorem returns_integerAt_iff :
    (integerAt raw key).Returns ↔
      ∀ negative, raw.get? key ≠ some (.float (.infinite negative)) := by
  unfold integerAt
  split
  case h_1 hgiven | h_2 hgiven | h_3 hgiven =>
    simpa [hgiven] using Attempt.returns_pure _
  case h_4 v _ _ hgiven =>
    simp only [hgiven, Option.some.injEq, ne_eq, ← not_exists, ← v.toInteger_eq_infinite_iff]
    cases hread : v.toInteger with
    | ok n => exact iff_of_true (Attempt.returns_pure _) (by simp)
    | error fault =>
      cases fault with
      | infinite => exact iff_of_false (Attempt.not_returns_iff.mpr ⟨_, rfl⟩) (by simp)
      | _ => exact iff_of_true ⟨_, rfl⟩ (by simp)

theorem returns_formatAt_iff (default : ReportFormat) :
    (formatAt raw default).Returns ↔ ∀ v, raw.get? "format" = some v → v.isWritable := by
  unfold formatAt
  split
  case h_1 hgiven | h_2 hgiven =>
    exact iff_of_true (Attempt.returns_pure _) (by simp [hgiven, Value.isWritable])
  case h_3 v _ hgiven =>
    simp only [hgiven, Option.some.injEq, forall_eq']
    by_cases hwritable : v.isWritable
    · rw [if_pos hwritable]
      refine iff_of_true ?_ hwritable
      cases ReportFormat.ofWord? (folded v.plain) with
      | some f => exact Attempt.returns_pure f
      | none => exact ⟨default, rfl⟩
    · rw [if_neg hwritable]
      exact iff_of_false (Attempt.not_returns_iff.mpr ⟨_, rfl⟩) hwritable

/-- Merging a mapping returns exactly if no conversion of its values fails. -/
theorem returns_merge_iff (s : Settings) (raw : Value) : (s.merge raw).Returns ↔ raw.Convertible := by
  rw [merge_eq]
  rw [Attempt.returns_bind_iff fun _ => Attempt.returns_bind_iff fun _ =>
    Attempt.returns_bind_iff fun _ => Attempt.returns_bind_iff fun _ =>
    Attempt.returns_bind_iff fun _ => Attempt.returns_bind_iff fun _ =>
    iff_true_intro (Attempt.returns_pure _)]
  simp only [returns_listAt_iff, returns_integerAt_iff, returns_formatAt_iff, and_true]
  constructor
  · rintro ⟨hinclude, hexclude, hfiles, hbudget, hcalls, hformat⟩
    exact ⟨by simpa only [List.forall_mem_cons] using ⟨hfiles, hbudget, hcalls, by simp⟩,
      by simpa only [List.forall_mem_cons] using ⟨hinclude, hexclude, by simp⟩, hformat⟩
  · rintro ⟨hfinite, hpatterns, hformat⟩
    exact ⟨hpatterns _ (by simp), hpatterns _ (by simp), hfinite _ (by simp), hfinite _ (by simp),
      hfinite _ (by simp), hformat⟩

/-! ## Values that are passed over -/

/-- What becomes of a setting if `given` stands under its key: a value that says something by `read` is
the new setting, and without one the base is kept. -/
def Adopts {α : Type} (read : Value → Option α) (given : Option Value) (base new : α) : Prop :=
  (∀ v, given = some v → ∀ a, read v = some a → new = a) ∧
    ((∀ v, given = some v → read v = none) → new = base)

/-- The patterns that a value adds up to with the old ones, which it replaces if no file has set them. -/
def patternsOver (old : List String) (isSet : Bool) (v : Value) : Option (List String) :=
  v.asTexts?.map fun new => if isSet then old ++ new else new

/-- Every setting is the value under its key if that value fits, and else what it was before. -/
structure FallsBack (s : Settings) (raw : Value) (s' : Settings) : Prop where
  included : Adopts (patternsOver s.config.included s.includeSet) (raw.get? "include")
    s.config.included s'.config.included
  excluded : Adopts (patternsOver s.config.excluded s.excludeSet) (raw.get? "exclude")
    s.config.excluded s'.config.excluded
  includeTests : Adopts Value.asTruth? (raw.get? "include_tests")
    s.config.includeTests s'.config.includeTests
  maxFiles : Adopts Value.asPositive? (raw.get? "max_files") s.config.maxFiles s'.config.maxFiles
  inlineBudget : Adopts Value.asInteger? (raw.get? "inline_budget")
    s.config.inlineBudget s'.config.inlineBudget
  maxFuncCalls : Adopts Value.asInteger? (raw.get? "max_func_calls")
    s.config.maxFuncCalls s'.config.maxFuncCalls
  onlyInlineable : Adopts Value.asTruth? (raw.get? "only_inlineable")
    s.config.onlyInlineable s'.config.onlyInlineable
  showNoinline : Adopts Value.asTruth? (raw.get? "show_noinline")
    s.config.showNoinline s'.config.showNoinline
  format : Adopts Value.asFormat? (raw.get? "format") s.config.format s'.config.format

theorem adopts_getD {α : Type} (read : Value → Option α) (given : Option Value) (base : α) :
    Adopts read given base ((given.bind read).getD base) := by
  cases given with
  | none => simp [Adopts]
  | some v => cases hread : read v <;> simp [Adopts, hread]

theorem adopts_patterns (old : List String) (isSet : Bool) (given : Option Value) :
    Adopts (patternsOver old isSet) given old
      (mergeList old isSet (given.bind Value.asTexts?)).1 := by
  have hmerge : (mergeList old isSet (given.bind Value.asTexts?)).1 =
      (given.bind (patternsOver old isSet)).getD old := by
    cases given with
    | none => rfl
    | some v => cases hread : v.asTexts? <;> simp [mergeList, patternsOver, hread]
  rw [hmerge]
  exact adopts_getD _ _ _

theorem fallsBack_next (s : Settings) (raw : Value) : s.FallsBack raw (s.next raw) where
  included := adopts_patterns _ _ _
  excluded := adopts_patterns _ _ _
  includeTests := by
    simp only [next, adopt, truthAt_eq]
    exact adopts_getD _ _ _
  maxFiles := by
    simp only [next, adopt, positive?_integerUnder]
    exact adopts_getD _ _ _
  inlineBudget := adopts_getD _ _ _
  maxFuncCalls := adopts_getD _ _ _
  onlyInlineable := by
    simp only [next, adopt, truthAt_eq]
    exact adopts_getD _ _ _
  showNoinline := by
    simp only [next, adopt, truthAt_eq]
    exact adopts_getD _ _ _
  format := adopts_getD _ _ _

end Settings

/-- Merging a mapping passes over every value that does not fit its key, and the setting stays what it
was. It comes to a result unless an integer setting is infinite, or an integer with too many digits
stands among the patterns or in the report format; in those cases, and only in those, it fails. -/
theorem merge_falls_back (s : Settings) (raw : Value) :
    (raw.Convertible → ∃ s', (s.merge raw).outcome.result = .ok s' ∧ s.FallsBack raw s') ∧
      (¬ raw.Convertible → ∃ fault, (s.merge raw).outcome.result = .error fault) := by
  constructor
  · intro hconvertible
    obtain ⟨s', hs'⟩ := (s.returns_merge_iff raw).mpr hconvertible
    obtain rfl := Settings.eq_next_of_merge hs'
    exact ⟨_, hs', s.fallsBack_next raw⟩
  · intro hnot
    rw [← s.returns_merge_iff raw] at hnot
    exact Attempt.not_returns_iff.mp hnot

example :
    (Settings.start.merge (.object [("max_files", .float (.infinite false))])).outcome.result =
      .error .infinite := by
  decide +kernel

end GoMeter
