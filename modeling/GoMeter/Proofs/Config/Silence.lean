import GoMeter.Proofs.Config.Fallback
import Mathlib.Data.Int.Basic
import Mathlib.Data.List.Basic

/-!
# Values that are passed over in silence

A value that does not fit its key is passed over. Where it stands for a number or for a report format
there is a warning, which tells the key and the value; everywhere else nothing is said.

* `Settings.Discards`: a value has no effect on its setting, whatever that was.
* `Settings.warningOf`: the warning about a value; `Settings.Warns`: a key is warned of.
* `Settings.mem_messages_merge`: what merging a mapping says.
* `Settings.PassedOver`: the values that are discarded in silence.
* `silent_values_of_merge`: those are all.
-/

namespace GoMeter

namespace Config

/-- The keys of lists of patterns. -/
def patternKeys : List String := ["include", "exclude"]

/-- The keys of truth values. -/
def truthKeys : List String := ["include_tests", "only_inlineable", "show_noinline"]

/-- The keys of integers. -/
def integerKeys : List String := ["max_files", "inline_budget", "max_func_calls"]

theorem mem_keys_iff {key : String} :
    key ∈ keys ↔ key ∈ patternKeys ∨ key ∈ truthKeys ∨ key ∈ integerKeys ∨ key = "format" := by
  simp only [keys, patternKeys, truthKeys, integerKeys, List.mem_cons, List.not_mem_nil, or_false]
  tauto

end Config

instance : Nontrivial ReportFormat := ⟨.json, .markdown, by decide⟩

namespace Settings

variable {s : Settings} {raw v : Value} {key : String} {m : Message}

/-- The same settings with another configuration. -/
def withConfig (s : Settings) (base : Config) : Settings := { s with config := base }

/-- The value under a key is discarded: whatever the configuration was before, its setting under the key
is the same after the mapping. -/
def Discards (s : Settings) (raw : Value) (key : String) : Prop :=
  ∀ base s', ((s.withConfig base).merge raw).outcome.result = .ok s' →
    s'.config.settings.lookup key = base.settings.lookup key

/-- The warning about a value that stands under a key. -/
def warningOf (s : Settings) (key : String) (v : Value) : Message where
  level := .warning
  origin := .config
  text :=
    if key = "format" then
      "Unknown report format " ++ String.ofList v.shown ++ "; using " ++ s.config.format.word ++ "."
    else "Ignoring non-integer " ++ key ++ "=" ++ String.ofList v.shown ++ "."

/-- A key is warned of. -/
def Warns (s : Settings) (raw : Value) (key : String) : Prop :=
  ∃ v, s.warningOf key v ∈ (s.merge raw).outcome.messages

/-- The values that are warned of: those without an integer, other than null and truth values, under
the key of an integer, and those that name no format under the key of the format. -/
inductive Alarming : String → Value → Prop where
  | integer {key : String} {v : Value} (hkey : key ∈ Config.integerKeys) (hnull : v ≠ .null)
      (hbool : ∀ b, v ≠ .bool b) (hread : v.asInteger? = none) : Alarming key v
  | format {v : Value} (hnull : v ≠ .null) (hread : v.asFormat? = none) : Alarming "format" v

/-- The values that are discarded in silence: all but lists for the patterns, and lists without items
after a file with others; what is no truth value, number or word for one under the key of a truth value;
truth values under the key of an integer; and a greatest number of files below one. -/
inductive PassedOver (s : Settings) : String → Value → Prop where
  | patterns {key : String} {v : Value} (hkey : key ∈ Config.patternKeys)
      (hlist : ∀ items, v ≠ .list items) : s.PassedOver key v
  | nothingIncluded (hset : s.includeSet = true) : s.PassedOver "include" (.list [])
  | nothingExcluded (hset : s.excludeSet = true) : s.PassedOver "exclude" (.list [])
  | truth {key : String} {v : Value} (hkey : key ∈ Config.truthKeys) (hread : v.asTruth? = none) :
      s.PassedOver key v
  | integer {key : String} (hkey : key ∈ Config.integerKeys) (b : Bool) : s.PassedOver key (.bool b)
  | limit {v : Value} {n : Int} (hread : v.asInteger? = some n) (hn : n < 1) :
      s.PassedOver "max_files" v

/-! ## What is said -/

/-- What is said before a result. -/
theorem mem_messages_say {ε α : Type} (text : String) (a : α) :
    m ∈ (do Logged.say .warning .config text; pure a : Attempt ε α).outcome.messages ↔
      m = ⟨.warning, .config, text⟩ :=
  List.mem_singleton

theorem alarming_integer_iff (hkey : key ∈ Config.integerKeys) :
    Alarming key v ↔ v ≠ .null ∧ (∀ b, v ≠ .bool b) ∧ v.asInteger? = none := by
  constructor
  · intro h
    cases h with
    | integer _ hnull hbool hread => exact ⟨hnull, hbool, hread⟩
    | format => exact absurd hkey (by decide)
  · rintro ⟨hnull, hbool, hread⟩
    exact .integer hkey hnull hbool hread

theorem alarming_format_iff : Alarming "format" v ↔ v ≠ .null ∧ v.asFormat? = none := by
  constructor
  · intro h
    cases h with
    | integer hkey => exact absurd hkey (by decide)
    | format hnull hread => exact ⟨hnull, hread⟩
  · rintro ⟨hnull, hread⟩
    exact .format hnull hread

theorem Alarming.key_cases (h : Alarming key v) :
    key = "max_files" ∨ key = "inline_budget" ∨ key = "max_func_calls" ∨ key = "format" := by
  cases h with
  | integer hkey =>
    simp only [Config.integerKeys, List.mem_cons, List.not_mem_nil, or_false] at hkey
    tauto
  | format => exact .inr (.inr (.inr rfl))

theorem Alarming.mem_keys (h : Alarming key v) : key ∈ Config.keys := by
  rcases h.key_cases with rfl | rfl | rfl | rfl <;> decide

/-- What reading an integer says, if it does not fail. -/
theorem mem_messages_integerAt (s : Settings) (hkey : key ∈ Config.integerKeys)
    (h : (integerAt raw key).Returns) :
    m ∈ (integerAt raw key).outcome.messages ↔
      ∃ v, raw.get? key = some v ∧ Alarming key v ∧ m = s.warningOf key v := by
  have hformat : key ≠ "format" := by
    rintro rfl
    exact absurd hkey (by decide)
  simp only [alarming_integer_iff hkey, warningOf, if_neg hformat]
  unfold integerAt at h ⊢
  split at h
  case h_1 hgiven | h_2 hgiven | h_3 hgiven => simp [hgiven]
  case h_4 v hnull hbool hgiven =>
    simp only [hgiven, Option.some.injEq, exists_eq_left', Value.asInteger?_eq hnull hbool]
    cases hread : v.toInteger with
    | ok n => simp [Except.toOption]
    | error fault =>
      cases fault with
      | infinite =>
        rw [hread] at h
        obtain ⟨_, hresult⟩ := h
        cases hresult
      | _ =>
        rw [mem_messages_say]
        exact ⟨fun hm => ⟨⟨hnull, hbool, rfl⟩, hm⟩, fun hm => hm.2⟩

/-- What reading the format says, if it does not fail. -/
theorem mem_messages_formatAt (h : (formatAt raw s.config.format).Returns) :
    m ∈ (formatAt raw s.config.format).outcome.messages ↔
      ∃ v, raw.get? "format" = some v ∧ Alarming "format" v ∧ m = s.warningOf "format" v := by
  simp only [alarming_format_iff, warningOf, if_true]
  unfold formatAt at h ⊢
  split at h
  case h_1 hgiven | h_2 hgiven => simp [hgiven]
  case h_3 v hnull hgiven =>
    simp only [hgiven, Option.some.injEq, exists_eq_left', Value.asFormat?_eq hnull]
    split at h
    · next hwritable =>
      rw [if_pos hwritable]
      cases ReportFormat.ofWord? (folded v.plain) with
      | some f => simp
      | none =>
        rw [mem_messages_say]
        exact ⟨fun hm => ⟨⟨hnull, rfl⟩, hm⟩, fun hm => hm.2⟩
    · obtain ⟨_, hresult⟩ := h
      cases hresult

/-- What merging a mapping says: one warning for each value that is warned of. -/
theorem mem_messages_merge (h : (s.merge raw).Returns) :
    m ∈ (s.merge raw).outcome.messages ↔
      ∃ key v, raw.get? key = some v ∧ Alarming key v ∧ m = s.warningOf key v := by
  obtain ⟨s', h⟩ := h
  rw [merge_eq] at h ⊢
  obtain ⟨includes, hincludes, h⟩ := Attempt.exists_of_bind_ok h
  obtain ⟨excludes, hexcludes, h⟩ := Attempt.exists_of_bind_ok h
  obtain ⟨maxFiles, hmaxFiles, h⟩ := Attempt.exists_of_bind_ok h
  obtain ⟨budget, hbudget, h⟩ := Attempt.exists_of_bind_ok h
  obtain ⟨calls, hcalls, h⟩ := Attempt.exists_of_bind_ok h
  obtain ⟨format, hformat, h⟩ := Attempt.exists_of_bind_ok h
  rw [Attempt.mem_messages_bind hincludes, Attempt.mem_messages_bind hexcludes,
    Attempt.mem_messages_bind hmaxFiles, Attempt.mem_messages_bind hbudget,
    Attempt.mem_messages_bind hcalls, Attempt.mem_messages_bind hformat,
    mem_messages_integerAt s (by decide) ⟨_, hmaxFiles⟩,
    mem_messages_integerAt s (by decide) ⟨_, hbudget⟩,
    mem_messages_integerAt s (by decide) ⟨_, hcalls⟩, mem_messages_formatAt ⟨_, hformat⟩]
  constructor
  · rintro (hm | hm | ⟨v, hv⟩ | ⟨v, hv⟩ | ⟨v, hv⟩ | ⟨v, hv⟩ | hm)
    · cases hm
    · cases hm
    · exact ⟨_, v, hv⟩
    · exact ⟨_, v, hv⟩
    · exact ⟨_, v, hv⟩
    · exact ⟨_, v, hv⟩
    · cases hm
  · rintro ⟨key, v, hgiven, halarm, rfl⟩
    have hv : ∃ w, raw.get? key = some w ∧ Alarming key w ∧ s.warningOf key v = s.warningOf key w :=
      ⟨v, hgiven, halarm, rfl⟩
    rcases halarm.key_cases with rfl | rfl | rfl | rfl
    · exact .inr (.inr (.inl hv))
    · exact .inr (.inr (.inr (.inl hv)))
    · exact .inr (.inr (.inr (.inr (.inl hv))))
    · exact .inr (.inr (.inr (.inr (.inr (.inl hv)))))

/-! ## Which key a warning is about -/

/-- A key is what stands before the first equals sign. -/
theorem takeWhile_key (hkey : key ∈ Config.keys) (rest : List Char) :
    (key.toList ++ '=' :: rest).takeWhile (· != '=') = key.toList := by
  have hall : Config.keys.all (fun key => key.toList.all (· != '=')) = true := by decide
  have hequals := List.all_eq_true.mp (List.all_eq_true.mp hall key hkey)
  rw [List.takeWhile_append_of_pos hequals, List.takeWhile_cons_of_neg (by decide), List.append_nil]

/-- Warnings about two keys differ, whatever the values are. -/
theorem key_eq_of_warningOf_eq {key' : String} {v' : Value} (hkey : key ∈ Config.keys)
    (hkey' : key' ∈ Config.keys) (h : s.warningOf key v = s.warningOf key' v') : key = key' := by
  have htext := congrArg (fun m => m.text.toList) h
  simp only [warningOf] at htext
  split_ifs at htext with hformat hformat' hformat'
  · rw [hformat, hformat']
  · simp at htext
  · simp at htext
  · simp only [String.toList_append, String.toList_ofList, List.append_assoc] at htext
    have hrest : key.toList ++ '=' :: (v.shown ++ ['.']) = key'.toList ++ '=' :: (v'.shown ++ ['.']) :=
      List.append_cancel_left htext
    apply String.toList_inj.mp
    rw [← takeWhile_key hkey, hrest, takeWhile_key hkey']

/-- A key is warned of exactly if the value under it is. -/
theorem warns_iff (h : (s.merge raw).Returns) (hkey : key ∈ Config.keys)
    (hgiven : raw.get? key = some v) : s.Warns raw key ↔ Alarming key v := by
  simp only [Warns, mem_messages_merge h]
  constructor
  · rintro ⟨w, key', v', hgiven', halarm, hwarning⟩
    obtain rfl := key_eq_of_warningOf_eq hkey halarm.mem_keys hwarning
    rw [hgiven, Option.some.injEq] at hgiven'
    rwa [hgiven']
  · intro halarm
    exact ⟨v, key, v, hgiven, halarm, rfl⟩

/-! ## What is discarded -/

/-- A value is discarded if no configuration feels it; whether the mapping can be merged does not depend
on the configuration. -/
theorem discards_iff_forall_next (h : (s.merge raw).Returns) :
    s.Discards raw key ↔ ∀ base,
      ((s.withConfig base).next raw).config.settings.lookup key = base.settings.lookup key := by
  refine forall_congr' fun base => ?_
  obtain ⟨s', hs'⟩ := ((s.withConfig base).returns_merge_iff raw).mpr ((s.returns_merge_iff raw).mp h)
  obtain rfl := eq_next_of_merge hs'
  simp [hs']

/-- A setting that is read of a value is felt, and one that is not is kept. -/
theorem discards_iff_eq_none {α : Type} [Nontrivial α] (field : Config → α) (toSetting : α → Setting)
    (hinjective : Function.Injective toSetting) (hsurjective : Function.Surjective field)
    (hlookup : ∀ c : Config, c.settings.lookup key = some (toSetting (field c))) {read : Option α}
    (hnext : ∀ base, field ((s.withConfig base).next raw).config = read.getD (field base))
    (h : (s.merge raw).Returns) : s.Discards raw key ↔ read = none := by
  rw [discards_iff_forall_next h]
  simp only [hlookup, Option.some.injEq, hinjective.eq_iff, hnext]
  constructor
  · intro hkept
    cases read with
    | none => rfl
    | some a =>
      obtain ⟨b, hb⟩ := exists_ne a
      obtain ⟨base, rfl⟩ := hsurjective b
      exact absurd (hkept base).symm hb
  · rintro rfl base
    rfl

/-- Only without a list, or with one that adds nothing, do all lists stay what they were. -/
theorem forall_mergeList_eq_iff {isSet : Bool} {given : Option (List String)} :
    (∀ old, (mergeList old isSet given).1 = old) ↔
      given = none ∨ isSet = true ∧ given = some [] := by
  cases given with
  | none => simp [mergeList]
  | some new =>
    cases isSet with
    | true => simp [mergeList]
    | false =>
      refine iff_of_false (fun hkept => ?_) (by simp)
      have hlonger : new = "" :: new := hkept ("" :: new)
      simpa using congrArg List.length hlonger

theorem asTexts?_eq_none_iff : v.asTexts? = none ↔ ∀ items, v ≠ .list items := by
  cases v <;> simp [Value.asTexts?]

theorem asTexts?_eq_nil_iff : v.asTexts? = some [] ↔ v = .list [] := by
  cases v <;> simp [Value.asTexts?]

section Sorts

variable (h : (s.merge raw).Returns)
include h

theorem discards_patterns_iff {isSet : Bool} (field : Config → List String)
    (hsurjective : Function.Surjective field)
    (hlookup : ∀ c : Config, c.settings.lookup key = some (.texts (field c)))
    (hnext : ∀ base, field ((s.withConfig base).next raw).config =
      (mergeList (field base) isSet (textsUnder raw key)).1)
    (hgiven : raw.get? key = some v) :
    s.Discards raw key ↔ (∀ items, v ≠ .list items) ∨ isSet = true ∧ v = .list [] := by
  have hunder : textsUnder raw key = v.asTexts? := by rw [textsUnder, hgiven, Option.bind_some]
  rw [discards_iff_forall_next h]
  simp only [hlookup, Option.some.injEq, Setting.texts.injEq, hnext, hunder]
  rw [← asTexts?_eq_none_iff, ← asTexts?_eq_nil_iff, ← forall_mergeList_eq_iff,
    hsurjective.forall]

theorem discards_patternKeys_iff (hkey : key ∈ Config.patternKeys) (hgiven : raw.get? key = some v) :
    s.Discards raw key ↔ (∀ items, v ≠ .list items) ∨
      key = "include" ∧ s.includeSet = true ∧ v = .list [] ∨
      key = "exclude" ∧ s.excludeSet = true ∧ v = .list [] := by
  simp only [Config.patternKeys, List.mem_cons, List.not_mem_nil, or_false] at hkey
  rcases hkey with rfl | rfl
  · rw [discards_patterns_iff h Config.included (fun l => ⟨{ Config.default with included := l }, rfl⟩)
      (fun _ => rfl) (fun _ => rfl) hgiven]
    simp
  · rw [discards_patterns_iff h Config.excluded (fun l => ⟨{ Config.default with excluded := l }, rfl⟩)
      (fun _ => rfl) (fun _ => rfl) hgiven]
    simp

theorem discards_truth_iff (hkey : key ∈ Config.truthKeys) (hgiven : raw.get? key = some v) :
    s.Discards raw key ↔ v.asTruth? = none := by
  have htruth : ∀ old, truthAt raw key old = v.asTruth?.getD old := by
    intro old
    rw [truthAt_eq, hgiven, Option.bind_some]
  simp only [Config.truthKeys, List.mem_cons, List.not_mem_nil, or_false] at hkey
  have hinjective : Function.Injective Setting.truth := fun _ _ => Setting.truth.inj
  rcases hkey with rfl | rfl | rfl
  · exact discards_iff_eq_none Config.includeTests _ hinjective
      (fun b => ⟨{ Config.default with includeTests := b }, rfl⟩) (fun _ => rfl) (fun _ => htruth _) h
  · exact discards_iff_eq_none Config.onlyInlineable _ hinjective
      (fun b => ⟨{ Config.default with onlyInlineable := b }, rfl⟩) (fun _ => rfl) (fun _ => htruth _) h
  · exact discards_iff_eq_none Config.showNoinline _ hinjective
      (fun b => ⟨{ Config.default with showNoinline := b }, rfl⟩) (fun _ => rfl) (fun _ => htruth _) h

theorem discards_format_iff (hgiven : raw.get? "format" = some v) :
    s.Discards raw "format" ↔ v.asFormat? = none := by
  have hword : ∀ f g : ReportFormat, f.word = g.word → f = g := by
    intro f g
    cases f <;> cases g <;> decide
  have hinjective : Function.Injective fun f : ReportFormat => Setting.word f.word :=
    fun f g heq => hword f g (Setting.word.inj heq)
  have hnext : ∀ base, ((s.withConfig base).next raw).config.format = v.asFormat?.getD base.format := by
    intro base
    show formatUnder raw base.format = _
    rw [formatUnder, hgiven, Option.bind_some]
  exact discards_iff_eq_none Config.format _ hinjective
    (fun f => ⟨{ Config.default with format := f }, rfl⟩) (fun _ => rfl) hnext h

theorem discards_maxFiles_iff (hgiven : raw.get? "max_files" = some v) :
    s.Discards raw "max_files" ↔ v.asPositive? = none := by
  have hnext : ∀ base,
      ((s.withConfig base).next raw).config.maxFiles = v.asPositive?.getD base.maxFiles := by
    intro base
    show (positive? (integerUnder raw "max_files")).getD _ = _
    rw [positive?_integerUnder, hgiven, Option.bind_some]
    rfl
  exact discards_iff_eq_none Config.maxFiles _ (fun _ _ => Setting.number.inj)
    (fun n => ⟨{ Config.default with maxFiles := n }, rfl⟩) (fun _ => rfl) hnext h

theorem discards_integer_iff (hkey : key ∈ Config.integerKeys) (hlimit : key ≠ "max_files")
    (hgiven : raw.get? key = some v) : s.Discards raw key ↔ v.asInteger? = none := by
  have hinteger : ∀ old, (integerUnder raw key).getD old = v.asInteger?.getD old := by
    intro old
    rw [integerUnder, hgiven, Option.bind_some]
  have hinjective : Function.Injective Setting.number := fun _ _ => Setting.number.inj
  simp only [Config.integerKeys, List.mem_cons, List.not_mem_nil, or_false] at hkey
  rcases hkey with rfl | rfl | rfl
  · exact absurd rfl hlimit
  · exact discards_iff_eq_none Config.inlineBudget _ hinjective
      (fun n => ⟨{ Config.default with inlineBudget := n }, rfl⟩) (fun _ => rfl)
      (fun _ => hinteger _) h
  · exact discards_iff_eq_none Config.maxFuncCalls _ hinjective
      (fun n => ⟨{ Config.default with maxFuncCalls := n }, rfl⟩) (fun _ => rfl)
      (fun _ => hinteger _) h

/-- Of the values under the key of an integer, truth values are discarded in silence, and so is an
integer that is no limit. -/
theorem discards_silently_integer_iff (hkey : key ∈ Config.integerKeys)
    (hgiven : raw.get? key = some v) (hnull : v ≠ .null) :
    s.Discards raw key ∧ ¬ (v ≠ .null ∧ (∀ b, v ≠ .bool b) ∧ v.asInteger? = none) ↔
      (∃ b, v = .bool b) ∨ key = "max_files" ∧ ∃ n, v.asInteger? = some n ∧ n < 1 := by
  by_cases hbool : ∃ b, v = .bool b
  · obtain ⟨b, rfl⟩ := hbool
    refine iff_of_true ⟨?_, fun halarm => halarm.2.1 b rfl⟩ (.inl ⟨b, rfl⟩)
    by_cases hlimit : key = "max_files"
    · subst hlimit
      rw [discards_maxFiles_iff h hgiven]
      rfl
    · rw [discards_integer_iff h hkey hlimit hgiven]
      rfl
  · rw [or_iff_right hbool, and_iff_right hnull, and_iff_right (not_exists.mp hbool)]
    by_cases hlimit : key = "max_files"
    · subst hlimit
      rw [discards_maxFiles_iff h hgiven, Value.asPositive?, and_iff_right rfl]
      cases v.asInteger? <;> simp
    · rw [discards_integer_iff h hkey hlimit hgiven, and_not_self_iff, false_iff]
      exact fun hother => hlimit hother.1

end Sorts

/-! ## What is passed over -/

theorem not_alarming (hkey : key ∈ Config.patternKeys ∨ key ∈ Config.truthKeys) : ¬ Alarming key v := by
  intro h
  rcases h.key_cases with rfl | rfl | rfl | rfl <;> exact absurd hkey (by decide)

theorem passedOver_patterns_iff (hkey : key ∈ Config.patternKeys) :
    s.PassedOver key v ↔ (∀ items, v ≠ .list items) ∨
      key = "include" ∧ s.includeSet = true ∧ v = .list [] ∨
      key = "exclude" ∧ s.excludeSet = true ∧ v = .list [] := by
  constructor
  · intro hpassed
    cases hpassed with
    | patterns _ hlist => exact .inl hlist
    | nothingIncluded hset => exact .inr (.inl ⟨rfl, hset, rfl⟩)
    | nothingExcluded hset => exact .inr (.inr ⟨rfl, hset, rfl⟩)
    | truth hother => exact absurd hother (by revert key; decide)
    | integer hother => exact absurd hother (by revert key; decide)
    | limit => exact absurd hkey (by decide)
  · rintro (hlist | ⟨rfl, hset, rfl⟩ | ⟨rfl, hset, rfl⟩)
    · exact .patterns hkey hlist
    · exact .nothingIncluded hset
    · exact .nothingExcluded hset

theorem passedOver_truth_iff (hkey : key ∈ Config.truthKeys) :
    s.PassedOver key v ↔ v.asTruth? = none := by
  constructor
  · intro hpassed
    cases hpassed with
    | truth _ hread => exact hread
    | patterns hother => exact absurd hother (by revert key; decide)
    | integer hother => exact absurd hother (by revert key; decide)
    | nothingIncluded | nothingExcluded | limit => exact absurd hkey (by decide)
  · intro hread
    exact .truth hkey hread

theorem passedOver_integer_iff (hkey : key ∈ Config.integerKeys) :
    s.PassedOver key v ↔ (∃ b, v = .bool b) ∨
      key = "max_files" ∧ ∃ n, v.asInteger? = some n ∧ n < 1 := by
  constructor
  · intro hpassed
    cases hpassed with
    | integer _ b => exact .inl ⟨b, rfl⟩
    | limit hread hn => exact .inr ⟨rfl, _, hread, hn⟩
    | patterns hother => exact absurd hother (by revert key; decide)
    | truth hother => exact absurd hother (by revert key; decide)
    | nothingIncluded | nothingExcluded => exact absurd hkey (by decide)
  · rintro (⟨b, rfl⟩ | ⟨rfl, n, hread, hn⟩)
    · exact .integer hkey b
    · exact .limit hread hn

theorem not_passedOver_format (hkey : key = "format") : ¬ s.PassedOver key v := by
  intro hpassed
  cases hpassed with
  | nothingIncluded | nothingExcluded | limit => exact absurd hkey (by decide)
  | patterns hother | truth hother | integer hother =>
    subst hkey
    exact absurd hother (by decide)

/-- What is warned of is discarded. -/
theorem Alarming.discards (halarm : Alarming key v) (h : (s.merge raw).Returns)
    (hgiven : raw.get? key = some v) : s.Discards raw key := by
  cases halarm with
  | integer hkey _ _ hread =>
    by_cases hlimit : key = "max_files"
    · subst hlimit
      rw [discards_maxFiles_iff h hgiven, Value.asPositive?, hread]
      rfl
    · rwa [discards_integer_iff h hkey hlimit hgiven]
  | format _ hread => rwa [discards_format_iff h hgiven]

theorem Alarming.ne_null (halarm : Alarming key v) : v ≠ .null := by
  cases halarm with
  | integer _ hnull => exact hnull
  | format hnull => exact hnull

end Settings

open Settings

/-- What merging a mapping warns of are values that it discards, each named with its key. The values that
it discards without a word are those that are passed over: whatever is no list for the patterns, and a
list without items after others; what is no truth value under the key of one; truth values for numbers;
and a greatest number of files below one. -/
theorem silent_values_of_merge {s : Settings} {raw : Value} (h : (s.merge raw).Returns) :
    (∀ m ∈ (s.merge raw).outcome.messages, ∃ key ∈ Config.keys, ∃ v, raw.get? key = some v ∧
      v ≠ .null ∧ s.Discards raw key ∧ m = s.warningOf key v) ∧
    ∀ key ∈ Config.keys, ∀ v, raw.get? key = some v → v ≠ .null →
      (s.Discards raw key ∧ ¬ s.Warns raw key ↔ s.PassedOver key v) := by
  constructor
  · intro m hm
    obtain ⟨key, v, hgiven, halarm, rfl⟩ := (mem_messages_merge h).mp hm
    exact ⟨key, halarm.mem_keys, v, hgiven, halarm.ne_null, halarm.discards h hgiven, rfl⟩
  · intro key hkeys v hgiven hnull
    rw [warns_iff h hkeys hgiven]
    rcases Config.mem_keys_iff.mp hkeys with hkey | hkey | hkey | hkey
    · rw [passedOver_patterns_iff hkey, and_iff_left (not_alarming (.inl hkey))]
      exact discards_patternKeys_iff h hkey hgiven
    · rw [discards_truth_iff h hkey hgiven, passedOver_truth_iff hkey,
        and_iff_left (not_alarming (.inr hkey))]
    · rw [alarming_integer_iff hkey, passedOver_integer_iff hkey]
      exact discards_silently_integer_iff h hkey hgiven hnull
    · refine iff_of_false ?_ (not_passedOver_format hkey)
      subst hkey
      rw [discards_format_iff h hgiven, alarming_format_iff]
      rintro ⟨hread, hquiet⟩
      exact hquiet ⟨hnull, hread⟩

/-- A mapping with a word for the patterns and a list for a number. -/
def looseMapping : Value := .object [("include", .text "pkg"), ("inline_budget", .list [])]

/-- The list for a number is warned of, and the word for the patterns is lost without a warning. -/
theorem looseMapping_silent :
    (start.merge looseMapping).outcome.messages =
        [⟨.warning, .config, "Ignoring non-integer inline_budget=[]."⟩] ∧
      start.Discards looseMapping "include" ∧ ¬ start.Warns looseMapping "include" := by
  have hmessages : (start.merge looseMapping).outcome.messages =
      [⟨.warning, .config, "Ignoring non-integer inline_budget=[]."⟩] := by decide +kernel
  have hreturns : (start.merge looseMapping).Returns := ⟨start.next looseMapping, by decide +kernel⟩
  have hgiven : looseMapping.get? "include" = some (.text "pkg") := rfl
  have hsilent := (silent_values_of_merge hreturns).2 "include" (by decide) _ hgiven (by simp)
  exact ⟨hmessages, hsilent.mpr (.patterns (by decide) (by simp))⟩

end GoMeter
