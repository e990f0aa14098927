import GoMeter.Proofs.Config.Law
import GoMeter.Proofs.Value

/-!
# A configuration without complaints is obeyed

Checking and loading read the same files by different rules: checking wants every value to be of its
type, and loading takes what can be converted. Where checking has no complaint there is nothing to
convert, so loading takes every value as it stands.

* `Config.Obeys`: a mapping is obeyed, each of its values being the new setting, and what it does not
  mention is kept. `Config.Obeyed`: several mappings are, in order.
* `Config.accepted_of_complaints`: what a mapping without complaints looks like.
* `Config.Accepted.calm_merge`, `Config.Accepted.obeys`: it is merged without a warning and obeyed.
* `load_obeys_checked_files`: files without complaints are loaded faithfully.
-/

namespace GoMeter

namespace Config

/-! ## Obeying a mapping -/

/-- What becomes of a setting if a mapping has `given` under its key: a value other than null has to mean
the new setting, and otherwise the old one is kept. -/
def Takes {α : Type} (means : Value → α → Prop) (given : Option Value) (old new : α) : Prop :=
  match given with
  | none | some .null => new = old
  | some v => means v new

/-- Whether a mapping has a value other than null under a key. -/
def gives (key : String) (raw : Value) : Bool :=
  match raw.get? key with
  | none | some .null => false
  | some _ => true

/-- A list of texts is the new list of patterns if it is the first one, and else it is added to the old
list. -/
def MeansPatterns (isFirst : Bool) (old : List String) (v : Value) (new : List String) : Prop :=
  ∃ items : List String, v = .list (items.map .text) ∧ new = if isFirst then items else old ++ items

/-- A text means the report format whose word it is in lower case. -/
def MeansFormat (v : Value) (new : ReportFormat) : Prop :=
  ∃ s, v = .text s ∧ String.ofList (Text.lower s.toList) = new.word

/-- A mapping is obeyed after those in `earlier`: it has no keys but those of a configuration, and every
setting takes the value under its key. -/
structure Obeys (earlier : List Value) (raw : Value) (old new : Config) : Prop where
  keys : ∀ k ∈ keysOf raw, ∃ key ∈ Config.keys, k = .text key
  included : Takes (MeansPatterns (!earlier.any (gives "include")) old.included)
    (raw.get? "include") old.included new.included
  excluded : Takes (MeansPatterns (!earlier.any (gives "exclude")) old.excluded)
    (raw.get? "exclude") old.excluded new.excluded
  includeTests : Takes (fun v b => v = .bool b) (raw.get? "include_tests")
    old.includeTests new.includeTests
  maxFiles : Takes (fun v n => v = .int n) (raw.get? "max_files") old.maxFiles new.maxFiles
  inlineBudget : Takes (fun v n => v = .int n) (raw.get? "inline_budget")
    old.inlineBudget new.inlineBudget
  maxFuncCalls : Takes (fun v n => v = .int n) (raw.get? "max_func_calls")
    old.maxFuncCalls new.maxFuncCalls
  onlyInlineable : Takes (fun v b => v = .bool b) (raw.get? "only_inlineable")
    old.onlyInlineable new.onlyInlineable
  showNoinline : Takes (fun v b => v = .bool b) (raw.get? "show_noinline")
    old.showNoinline new.showNoinline
  format : Takes MeansFormat (raw.get? "format") old.format new.format

/-- Several mappings are obeyed one after the other, after those in `earlier`. -/
def Obeyed (earlier : List Value) (old : Config) : List Value → Config → Prop
  | [], new => new = old
  | raw :: rest, new => ∃ between, Obeys earlier raw old between ∧
      Obeyed (earlier ++ [raw]) between rest new

/-! ## Mappings without complaints -/

/-- What stands under a key is nothing, null, or a value that fits. -/
inductive GivenAs (fits : Value → Prop) : Option Value → Prop where
  | absent : GivenAs fits none
  | null : GivenAs fits (some .null)
  | value {v : Value} (h : fits v) : GivenAs fits (some v)

/-- A list of texts. -/
def IsTexts (v : Value) : Prop := ∃ items : List String, v = .list (items.map .text)

/-- What a mapping without complaints looks like. -/
structure Accepted (raw : Value) : Prop where
  keys : ∀ k ∈ keysOf raw, ∃ key ∈ Config.keys, k = .text key
  patterns : ∀ key ∈ ["include", "exclude"], GivenAs IsTexts (raw.get? key)
  truths : ∀ key ∈ ["include_tests", "only_inlineable", "show_noinline"],
    GivenAs (fun v => ∃ b, v = .bool b) (raw.get? key)
  maxFiles : GivenAs (fun v => ∃ n, 1 ≤ n ∧ v = .int n) (raw.get? "max_files")
  integers : ∀ key ∈ ["inline_budget", "max_func_calls"],
    GivenAs (fun v => ∃ n, 0 ≤ n ∧ v = .int n) (raw.get? key)
  format : GivenAs (fun v => ∃ f, MeansFormat v f) (raw.get? "format")

variable {raw : Value} {key : String}

theorem exists_texts {items : List Value} (h : ∀ v ∈ items, ∃ s, v = .text s) :
    ∃ texts : List String, items = texts.map .text := by
  induction items with
  | nil => exact ⟨[], rfl⟩
  | cons v rest ih =>
    obtain ⟨s, rfl⟩ := h v List.mem_cons_self
    obtain ⟨texts, rfl⟩ := ih fun w hw => h w (List.mem_cons_of_mem _ hw)
    exact ⟨s :: texts, rfl⟩

theorem givenAs_of_listComplaint (h : listComplaint raw key = []) :
    GivenAs IsTexts (raw.get? key) := by
  unfold listComplaint at h
  split at h
  case h_1 hgiven => exact hgiven ▸ .absent
  case h_2 items hgiven =>
    rw [hgiven]
    obtain ⟨texts, rfl⟩ : ∃ texts : List String, items = texts.map .text := by
      refine exists_texts fun v hv => ?_
      dsimp only at h
      split_ifs at h with hall
      have htext := List.all_eq_true.mp hall v hv
      cases v <;> simp at htext
      exact ⟨_, rfl⟩
    exact .value ⟨texts, rfl⟩
  case h_3 => simp at h

theorem givenAs_of_integerComplaint {least : Int} (h : integerComplaint raw key least = []) :
    GivenAs (fun v => ∃ n, least ≤ n ∧ v = .int n) (raw.get? key) := by
  unfold integerComplaint at h
  split at h
  case h_1 hgiven => exact hgiven ▸ .absent
  case h_2 hgiven => exact hgiven ▸ .null
  case h_3 n hgiven =>
    rw [hgiven]
    refine .value ⟨n, ?_, rfl⟩
    by_contra hless
    simp [Int.not_le.mp hless] at h
  case h_4 => simp at h

theorem givenAs_of_truthComplaint (h : truthComplaint raw key = []) :
    GivenAs (fun v => ∃ b, v = .bool b) (raw.get? key) := by
  unfold truthComplaint at h
  split at h
  case h_1 hgiven => exact hgiven ▸ .absent
  case h_2 hgiven => exact hgiven ▸ .null
  case h_3 b hgiven => exact hgiven ▸ .value ⟨b, rfl⟩
  case h_4 => simp at h

theorem word_of_ofWord? {s : String} {f : ReportFormat} (h : ReportFormat.ofWord? s = some f) :
    f.word = s := by
  simpa using List.find?_some h

theorem givenAs_of_formatComplaint (h : formatComplaint raw = []) :
    GivenAs (fun v => ∃ f, MeansFormat v f) (raw.get? "format") := by
  unfold formatComplaint at h
  split at h
  case h_1 hgiven => exact hgiven ▸ .absent
  case h_2 hgiven => exact hgiven ▸ .null
  case h_3 s hgiven =>
    rw [hgiven]
    split_ifs at h with hword
    obtain ⟨f, hf⟩ := Option.isSome_iff_exists.mp hword
    exact .value ⟨f, s, rfl, (word_of_ofWord? hf).symm⟩
  case h_4 => simp at h

theorem accepted_of_complaints (h : complaints raw = []) : Accepted raw := by
  unfold complaints at h
  simp only [List.append_eq_nil_iff] at h
  obtain ⟨⟨⟨⟨⟨⟨⟨⟨⟨hkeys, hinclude⟩, hexclude⟩, htests⟩, hinlineable⟩, hnoinline⟩, hfiles⟩, hbudget⟩,
    hcalls⟩, hformat⟩ := h
  refine ⟨fun k hk => ?_, ?_, ?_, givenAs_of_integerComplaint hfiles, ?_,
    givenAs_of_formatComplaint hformat⟩
  · have hknown := List.flatMap_eq_nil_iff.mp hkeys k hk
    unfold keyComplaint at hknown
    split at hknown
    · next key =>
      split_ifs at hknown with hmem
      exact ⟨key, List.contains_iff_mem.mp hmem, rfl⟩
    · simp at hknown
  · simp only [List.forall_mem_cons]
    exact ⟨givenAs_of_listComplaint hinclude, givenAs_of_listComplaint hexclude, by simp⟩
  · simp only [List.forall_mem_cons]
    exact ⟨givenAs_of_truthComplaint htests, givenAs_of_truthComplaint hinlineable,
      givenAs_of_truthComplaint hnoinline, by simp⟩
  · simp only [List.forall_mem_cons]
    exact ⟨givenAs_of_integerComplaint hbudget, givenAs_of_integerComplaint hcalls, by simp⟩

/-! ## Reading what is accepted -/

theorem calm_listAt (h : GivenAs IsTexts (raw.get? key)) :
    (Attempt.ofExcept (Settings.listAt raw key)).Calm (Settings.textsUnder raw key) := by
  unfold Settings.listAt Settings.textsUnder
  generalize raw.get? key = given at h
  cases h with
  | absent => exact Attempt.calm_ofExcept _
  | null => exact Attempt.calm_ofExcept _
  | value hv =>
    obtain ⟨items, rfl⟩ := hv
    have hwritable : (items.map Value.text).all Value.isWritable = true := by
      simp [Value.isWritable]
    simp only [hwritable, if_true]
    exact Attempt.calm_ofExcept _

theorem calm_integerAt {least : Int}
    (h : GivenAs (fun v => ∃ n, least ≤ n ∧ v = .int n) (raw.get? key)) :
    (Settings.integerAt raw key).Calm (Settings.integerUnder raw key) := by
  unfold Settings.integerAt Settings.integerUnder
  generalize raw.get? key = given at h
  cases h with
  | absent => exact Attempt.calm_pure _
  | null => exact Attempt.calm_pure _
  | value hv =>
    obtain ⟨n, -, rfl⟩ := hv
    exact Attempt.calm_pure _

theorem toLower_of_isBlank {c : Char} (h : Text.isBlank c) : c.toLower = c := by
  simp only [Text.isBlank, Text.blankRanges, CodeRanges.has, List.size_toArray, List.length_cons,
    List.length_nil, Nat.reduceAdd, List.any_toArray', List.any_cons, List.any_nil, Bool.or_false,
    Bool.or_eq_true, Bool.and_eq_true, decide_eq_true_eq] at h
  unfold Char.toLower
  rw [dif_neg]
  rintro ⟨hlow, hhigh⟩
  have hlow : 65 ≤ c.toNat := hlow
  have hhigh : c.toNat ≤ 90 := hhigh
  omega

theorem trimChars_of_forall_not {p : Char → Bool} {cs : List Char} (h : ∀ c ∈ cs, p c = false) :
    Text.trimChars p cs = cs := by
  have hkeep : ∀ l : List Char, (∀ c ∈ l, p c = false) → l.dropWhile p = l := by
    intro l hl
    cases l with
    | nil => rfl
    | cons c rest => rw [List.dropWhile_cons, hl c List.mem_cons_self]; rfl
  rw [Text.trimChars, hkeep cs h, Text.trimEndChars, hkeep cs.reverse (by simpa using h),
    List.reverse_reverse]

/-- A text that is the word for a format in lower case has no blanks around it. -/
theorem strip_of_lower {cs : List Char} {f : ReportFormat}
    (h : String.ofList (Text.lower cs) = f.word) : Text.strip cs = cs := by
  refine trimChars_of_forall_not fun c hc => ?_
  by_contra hblank
  rw [Bool.not_eq_false] at hblank
  have hmem : c ∈ f.word.toList := by
    rw [← h, String.toList_ofList, Text.lower, List.mem_map]
    exact ⟨c, hc, toLower_of_isBlank hblank⟩
  have hword : f.word.toList.all (fun d => !Text.isBlank d) = true := by
    cases f <;> decide +kernel
  have hfree := List.all_eq_true.mp hword c hmem
  rw [hblank] at hfree
  cases hfree

theorem asFormat?_of_means {v : Value} {f : ReportFormat} (h : MeansFormat v f) :
    v.asFormat? = some f := by
  obtain ⟨s, rfl, hword⟩ := h
  rw [Value.asFormat?_eq (by simp), Value.plain, Settings.folded, strip_of_lower hword, hword]
  cases f <;> decide

theorem calm_formatAt (h : GivenAs (fun v => ∃ f, MeansFormat v f) (raw.get? "format"))
    (default : ReportFormat) :
    (Settings.formatAt raw default).Calm (Settings.formatUnder raw default) := by
  unfold Settings.formatAt Settings.formatUnder
  generalize raw.get? "format" = given at h
  cases h with
  | absent => exact Attempt.calm_pure _
  | null => exact Attempt.calm_pure _
  | value hv =>
    obtain ⟨f, hf⟩ := hv
    have hread := asFormat?_of_means hf
    obtain ⟨s, rfl, -⟩ := hf
    rw [Option.bind_some, hread]
    simp only [Value.asFormat?] at hread
    simp only [Value.isWritable, if_true, hread]
    exact Attempt.calm_pure _

/-- A mapping without complaints is merged without a warning. -/
theorem Accepted.calm_merge (h : Accepted raw) (s : Settings) : (s.merge raw).Calm (s.next raw) := by
  rw [Settings.merge_eq]
  exact (calm_listAt (h.patterns _ (by simp))).bind <| (calm_listAt (h.patterns _ (by simp))).bind <|
    (calm_integerAt h.maxFiles).bind <| (calm_integerAt (h.integers _ (by simp))).bind <|
    (calm_integerAt (h.integers _ (by simp))).bind <| (calm_formatAt h.format _).bind <|
    Attempt.calm_pure _

/-! ## Obeying what is accepted -/

theorem takes_integer {least : Int} {given : Option Value}
    (h : GivenAs (fun v => ∃ n, least ≤ n ∧ v = .int n) given) (old : Int) :
    Takes (fun v n => v = .int n) given old ((given.bind Value.asInteger?).getD old) := by
  cases h with
  | absent | null => rfl
  | value hv =>
    obtain ⟨n, -, rfl⟩ := hv
    rfl

theorem takes_positive {given : Option Value}
    (h : GivenAs (fun v => ∃ n, 1 ≤ n ∧ v = .int n) given) (old : Int) :
    Takes (fun v n => v = .int n) given old ((given.bind Value.asPositive?).getD old) := by
  cases h with
  | absent | null => rfl
  | value hv =>
    obtain ⟨n, hn, rfl⟩ := hv
    have hread : (Value.int n).asPositive? = some n := by
      rw [Value.asPositive?, show (Value.int n).asInteger? = some n from rfl, Option.filter_some,
        if_pos (by simpa using hn)]
    rw [Option.bind_some, hread]
    rfl

theorem takes_truth {given : Option Value} (h : GivenAs (fun v => ∃ b, v = .bool b) given)
    (old : Bool) :
    Takes (fun v b => v = .bool b) given old ((given.bind Value.asTruth?).getD old) := by
  cases h with
  | absent | null => rfl
  | value hv =>
    obtain ⟨b, rfl⟩ := hv
    rfl

theorem takes_format {given : Option Value} (h : GivenAs (fun v => ∃ f, MeansFormat v f) given)
    (old : ReportFormat) :
    Takes MeansFormat given old ((given.bind Value.asFormat?).getD old) := by
  cases h with
  | absent | null => rfl
  | value hv =>
    obtain ⟨f, hf⟩ := hv
    rw [Option.bind_some, asFormat?_of_means hf]
    obtain ⟨s, rfl, -⟩ := id hf
    exact hf

/-- Among accepted mappings, those with a list under a key are those with a value there. -/
theorem hasList_entries {earlier : List Value}
    (h : ∀ raw ∈ earlier, GivenAs IsTexts (raw.get? key)) :
    hasList (entries key earlier) = earlier.any (gives key) := by
  have hone : ∀ raw ∈ earlier,
      ((raw.get? key).any fun v => v.asTexts?.isSome) = gives key raw := by
    intro raw hraw
    have hgiven := h raw hraw
    unfold gives
    generalize raw.get? key = given at hgiven
    cases hgiven with
    | absent | null => rfl
    | value hv =>
      obtain ⟨items, rfl⟩ := hv
      rfl
  rw [hasList, entries, List.any_filterMap, Bool.eq_iff_iff, List.any_eq_true, List.any_eq_true]
  refine exists_congr fun raw => and_congr_right fun hraw => ?_
  rw [← hone raw hraw]
  cases raw.get? key <;> simp

theorem takes_patterns {earlier : List Value} (default : List String)
    (hearlier : ∀ raw ∈ earlier, GivenAs IsTexts (raw.get? key))
    (h : GivenAs IsTexts (raw.get? key)) :
    Takes (MeansPatterns (!earlier.any (gives key)) (patternsOf default (entries key earlier)))
      (raw.get? key) (patternsOf default (entries key earlier))
      (patternsOf default (entries key (earlier ++ [raw]))) := by
  have hnew : (Settings.mergeList (patternsOf default (entries key earlier))
      (hasList (entries key earlier)) (Settings.textsUnder raw key)).1 =
        patternsOf default (entries key (earlier ++ [raw])) :=
    congrArg Prod.fst (Settings.mergeList_patternsOf default key earlier raw)
  rw [← hnew, hasList_entries hearlier, Settings.textsUnder]
  generalize raw.get? key = given at h
  cases h with
  | absent | null => rfl
  | value hv =>
    obtain ⟨items, rfl⟩ := hv
    refine ⟨items, rfl, ?_⟩
    have hread : (Value.list (items.map .text)).asTexts? = some items := by
      simp [Value.asTexts?, Function.comp_def, Value.plain]
    rw [Option.bind_some, hread, Settings.mergeList]
    cases earlier.any (gives key) <;> rfl

/-- A mapping without complaints is obeyed. -/
theorem Accepted.obeys {earlier : List Value} (h : Accepted raw)
    (hearlier : ∀ raw ∈ earlier, Accepted raw) :
    Obeys earlier raw (merged earlier) (merged (earlier ++ [raw])) where
  keys := h.keys
  included := takes_patterns _ (fun r hr => (hearlier r hr).patterns _ (by simp))
    (h.patterns _ (by simp))
  excluded := takes_patterns _ (fun r hr => (hearlier r hr).patterns _ (by simp))
    (h.patterns _ (by simp))
  includeTests := by
    simp only [merged, lastOf_concat]
    exact takes_truth (h.truths _ (by simp)) _
  maxFiles := by
    simp only [merged, lastOf_concat]
    exact takes_positive h.maxFiles _
  inlineBudget := by
    simp only [merged, lastOf_concat]
    exact takes_integer (h.integers _ (by simp)) _
  maxFuncCalls := by
    simp only [merged, lastOf_concat]
    exact takes_integer (h.integers _ (by simp)) _
  onlyInlineable := by
    simp only [merged, lastOf_concat]
    exact takes_truth (h.truths _ (by simp)) _
  showNoinline := by
    simp only [merged, lastOf_concat]
    exact takes_truth (h.truths _ (by simp)) _
  format := by
    simp only [merged, lastOf_concat]
    exact takes_format h.format _

theorem obeyed_merged {earlier raws : List Value} (h : ∀ raw ∈ earlier ++ raws, Accepted raw) :
    Obeyed earlier (merged earlier) raws (merged (earlier ++ raws)) := by
  induction raws generalizing earlier with
  | nil => simp [Obeyed]
  | cons raw rest ih =>
    have hraw : Accepted raw := h raw (by simp)
    have hobeys := hraw.obeys fun r hr => h r (List.mem_append_left _ hr)
    refine ⟨_, hobeys, ?_⟩
    have hrest : Obeyed (earlier ++ [raw]) (merged (earlier ++ [raw])) rest
        (merged (earlier ++ [raw] ++ rest)) := ih (by simpa using h)
    simpa using hrest

/-! ## Files without complaints -/

variable {fs : FileSystem}

/-- A file holds a mapping without complaints. -/
structure Holds (fs : FileSystem) (p : Path) (raw : Value) : Prop where
  exists_file : fs.exists? p = true
  contents_eq : contents fs p = .ok (.value raw)
  isMap : raw.isMap = true
  accepted : Accepted raw

theorem exists_holds_of_checkFile {p : Path} (h : checkFile fs p = .ok []) :
    ∃ raw, Holds fs p raw := by
  unfold checkFile at h
  cases hexists : fs.exists? p with
  | false => simp [hexists] at h
  | true =>
    cases hcontents : contents fs p with
    | error fault => simp [hexists, hcontents, bind, Except.bind] at h
    | ok found =>
      cases found with
      | unreadable reason => simp [hexists, hcontents, bind, Except.bind, pure, Except.pure] at h
      | value raw =>
        cases hmap : raw.isMap with
        | false => simp [hexists, hcontents, hmap, bind, Except.bind, pure, Except.pure] at h
        | true =>
          simp only [hexists, hcontents, hmap, bind, Except.bind, pure, Except.pure, Bool.not_true,
            Bool.false_eq_true, if_false] at h
          split at h
          · cases h
          · have hnone : complaints raw = [] := List.map_eq_nil_iff.mp (Except.ok.inj h)
            exact ⟨raw, hexists, hcontents, hmap, accepted_of_complaints hnone⟩

theorem exists_holds_of_check {ps : List Path} (h : check fs ps = .ok []) :
    ∃ raws, List.Forall₂ (Holds fs) ps raws := by
  obtain ⟨lists, hlists, hflat⟩ := exists_of_bind_ok h
  have hnil : ∀ l ∈ lists, l = [] := List.flatten_eq_nil_iff.mp (Except.ok.inj hflat)
  have hfiles := mapM_eq_ok_iff.mp hlists
  clear h hlists hflat
  induction hfiles with
  | nil => exact ⟨[], .nil⟩
  | @cons p l ps lists hp _ ih =>
    rw [hnil l List.mem_cons_self] at hp
    obtain ⟨raw, hraw⟩ := exists_holds_of_checkFile hp
    obtain ⟨raws, hraws⟩ := ih fun m hm => hnil m (List.mem_cons_of_mem _ hm)
    exact ⟨raw :: raws, .cons hraw hraws⟩

theorem accepted_of_holds {ps : List Path} {raws : List Value}
    (h : List.Forall₂ (Holds fs) ps raws) : ∀ raw ∈ raws, Accepted raw := by
  induction h with
  | nil => simp
  | cons hp _ ih =>
    rw [List.forall_mem_cons]
    exact ⟨hp.accepted, ih⟩

/-- A file without complaints is added without a warning. -/
theorem Holds.calm_addFile {p : Path} (h : Holds fs p raw) (s : Settings) :
    (addFile fs s p).Calm (s.next raw) := by
  have hmapping : (addMapping s p raw).Calm (s.next raw) :=
    ((h.accepted.calm_merge s).mapFault _).bind <| (Attempt.calm_debug _ _).bind <|
      Attempt.calm_pure _
  unfold addFile
  rw [h.exists_file, h.contents_eq]
  refine (Attempt.calm_ofExcept _).bind ?_
  simpa [h.isMap] using hmapping

theorem calm_foldlM_addFile {ps : List Path} {earlier raws : List Value}
    (h : List.Forall₂ (Holds fs) ps raws) :
    (ps.foldlM (addFile fs) (.ofMappings earlier)).Calm (.ofMappings (earlier ++ raws)) := by
  induction h generalizing earlier with
  | nil => simpa using Attempt.calm_pure _
  | @cons p raw ps raws hp _ ih =>
    have hfirst := hp.calm_addFile (.ofMappings earlier)
    rw [Settings.next_ofMappings] at hfirst
    have hrest : (ps.foldlM (addFile fs) (.ofMappings (earlier ++ [raw]))).Calm
        (.ofMappings (earlier ++ [raw] ++ raws)) := ih
    rw [List.append_assoc, List.singleton_append] at hrest
    exact hfirst.bind hrest

theorem calm_load {root : Path} {paths : Option (List Path)} {raws : List Value}
    (h : List.Forall₂ (Holds fs) (files root paths) raws) :
    (load fs root paths).Calm (merged raws) := by
  unfold load
  split
  · next hmissing =>
    -- The usual file would have to be there.
    rw [Bool.and_eq_true, Option.isNone_iff_eq_none, Bool.not_eq_true'] at hmissing
    obtain ⟨rfl, hmissing⟩ := hmissing
    cases h with
    | cons hp _ =>
      rw [hp.exists_file] at hmissing
      cases hmissing
  · have hfiles : ((files root paths).foldlM (addFile fs) (.ofMappings [])).Calm (.ofMappings raws) :=
      calm_foldlM_addFile h
    exact hfiles.bind (Attempt.calm_pure _)

end Config

/-- Files without complaints are loaded faithfully: loading fails nowhere and warns of nothing, and the
configuration comes from the defaults by obeying the mappings of the files in order, where every value
other than null is taken as it stands and everything else is kept. -/
theorem load_obeys_checked_files {fs : FileSystem} {root : Path} {paths : Option (List Path)}
    (h : Config.check fs (Config.files root paths) = .ok []) :
    ∃ raws c,
      List.Forall₂ (fun p raw => Config.contents fs p = .ok (.value raw) ∧ raw.isMap)
        (Config.files root paths) raws ∧
      (Config.load fs root paths).outcome.result = .ok c ∧
      (∀ m ∈ (Config.load fs root paths).outcome.messages, m.isAlarm = false) ∧
      Config.Obeyed [] .default raws c := by
  obtain ⟨raws, hraws⟩ := Config.exists_holds_of_check h
  have hcalm := Config.calm_load hraws
  have hobeyed : Config.Obeyed [] (.merged []) raws (.merged raws) :=
    Config.obeyed_merged (Config.accepted_of_holds hraws)
  refine ⟨raws, _, ?_, hcalm.result_eq, hcalm.no_alarm, hobeyed⟩
  exact hraws.imp fun _ _ hp => ⟨hp.contents_eq, hp.isMap⟩

/-- Two files that have nothing wrong with them. -/
def soundSettings : FileSystem :=
  twoFiles "include: [src]\nmax_files: 5\nformat: ~\n".toUTF8.data
    "include: [lib]\nformat: MD\n".toUTF8.data

/-- The data of the two files. -/
def soundMappings : List Value :=
  [.object [("include", .list [.text "src"]), ("max_files", .int 5), ("format", .null)],
    .object [("include", .list [.text "lib"]), ("format", .text "MD")]]

/-- The list of the second file comes after the one of the first, and only the second gives a format. -/
theorem soundSettings_obeyed :
    ∃ c : Config, c = { included := ["src", "lib"], maxFiles := 5, format := .markdown } ∧
      Config.check soundSettings [⟨1, ["a.yml"]⟩, ⟨1, ["b.yml"]⟩] = .ok [] ∧
      List.Forall₂ (fun p raw => Config.contents soundSettings p = .ok (.value raw))
        [⟨1, ["a.yml"]⟩, ⟨1, ["b.yml"]⟩] soundMappings ∧
      (Config.load soundSettings ⟨1, []⟩ (some [⟨0, ["a.yml"]⟩, ⟨0, ["b.yml"]⟩])).outcome.result =
        .ok c ∧
      (∀ m ∈ (Config.load soundSettings ⟨1, []⟩
        (some [⟨0, ["a.yml"]⟩, ⟨0, ["b.yml"]⟩])).outcome.messages, m.isAlarm = false) ∧
      Config.Obeyed [] .default soundMappings c := by
  have hcheck : Config.check soundSettings
      (Config.files ⟨1, []⟩ (some [⟨0, ["a.yml"]⟩, ⟨0, ["b.yml"]⟩])) = .ok [] := by
    simp only [soundSettings, Config.check, Config.files, List.map, Path.join, Path.isAbsolute,
      List.nil_append, List.mapM_cons, List.mapM_nil, Config.checkFile, Config.contents,
      bne_self_eq_false, Bool.false_eq_true, if_false, exists_twoFiles, read_twoFiles]
    decide +kernel
  have hload : (Config.load soundSettings ⟨1, []⟩
      (some [⟨0, ["a.yml"]⟩, ⟨0, ["b.yml"]⟩])).outcome.result =
        .ok { included := ["src", "lib"], maxFiles := 5, format := .markdown } := by
    simp only [soundSettings, Config.load, Config.files, List.map, Path.join, Path.isAbsolute,
      List.foldlM, Config.addFile, Config.contents, List.nil_append, bne_self_eq_false,
      Bool.false_eq_true, if_false, exists_twoFiles, read_twoFiles]
    decide +kernel
  have hcontents : List.Forall₂ (fun p raw => Config.contents soundSettings p = .ok (.value raw))
      [⟨1, ["a.yml"]⟩, ⟨1, ["b.yml"]⟩] soundMappings := by
    have hfirst : Config.textOf "include: [src]\nmax_files: 5\nformat: ~\n".toUTF8.data =
        .ok "include: [src]\nmax_files: 5\nformat: ~\n".toList := by decide +kernel
    have hsecond : Config.textOf "include: [lib]\nformat: MD\n".toUTF8.data =
        .ok "include: [lib]\nformat: MD\n".toList := by decide +kernel
    refine .cons ?_ (.cons ?_ .nil)
    · exact Config.contents_eq_value (read_twoFiles _ _).1 hfirst (by decide +kernel) rfl
    · exact Config.contents_eq_value (read_twoFiles _ _).2 hsecond (by decide +kernel) rfl
  obtain ⟨raws, c, hraws, hc, halarm, hobeyed⟩ := load_obeys_checked_files hcheck
  obtain rfl := Except.ok.inj (hload.symm.trans hc)
  obtain rfl : raws = soundMappings := by
    refine Relator.RightUnique.forall₂ ?_ (hraws.imp fun _ _ h => h.1) hcontents
    intro p raw raw' hraw hraw'
    simpa using hraw.symm.trans hraw'
  exact ⟨_, rfl, hcheck, hcontents, hload, halarm, hobeyed⟩

end GoMeter
