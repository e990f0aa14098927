import GoMeter.Proofs.Syntax.Site
import GoMeter.Syntax.Soundness
import Mathlib.Computability.Language

/-!
# The layout of a file as a language

The kinds of a root's children, comments apart, spell a word. A file has the right layout if the
word is empty, or a package clause, then imports, then declarations. The check reads the word once
from the left with one flag, and stops at the first letter at which what has been read cannot be
completed.

* `goLayout`: the words of the layout; `StartsLayout`: their beginnings.
* `afterClause`: what may follow the package clause, before and after the first declaration;
  `cons_mem_afterClause_iff` takes one letter off.
* `checkDeclarations_step`: one step of the check takes the same letter off; so the check accepts
  the words of the language (`checkLayout_eq_ok_iff`) and stops where a word cannot be completed
  (`exists_departure_of_checkLayout`).
* `checkLayout_follows_language`: which files are accepted, and what is said of the others.
-/

namespace GoMeter

open scoped Computability

/-! ## The language -/

/-- The words of one letter. -/
def letters (ks : List Kind) : Language Kind := {w | ∃ k ∈ ks, w = [k]}

/-- The declarations that may follow the imports. -/
def declarationKinds : List Kind :=
  [.functionDeclaration, .methodDeclaration, .varDeclaration, .constDeclaration, .typeDeclaration]

/-- The layout of a file: nothing, or a package clause, then imports, then declarations. -/
def goLayout : Language Kind :=
  1 + letters [.packageClause] * (letters [.importDeclaration])∗ * (letters declarationKinds)∗

/-- A word can be completed to a layout. -/
def StartsLayout (ks : List Kind) : Prop := ∃ w ∈ goLayout, ks <+: w

/-- What may follow the package clause: imports and declarations, or only declarations once the
imports are over. -/
def afterClause : Bool → Language Kind
  | false => (letters [.importDeclaration])∗ * (letters declarationKinds)∗
  | true => (letters declarationKinds)∗

variable {ks : List Kind} {k : Kind} {w : List Kind} {L : Language Kind}

theorem cons_mem_letters_mul_iff : k :: w ∈ letters ks * L ↔ k ∈ ks ∧ w ∈ L := by
  rw [Language.mem_mul]
  constructor
  · rintro ⟨-, ⟨k', hk', rfl⟩, b, hb, h⟩
    cases h
    exact ⟨hk', hb⟩
  · rintro ⟨hk, hw⟩
    exact ⟨[k], ⟨k, hk, rfl⟩, w, hw, rfl⟩

theorem cons_mem_kstar_letters_iff :
    k :: w ∈ (letters ks)∗ ↔ k ∈ ks ∧ w ∈ (letters ks)∗ := by
  rw [← Language.one_add_self_mul_kstar_eq_kstar, Language.mem_add, Language.mem_one,
    cons_mem_letters_mul_iff, Language.one_add_self_mul_kstar_eq_kstar]
  simp

theorem cons_mem_kstar_letters_mul_iff :
    k :: w ∈ (letters ks)∗ * L ↔ k :: w ∈ L ∨ k ∈ ks ∧ w ∈ (letters ks)∗ * L := by
  have hunfold : (letters ks)∗ * L = L + letters ks * ((letters ks)∗ * L) := by
    conv_lhs => rw [← Language.one_add_self_mul_kstar_eq_kstar, add_mul, one_mul, mul_assoc]
  rw [hunfold, Language.mem_add, cons_mem_letters_mul_iff, ← hunfold]

theorem nil_mem_afterClause (importsDone : Bool) : [] ∈ afterClause importsDone := by
  cases importsDone with
  | false => exact ⟨[], Language.nil_mem_kstar _, [], Language.nil_mem_kstar _, rfl⟩
  | true => exact Language.nil_mem_kstar _

/-- An import is read only before the first declaration, and a declaration ends the imports. -/
theorem cons_mem_afterClause_iff {importsDone : Bool} :
    k :: w ∈ afterClause importsDone ↔
      (k = .importDeclaration ∧ importsDone = false ∧ w ∈ afterClause false) ∨
        (k ∈ declarationKinds ∧ w ∈ afterClause true) := by
  cases importsDone with
  | false =>
    rw [afterClause, cons_mem_kstar_letters_mul_iff, cons_mem_kstar_letters_iff, or_comm]
    simp [afterClause]
  | true =>
    show k :: w ∈ (letters declarationKinds)∗ ↔ _
    rw [cons_mem_kstar_letters_iff]
    simp [afterClause]

theorem nil_mem_goLayout : [] ∈ goLayout := .inl rfl

theorem cons_mem_goLayout_iff :
    k :: w ∈ goLayout ↔ k = .packageClause ∧ w ∈ afterClause false := by
  rw [goLayout, mul_assoc, Language.mem_add, Language.mem_one, cons_mem_letters_mul_iff,
    List.mem_singleton]
  simp [afterClause]

theorem mem_afterClause_of_append {importsDone : Bool} {more : List Kind}
    (h : w ++ more ∈ afterClause importsDone) : w ∈ afterClause importsDone := by
  induction w generalizing importsDone with
  | nil => exact nil_mem_afterClause importsDone
  | cons k w ih =>
    rw [List.cons_append, cons_mem_afterClause_iff] at h
    rw [cons_mem_afterClause_iff]
    exact h.imp (fun ⟨hk, hdone, hw⟩ => ⟨hk, hdone, ih hw⟩) fun ⟨hk, hw⟩ => ⟨hk, ih hw⟩

/-- The beginning of a layout is a layout. -/
theorem startsLayout_iff : StartsLayout w ↔ w ∈ goLayout := by
  constructor
  · rintro ⟨-, hmem, more, rfl⟩
    cases w with
    | nil => exact nil_mem_goLayout
    | cons k w =>
      rw [List.cons_append, cons_mem_goLayout_iff] at hmem
      exact cons_mem_goLayout_iff.mpr ⟨hmem.1, mem_afterClause_of_append hmem.2⟩
  · intro hw
    exact ⟨w, hw, List.prefix_rfl⟩

/-! ## The check -/

theorem isTopLevel_iff : k.isTopLevel = true ↔ k ∈ declarationKinds := by
  unfold Kind.isTopLevel
  split <;> simp_all [declarationKinds]

variable {src : Source}

/-- The cause for which a child after the package clause is refused. -/
def laterCause (k : Kind) : Cause :=
  if k = .importDeclaration then .lateImport else .strayStatement

/-- One step of the check takes one letter off the words that may follow, or refuses the file
because no such word starts with that letter. -/
theorem checkDeclarations_step (src : Source) (importsDone : Bool) (n : Node) (rest : List Node) :
    (∃ next, (∀ w, n.kind :: w ∈ afterClause importsDone ↔ w ∈ afterClause next) ∧
      checkDeclarations src importsDone (n :: rest) = checkDeclarations src next rest) ∨
    ((∀ w, n.kind :: w ∉ afterClause importsDone) ∧
      checkDeclarations src importsDone (n :: rest) =
        .error ⟨n.physicalLine src, laterCause n.kind⟩) := by
  by_cases himport : n.kind = .importDeclaration
  · have hnotTop : Kind.importDeclaration ∉ declarationKinds := by decide
    cases importsDone with
    | false =>
      refine .inl ⟨false, fun w => ?_, by simp [checkDeclarations, himport]⟩
      simp [cons_mem_afterClause_iff, himport, hnotTop]
    | true =>
      refine .inr ⟨fun w => ?_, by simp [checkDeclarations, himport, laterCause]⟩
      simp [cons_mem_afterClause_iff, himport, hnotTop]
  · by_cases htop : n.kind ∈ declarationKinds
    · refine .inl ⟨true, fun w => ?_, ?_⟩
      · simp [cons_mem_afterClause_iff, himport, htop]
      · simp [checkDeclarations, himport, isTopLevel_iff.mpr htop]
    · refine .inr ⟨fun w => ?_, ?_⟩
      · simp [cons_mem_afterClause_iff, himport, htop]
      · have hbool : n.kind.isTopLevel = false :=
          Bool.eq_false_iff.mpr fun h => htop (isTopLevel_iff.mp h)
        simp [checkDeclarations, himport, hbool, laterCause]

theorem checkDeclarations_eq_ok_iff {importsDone : Bool} {ns : List Node} :
    checkDeclarations src importsDone ns = .ok () ↔ ns.map Node.kind ∈ afterClause importsDone := by
  induction ns generalizing importsDone with
  | nil => simp [checkDeclarations, nil_mem_afterClause]
  | cons n rest ih =>
    rw [List.map_cons]
    rcases checkDeclarations_step src importsDone n rest with
      ⟨next, hread, hnext⟩ | ⟨hnone, hrefused⟩
    · rw [hnext, hread, ih]
    · simp [hrefused, hnone]

/-- A child of a root at which the kinds of the children so far stop being the beginning of a
layout, with the children before it. -/
structure Node.DepartsAt (root : Node) (before : List Node) (n : Node) : Prop where
  split : ∃ after, root.declarations = before ++ n :: after
  starts : StartsLayout (before.map kind)
  departs : ¬ StartsLayout (before.map kind ++ [n.kind])

/-- The check stops at the first child with which what has been read is the beginning of no word. -/
theorem exists_departure_of_checkDeclarations {importsDone : Bool} {ns : List Node} {r : Refusal}
    (h : checkDeclarations src importsDone ns = .error r) :
    ∃ before n after, ns = before ++ n :: after ∧
      before.map Node.kind ∈ afterClause importsDone ∧
      before.map Node.kind ++ [n.kind] ∉ afterClause importsDone ∧
      r = ⟨n.physicalLine src, laterCause n.kind⟩ := by
  induction ns generalizing importsDone with
  | nil => cases h
  | cons n rest ih =>
    rcases checkDeclarations_step src importsDone n rest with
      ⟨next, hread, hnext⟩ | ⟨hnone, hrefused⟩
    · rw [hnext] at h
      obtain ⟨before, m, after, rfl, hbefore, hm, hr⟩ := ih h
      refine ⟨n :: before, m, after, rfl, ?_, ?_, hr⟩
      · rwa [List.map_cons, hread]
      · rwa [List.map_cons, List.cons_append, hread]
    · rw [hrefused] at h
      cases h
      exact ⟨[], n, rest, rfl, nil_mem_afterClause importsDone, hnone [], rfl⟩

/-- The cause for which a child is refused: it is the first and no package clause, or an import that
follows another declaration, or no declaration. -/
def departureCause (before : List Node) (n : Node) : Cause :=
  if before = [] then .packageExpected else laterCause n.kind

theorem checkLayout_eq_ok_iff {root : Node} :
    checkLayout src root = .ok () ↔ root.declarations.map Node.kind ∈ goLayout := by
  unfold checkLayout
  cases root.declarations with
  | nil => simp [nil_mem_goLayout]
  | cons n rest =>
    rw [List.map_cons, cons_mem_goLayout_iff]
    by_cases hclause : n.kind = .packageClause
    · simp only [hclause, if_true, true_and, checkDeclarations_eq_ok_iff]
    · simp [hclause]

theorem exists_departure_of_checkLayout {root : Node} {r : Refusal}
    (h : checkLayout src root = .error r) :
    ∃ before n, root.DepartsAt before n ∧ r = ⟨n.physicalLine src, departureCause before n⟩ := by
  unfold checkLayout at h
  cases hdeclarations : root.declarations with
  | nil =>
    rw [hdeclarations] at h
    cases h
  | cons n rest =>
    simp only [hdeclarations] at h
    split_ifs at h with hclause
    · obtain ⟨before, m, after, rfl, hbefore, hm, hr⟩ := exists_departure_of_checkDeclarations h
      refine ⟨n :: before, m, ⟨⟨after, hdeclarations⟩, ?_, ?_⟩, hr⟩
      · rw [startsLayout_iff, List.map_cons, cons_mem_goLayout_iff]
        exact ⟨hclause, hbefore⟩
      · rw [startsLayout_iff, List.map_cons, List.cons_append, cons_mem_goLayout_iff]
        exact fun hmem => hm hmem.2
    · cases h
      refine ⟨[], n, ⟨⟨rest, hdeclarations⟩, startsLayout_iff.mpr nil_mem_goLayout, ?_⟩, rfl⟩
      rw [startsLayout_iff, List.map_nil, List.nil_append, cons_mem_goLayout_iff]
      exact fun hmem => hclause hmem.1

/-- A file is accepted if the kinds of its declarations spell a layout, and in no other case.
Otherwise it is refused on the line of the first child at which they stop being the beginning of
one, with a text that tells whether that is the first child, a later import or anything else. -/
theorem checkLayout_follows_language (src : Source) (root : Node) :
    (checkLayout src root = .ok () ↔ root.declarations.map Node.kind ∈ goLayout) ∧
    ∀ r, checkLayout src root = .error r → ∃ before n, root.DepartsAt before n ∧
      r.line = n.physicalLine src ∧
      (r.cause.message = "expected 'package'" ↔ before = []) ∧
      (r.cause.message = "imports must appear before other declarations" ↔
        before ≠ [] ∧ n.kind = .importDeclaration) ∧
      (r.cause.message = "non-declaration statement outside function body" ↔
        before ≠ [] ∧ n.kind ≠ .importDeclaration) := by
  refine ⟨checkLayout_eq_ok_iff, fun r hr => ?_⟩
  obtain ⟨before, n, hdeparts, rfl⟩ := exists_departure_of_checkLayout hr
  refine ⟨before, n, hdeparts, rfl, ?_⟩
  by_cases hfirst : before = []
  · simp [departureCause, hfirst, Cause.message]
  · by_cases himport : n.kind = .importDeclaration <;>
      simp [departureCause, laterCause, hfirst, himport, Cause.message]

/-- An import after a function, with a comment between them. -/
def lateImportSource : Source := .ofString "package p\nfunc f()\n// c\nimport \"m\"\n"

/-- The tree of this file, with four children of the root. -/
def lateImport : Node :=
  .branch .sourceFile 0 35 none
    [.branch .packageClause 0 9 none [.branch .packageIdentifier 8 9 none []],
     .branch .functionDeclaration 10 18 none
      [.branch .identifier 15 16 (some .name) [],
       .branch .parameterList 16 18 (some .parameters) []],
     .branch .comment 19 23 none [],
     .branch .importDeclaration 24 34 none
      [.branch .importSpec 31 34 none [.branch .interpretedStringLiteral 31 34 (some .path) []]]]

theorem lateImport_refused :
    checkLayout lateImportSource lateImport = .error ⟨4, .lateImport⟩ ∧
      ∃ before n, lateImport.DepartsAt before n ∧ n.physicalLine lateImportSource = 4 ∧
        before ≠ [] ∧ n.kind = .importDeclaration := by
  have h : checkLayout lateImportSource lateImport = .error ⟨4, .lateImport⟩ := by decide +kernel
  obtain ⟨before, n, hdeparts, hline, -, himport, -⟩ :=
    (checkLayout_follows_language lateImportSource lateImport).2 _ h
  exact ⟨h, before, n, hdeparts, hline.symm, himport.mp rfl⟩

end GoMeter
