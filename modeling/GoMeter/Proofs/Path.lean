import GoMeter.Path
import Mathlib.Data.List.Basic

/-!
# Paths and their texts

The text of a path has slashes between its names, and its names are the pieces between the slashes. The
one undoes the other where no part is empty, has a slash or is a single point.

* `Path.slashed`: parts with slashes between them.
* `Path.pieces_append_slash`, `Path.slashed_pieces`, `Path.pieces_slashed`: cutting at slashes and
  putting together again.
* `Path.exists_of_slashed_eq`: a text of parts can be cut at a slash only between two parts.
* `Path.slashed_slash_prefix_iff`: one text of parts, with a slash after it, starts another.
* `Path.toList_text`, `Path.ofText_slashed`: the text of a path, and the path of a text.
-/

namespace GoMeter.Path

/-- Parts with slashes between them. -/
def slashed (parts : List (List Char)) : List Char := ['/'].intercalate parts

@[simp] theorem slashed_nil : slashed [] = [] := rfl

@[simp] theorem slashed_singleton (part : List Char) : slashed [part] = part := by
  simp [slashed]

theorem slashed_cons {parts : List (List Char)} (h : parts ≠ []) (part : List Char) :
    slashed (part :: parts) = part ++ '/' :: slashed parts := by
  cases parts with
  | nil => exact absurd rfl h
  | cons next more => simp [slashed, List.intercalate_cons_cons]

theorem slashed_append {a b : List (List Char)} (ha : a ≠ []) (hb : b ≠ []) :
    slashed (a ++ b) = slashed a ++ '/' :: slashed b := by
  induction a with
  | nil => exact absurd rfl ha
  | cons part rest ih =>
    by_cases hrest : rest = []
    · subst hrest
      rw [List.singleton_append, slashed_cons hb, slashed_singleton]
    · rw [List.cons_append, slashed_cons (by simp [hb]), ih hrest, slashed_cons hrest]
      simp

/-- The characters of a text of parts are those of the parts, and slashes. -/
theorem mem_slashed {c : Char} {parts : List (List Char)} (h : c ∈ slashed parts) :
    c = '/' ∨ ∃ p ∈ parts, c ∈ p := by
  induction parts with
  | nil => cases h
  | cons part rest ih =>
    by_cases hrest : rest = []
    · subst hrest
      rw [slashed_singleton] at h
      exact .inr ⟨part, List.mem_cons_self, h⟩
    · rw [slashed_cons hrest, List.mem_append, List.mem_cons] at h
      rcases h with hpart | hslash | hlater
      · exact .inr ⟨part, List.mem_cons_self, hpart⟩
      · exact .inl hslash
      · rcases ih hlater with hslash | ⟨p, hp, hc⟩
        · exact .inl hslash
        · exact .inr ⟨p, List.mem_cons_of_mem part hp, hc⟩

theorem not_mem_slashed {c : Char} (hc : c ≠ '/') {parts : List (List Char)} (h : ∀ p ∈ parts, c ∉ p) :
    c ∉ slashed parts := by
  intro hmem
  rcases mem_slashed hmem with hslash | ⟨p, hp, hcp⟩
  · exact hc hslash
  · exact h p hp hcp

theorem mem_slashed_of_mem {c : Char} {p : List Char} {parts : List (List Char)} (hp : p ∈ parts)
    (hc : c ∈ p) : c ∈ slashed parts := by
  obtain ⟨before, after, rfl⟩ := List.append_of_mem hp
  have htail : c ∈ slashed (p :: after) := by
    by_cases hafter : after = []
    · simpa [hafter] using hc
    · simp [slashed_cons hafter, hc]
  by_cases hbefore : before = []
  · simpa [hbefore] using htail
  · simp [slashed_append hbefore, htail]

/-! ## Cutting at slashes -/

theorem pieces_ne_nil (cs : List Char) : pieces cs ≠ [] := by
  fun_cases pieces cs <;> simp

theorem pieces_cons_of_ne {c : Char} (hc : c ≠ '/') {cs piece : List Char} {more : List (List Char)}
    (h : pieces cs = piece :: more) : pieces (c :: cs) = (c :: piece) :: more := by
  rw [pieces.eq_def]
  split
  · next heq => cases heq
  · next heq => exact absurd (List.cons.inj heq).1 hc
  · next heq =>
    obtain ⟨rfl, rfl⟩ := List.cons.inj heq
    rw [h]

/-- A slash ends the pieces before it. -/
theorem pieces_append_slash (x y : List Char) : pieces (x ++ '/' :: y) = pieces x ++ pieces y := by
  induction x with
  | nil => rfl
  | cons c x ih =>
    by_cases hc : c = '/'
    · subst hc
      rw [List.cons_append, pieces, ih, pieces, List.cons_append]
    · cases hx : pieces x with
      | nil => exact absurd hx (pieces_ne_nil x)
      | cons piece more =>
        rw [hx, List.cons_append] at ih
        rw [List.cons_append, pieces_cons_of_ne hc ih, pieces_cons_of_ne hc hx, List.cons_append]

theorem slashed_pieces (cs : List Char) : slashed (pieces cs) = cs := by
  induction cs with
  | nil => rfl
  | cons c cs ih =>
    by_cases hc : c = '/'
    · subst hc
      rw [pieces, slashed_cons (pieces_ne_nil cs), ih]
      rfl
    · cases hcs : pieces cs with
      | nil => exact absurd hcs (pieces_ne_nil cs)
      | cons piece more =>
        rw [pieces_cons_of_ne hc hcs, ← ih, hcs]
        cases more with
        | nil => simp
        | cons next more => simp [slashed_cons]

theorem pieces_of_not_mem {cs : List Char} (h : '/' ∉ cs) : pieces cs = [cs] := by
  induction cs with
  | nil => rfl
  | cons c cs ih =>
    rw [List.mem_cons, not_or] at h
    exact pieces_cons_of_ne (Ne.symm h.1) (ih h.2)

/-- Parts without slashes are the pieces of the text that they make up. -/
theorem pieces_slashed {parts : List (List Char)} (hne : parts ≠ []) (h : ∀ p ∈ parts, '/' ∉ p) :
    pieces (slashed parts) = parts := by
  induction parts with
  | nil => exact absurd rfl hne
  | cons part rest ih =>
    rw [List.forall_mem_cons] at h
    by_cases hrest : rest = []
    · subst hrest
      rw [slashed_singleton, pieces_of_not_mem h.1]
    · rw [slashed_cons hrest, pieces_append_slash, pieces_of_not_mem h.1, ih hrest h.2]
      rfl

/-- A text of parts without slashes can be cut at a slash only between two parts. -/
theorem exists_of_slashed_eq {parts : List (List Char)} (h : ∀ p ∈ parts, '/' ∉ p) {x y : List Char}
    (heq : slashed parts = x ++ '/' :: y) :
    ∃ a b, parts = a ++ b ∧ a ≠ [] ∧ b ≠ [] ∧ slashed a = x ∧ slashed b = y := by
  have hne : parts ≠ [] := by
    rintro rfl
    simp at heq
  have hparts := pieces_slashed hne h
  rw [heq, pieces_append_slash] at hparts
  exact ⟨pieces x, pieces y, hparts.symm, pieces_ne_nil x, pieces_ne_nil y, slashed_pieces x,
    slashed_pieces y⟩

theorem slashed_inj {a b : List (List Char)} (ha : a ≠ []) (hb : b ≠ []) (haSlash : ∀ p ∈ a, '/' ∉ p)
    (hbSlash : ∀ p ∈ b, '/' ∉ p) : slashed a = slashed b ↔ a = b := by
  refine ⟨fun h => ?_, congrArg slashed⟩
  rw [← pieces_slashed ha haSlash, h, pieces_slashed hb hbSlash]

/-- A text of parts goes on with a slash after some parts only if it goes on with further parts. -/
theorem slashed_slash_prefix_iff {a b : List (List Char)} (ha : a ≠ []) (haSlash : ∀ p ∈ a, '/' ∉ p)
    (hbSlash : ∀ p ∈ b, '/' ∉ p) :
    slashed a ++ ['/'] <+: slashed b ↔ ∃ more, more ≠ [] ∧ b = a ++ more := by
  constructor
  · rintro ⟨rest, hrest⟩
    rw [List.append_assoc, List.singleton_append] at hrest
    obtain ⟨x, more, rfl, hx, hmore, hslashed, -⟩ := exists_of_slashed_eq hbSlash hrest.symm
    rw [List.forall_mem_append] at hbSlash
    obtain rfl := (slashed_inj hx ha hbSlash.1 haSlash).mp hslashed
    exact ⟨more, hmore, rfl⟩
  · rintro ⟨more, hmore, rfl⟩
    rw [slashed_append ha hmore]
    exact ⟨slashed more, by simp⟩

/-- A text of parts has a slash unless there is one part only. -/
theorem slash_mem_slashed_iff {parts : List (List Char)} (h : ∀ p ∈ parts, '/' ∉ p) :
    '/' ∈ slashed parts ↔ 2 ≤ parts.length := by
  match parts with
  | [] => simp
  | [part] => simpa using h part List.mem_cons_self
  | part :: next :: more => simp [slashed_cons]

/-! ## Texts of paths -/

/-- The text of a relative path with names. -/
theorem toList_text {names : List String} (h : names ≠ []) :
    (text ⟨0, names⟩).toList = slashed (names.map String.toList) := by
  have hnames : names.isEmpty = false := by simpa using h
  rw [text, hnames]
  simp [slashed, String.toList_intercalate]

/-- A text that may stand between two slashes and names something there. -/
structure IsPart (cs : List Char) : Prop where
  ne_nil : cs ≠ []
  no_slash : '/' ∉ cs
  ne_point : cs ≠ ['.']

theorem isName_of_isPart {cs : List Char} (h : IsPart cs) : isName cs = true := by
  simp [isName, h.ne_nil, h.ne_point]

theorem slashed_head_ne {parts : List (List Char)} (h : ∀ p ∈ parts, IsPart p) :
    (slashed parts).head? ≠ some '/' := by
  cases parts with
  | nil => simp
  | cons part rest =>
    have hpart := h part List.mem_cons_self
    have hhead : (slashed (part :: rest)).head? = part.head? := by
      by_cases hrest : rest = []
      · rw [hrest, slashed_singleton]
      · rw [slashed_cons hrest, List.head?_append_of_ne_nil _ hpart.ne_nil]
    rw [hhead]
    intro hslash
    exact hpart.no_slash (List.mem_of_mem_head? hslash)

/-- The path of a text of parts. -/
theorem ofText_slashed {parts : List (List Char)} (hne : parts ≠ []) (h : ∀ p ∈ parts, IsPart p) :
    ofText (String.ofList (slashed parts)) = ⟨0, parts.map String.ofList⟩ := by
  have hslashes : (slashed parts).takeWhile (· == '/') = [] := by
    have hhead := slashed_head_ne h
    cases hcs : slashed parts with
    | nil => rfl
    | cons c cs =>
      rw [hcs, List.head?_cons, ne_eq, Option.some.injEq] at hhead
      simp [hhead]
  have hnames : namesIn (slashed parts) = parts.map String.ofList := by
    rw [namesIn, pieces_slashed hne fun p hp => (h p hp).no_slash,
      List.filter_eq_self.mpr fun p hp => isName_of_isPart (h p hp)]
  rw [ofText, String.toList_ofList, hslashes, hnames]
  rfl

end GoMeter.Path
