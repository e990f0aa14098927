import GoMeter.Proofs.Syntax.Traversal

/-!
# Trees without trivia

Comments and punctuation stand between the parts of a node. What a node is read by does not see them:
its children by field, its named children and its specifications are, up to the comments among the
named children, the same with and without trivia.

* `Node.isTrivia`, `Node.strip`: what is left out, and the tree without it.
* `Node.PlainComments`: comments are leaves without a field.
* `Node.kept`: what is left of a list of named nodes.
* `child?_strip`, `namedChildren_strip`, `named_strip`, `specs_strip`: the parts of a stripped node.
-/

namespace GoMeter

namespace Node

/-- Whether a node is a comment, or a token that fills no field and is neither `:=` nor `*`. -/
def isTrivia (n : Node) : Bool :=
  n.kind = .comment ||
    (!n.isNamed && n.children.isEmpty && n.field.isNone && n.kind ≠ .define && n.kind ≠ .star)

mutual

/-- The tree without the trivia below its top node. -/
def strip : Node → Node
  | .mk label below => .mk label (stripAll below)

/-- Trees without the trivia among them and below them. -/
def stripAll : List Node → List Node
  | [] => []
  | n :: rest => if n.isTrivia then stripAll rest else n.strip :: stripAll rest

end

theorem stripAll_eq (ns : List Node) : stripAll ns = (ns.filter fun n => !n.isTrivia).map strip := by
  induction ns with
  | nil => rfl
  | cons n rest ih => by_cases h : n.isTrivia <;> simp [stripAll, h, ih]

@[simp] theorem label_strip (n : Node) : n.strip.label = n.label := by
  cases n
  rfl

@[simp] theorem kind_strip (n : Node) : n.strip.kind = n.kind := by rw [kind, label_strip, kind]

@[simp] theorem start_strip (n : Node) : n.strip.start = n.start := by
  rw [start, label_strip, start]

@[simp] theorem isNamed_strip (n : Node) : n.strip.isNamed = n.isNamed := by
  rw [isNamed, label_strip, isNamed]

@[simp] theorem field_strip (n : Node) : n.strip.field = n.field := by
  rw [field, label_strip, field]

@[simp] theorem text_strip (n : Node) (src : Source) : n.strip.text src = n.text src := by
  rw [text, text, stop, stop, start_strip, label_strip]

theorem children_strip (n : Node) :
    n.strip.children = (n.children.filter fun c => !c.isTrivia).map strip := by
  cases n with
  | mk label below => exact stripAll_eq below

/-- A token that a rule looks for by its kind is kept. -/
theorem any_children_strip (n : Node) {kind : Kind} (h : kind = .define ∨ kind = .star) :
    n.strip.children.any (·.kind = kind) = n.children.any (·.kind = kind) := by
  rw [children_strip, List.any_map, List.any_filter]
  refine List.any_congr rfl fun c => ?_
  simp only [Function.comp_apply, kind_strip]
  by_cases hc : c.kind = kind
  · have hkept : c.isTrivia = false := by
      rcases h with rfl | rfl <;> simp [isTrivia, hc]
    simp [hc, hkept]
  · simp [hc]

/-! ## Named children -/

/-- What is left of a list of named nodes. -/
def kept (ns : List Node) : List Node := (ns.filter fun n => n.kind ≠ .comment).map strip

@[simp] theorem kept_nil : kept [] = [] := rfl

theorem kept_cons_of_comment {n : Node} (h : n.kind = .comment) (rest : List Node) :
    kept (n :: rest) = kept rest := by
  simp [kept, h]

theorem kept_cons {n : Node} (h : n.kind ≠ .comment) (rest : List Node) :
    kept (n :: rest) = n.strip :: kept rest := by
  simp [kept, h]

theorem kept_append (ns ms : List Node) : kept (ns ++ ms) = kept ns ++ kept ms := by
  simp [kept]

theorem kept_reverse (ns : List Node) : kept ns.reverse = (kept ns).reverse := by
  simp [kept]

/-- A selection that no comment passes and that does not look at trivia picks the same nodes. -/
theorem filter_kept {p : Node → Bool} {ns : List Node} (hcomment : ∀ n ∈ ns, p n → n.kind ≠ .comment)
    (hstrip : ∀ n ∈ ns, p n.strip = p n) : (kept ns).filter p = (ns.filter p).map strip := by
  rw [kept, List.filter_map, List.filter_filter]
  congr 1
  refine List.filter_congr fun n hn => ?_
  rw [Function.comp_apply, hstrip n hn]
  by_cases hp : p n
  · simp [hp, hcomment n hn hp]
  · simp [hp]

theorem filter_ne_comment_kept (ns : List Node) :
    (kept ns).filter (fun n => n.kind ≠ .comment) = kept ns :=
  filter_kept (fun _ _ h => by simpa using h) fun n _ => by rw [kind_strip]

/-- A listing in which comments have no part is the listing of what is kept. -/
theorem flatMap_kept {α : Type} {f g : Node → List α} (ns : List Node)
    (hcomment : ∀ n ∈ ns, n.kind = .comment → g n = [])
    (hstrip : ∀ n ∈ ns, f n.strip = g n) : (kept ns).flatMap f = ns.flatMap g := by
  induction ns with
  | nil => rfl
  | cons n rest ih =>
    have hrest := ih (fun m hm => hcomment m (List.mem_cons_of_mem _ hm))
      fun m hm => hstrip m (List.mem_cons_of_mem _ hm)
    by_cases hkind : n.kind = .comment
    · rw [kept_cons_of_comment hkind, hrest, List.flatMap_cons,
        hcomment n List.mem_cons_self hkind, List.nil_append]
    · rw [kept_cons hkind, List.flatMap_cons, hrest, hstrip n List.mem_cons_self, List.flatMap_cons]

/-- Steps in which comments do nothing come to the same over what is kept. -/
theorem foldl_kept {α : Type} {f : α → Node → α} (ns : List Node)
    (hcomment : ∀ a, ∀ n ∈ ns, n.kind = .comment → f a n = a)
    (hstrip : ∀ a, ∀ n ∈ ns, f a n.strip = f a n) (a : α) : (kept ns).foldl f a = ns.foldl f a := by
  induction ns generalizing a with
  | nil => rfl
  | cons n rest ih =>
    have hrest := ih (fun b m hm => hcomment b m (List.mem_cons_of_mem _ hm))
      fun b m hm => hstrip b m (List.mem_cons_of_mem _ hm)
    by_cases hkind : n.kind = .comment
    · rw [kept_cons_of_comment hkind, hrest, List.foldl_cons, hcomment a n List.mem_cons_self hkind]
    · rw [kept_cons hkind, List.foldl_cons, hrest, hstrip a n List.mem_cons_self, List.foldl_cons]

theorem namedChildren_strip (n : Node) : n.strip.namedChildren = kept n.namedChildren := by
  rw [namedChildren, children_strip, kept, namedChildren, List.filter_map, List.filter_filter,
    List.filter_filter]
  congr 1
  refine List.filter_congr fun c _ => ?_
  rw [Function.comp_apply, isNamed_strip]
  cases hnamed : c.isNamed <;> simp [isTrivia, hnamed]

/-! ## Comments that are leaves -/

/-- Every comment of a tree is a leaf that fills no field. -/
def PlainComments (n : Node) : Prop :=
  ∀ s ∈ n.sites, s.node.kind = .comment → s.node.children = [] ∧ s.node.field = none

namespace PlainComments

variable {n c : Node}

theorem here (h : n.PlainComments) (hkind : n.kind = .comment) :
    n.children = [] ∧ n.field = none :=
  h ⟨[], n⟩ (mem_sites.mpr rfl) hkind

theorem of_at? {way : Way} (h : n.PlainComments) (hc : n.at? way = some c) : c.PlainComments := by
  intro s hs
  refine h ⟨way ++ s.way, s.node⟩ (mem_sites.mpr ?_)
  rw [at?_append, hc]
  exact mem_sites.mp hs

theorem of_mem_children (h : n.PlainComments) (hc : c ∈ n.children) : c.PlainComments := by
  obtain ⟨i, hi⟩ := List.mem_iff_getElem?.mp hc
  have hat : n.at? [i] = some c := by
    rw [at?, hi]
    rfl
  exact h.of_at? hat

theorem of_mem_namedChildren (h : n.PlainComments) (hc : c ∈ n.namedChildren) : c.PlainComments :=
  h.of_mem_children (List.mem_filter.mp hc).1

theorem of_child? {f : Field} (h : n.PlainComments) (hc : n.child? f = some c) :
    c.PlainComments :=
  h.of_mem_children (List.mem_of_find?_eq_some hc)

theorem of_mem_named (h : n.PlainComments) (hc : c ∈ n.named) : c.PlainComments := by
  have hsites : (Site.root n).named.map Site.node = n.named := Site.map_node_named _
  rw [← hsites] at hc
  obtain ⟨u, hu, rfl⟩ := List.mem_map.mp hc
  exact h.of_at? (Site.at?_of_mem_named (s := Site.root n) rfl hu)

/-- A comment has no parts. -/
theorem namedChildren_eq_nil (h : n.PlainComments) (hkind : n.kind = .comment) :
    n.namedChildren = [] := by
  rw [namedChildren, (h.here hkind).1]
  rfl

theorem field_of_isTrivia (h : n.PlainComments) (htrivia : n.isTrivia) : n.field = none := by
  by_cases hkind : n.kind = .comment
  · exact (h.here hkind).2
  · have : n.field.isNone := by
      simp only [isTrivia, hkind] at htrivia
      simp_all
    exact Option.isNone_iff_eq_none.mp this

/-- What fills a field is no comment. -/
theorem kind_ne_comment_of_child? {f : Field} (h : n.PlainComments) (hc : n.child? f = some c) :
    c.kind ≠ .comment := by
  intro hkind
  have hfield : c.field = some f := by simpa using List.find?_some hc
  rw [((h.of_child? hc).here hkind).2] at hfield
  cases hfield

end PlainComments

/-! ## The parts of a stripped node -/

variable {n : Node}

theorem childrenAt_strip (h : n.PlainComments) (f : Field) :
    n.strip.childrenAt f = (n.childrenAt f).map strip := by
  rw [childrenAt, children_strip, childrenAt, List.filter_map, List.filter_filter]
  congr 1
  refine List.filter_congr fun c hc => ?_
  rw [Function.comp_apply, field_strip]
  cases htrivia : c.isTrivia with
  | false => simp
  | true => simp [(h.of_mem_children hc).field_of_isTrivia htrivia]

theorem child?_strip (h : n.PlainComments) (f : Field) :
    n.strip.child? f = (n.child? f).map strip := by
  have hhead : ∀ m : Node, m.child? f = (m.childrenAt f).head? := fun m => by
    rw [childrenAt, List.head?_filter, child?]
  rw [hhead, hhead, childrenAt_strip h, List.head?_map]

theorem declaredNames_strip (h : n.PlainComments) (src : Source) :
    n.strip.declaredNames src = n.declaredNames src := by
  rw [declaredNames, childrenAt_strip h, List.map_map, declaredNames]
  simp

/-- Without trivia the work list of named nodes meets the same nodes, but for the comments. -/
theorem walk_kept (ns : List Node) (hns : ∀ n ∈ ns, n.PlainComments) :
    walk (kept ns) = kept (walk ns) := by
  induction h : sizes ns using Nat.strongRecOn generalizing ns with
  | ind size ih =>
    subst h
    cases ns with
    | nil => simp [walk]
    | cons n rest =>
      have hn := hns n List.mem_cons_self
      have hsmaller : sizes (n.namedChildren ++ rest) < sizes (n :: rest) := by
        have := sizes_namedChildren_lt n
        simp only [sizes_append, sizes_cons]
        omega
      have hplain : ∀ m ∈ n.namedChildren ++ rest, m.PlainComments := by
        intro m hm
        rcases List.mem_append.mp hm with hm | hm
        · exact hn.of_mem_namedChildren hm
        · exact hns m (List.mem_cons_of_mem _ hm)
      have hrest := ih _ hsmaller _ hplain rfl
      rw [walk]
      by_cases hkind : n.kind = .comment
      · rw [kept_cons_of_comment hkind, kept_cons_of_comment hkind, ← hrest,
          hn.namedChildren_eq_nil hkind, List.nil_append]
      · rw [kept_cons hkind, kept_cons hkind, walk, namedChildren_strip, ← kept_append, hrest]

theorem named_strip (h : n.PlainComments) : n.strip.named = kept n.named := by
  rw [named, namedChildren_strip, walk_kept _ fun _ => h.of_mem_namedChildren, named]

/-- The specifications of a declaration are those of the stripped one. -/
theorem specs_strip (what : ObjectKind) (n : Node) :
    n.strip.specs what = (n.specs what).map strip := by
  induction h : n.size using Nat.strongRecOn generalizing n with
  | ind size ih =>
    subst h
    rw [specs_eq, specs_eq, namedChildren_strip, List.map_flatMap]
    refine flatMap_kept _ (fun c _ hkind => ?_) fun c hc => ?_
    · have hspec : what.isSpec c.kind = false := by
        rw [hkind]
        cases what <;> rfl
      have hlist : c.kind.isSpecList = false := by
        rw [hkind]
        decide
      simp [hspec, hlist]
    · have hsmaller : c.strip.specs what = (c.specs what).map strip := by
        have hle := size_le_of_mem hc
        have hlt := sizes_namedChildren_lt n
        exact ih _ (by omega) c rfl
      rw [kind_strip]
      split_ifs
      · rfl
      · exact hsmaller
      · rfl

end Node

end GoMeter
