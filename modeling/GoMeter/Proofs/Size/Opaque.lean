import GoMeter.Proofs.Size.Recursion
import GoMeter.Proofs.Syntax.Edit
import Mathlib.Data.List.Forall2

/-!
# Parts that the count does not see

The count takes a function literal as one unit and of a keyed element its value only. What stands in
the literal, or beside the value, may be anything: it has no influence on the size of a function around
it, whatever lies between the two.

* `Node.CountsLike`: two trees with one label and one mass.
* `Node.AlikeBelow`: two nodes with one label whose children count alike. What such a node adds to the
  count and where the count goes on depend on the labels of its children only, so the two nodes count
  alike themselves (`Node.AlikeBelow.countsLike`).
* `Node.CountsLike.replaceAt`: a part may be replaced by one that counts like it.
* `Node.OpaqueChange`: a change inside a function literal or beside the values of a keyed element.
* `size_ignores_opaque_parts`: such a change inside a body leaves the size as it is.
-/

namespace GoMeter

open List (Forall₂)

namespace Node

/-- Two trees count alike: they have one label, and one mass whatever stands above them. -/
structure CountsLike (a b : Node) : Prop where
  label : a.label = b.label
  mass : ∀ above, a.mass above = b.mass above

namespace CountsLike

variable {as bs cs ds : List Node}

theorem refl (n : Node) : n.CountsLike n := ⟨rfl, fun _ => rfl⟩

/-- A test of labels picks members that count alike. -/
theorem forall₂_filter (p : Label → Bool) (h : Forall₂ CountsLike as bs) :
    Forall₂ CountsLike (as.filter fun n => p n.label) (bs.filter fun n => p n.label) := by
  refine List.rel_filter ?_ h
  intro a b hab
  show p a.label ↔ p b.label
  rw [hab.label]

theorem map_eq {α : Type} {f : Node → α} (hf : ∀ a b, CountsLike a b → f a = f b)
    (h : Forall₂ CountsLike as bs) : as.map f = bs.map f := by
  rw [← List.forall₂_eq_eq_eq, List.forall₂_map_left_iff, List.forall₂_map_right_iff]
  exact h.imp hf

theorem map_kind_eq (h : Forall₂ CountsLike as bs) : as.map kind = bs.map kind :=
  map_eq (fun _ _ hab => congrArg Label.kind hab.label) h

/-- The first member of one list, or else the last of another. -/
theorem forall₂_head?_or_getLast? (h : Forall₂ CountsLike as bs) (h' : Forall₂ CountsLike cs ds) :
    Forall₂ CountsLike (as.head?.or cs.getLast?).toList (bs.head?.or ds.getLast?).toList := by
  cases h with
  | cons hab _ => exact .cons hab .nil
  | nil =>
    have hreversed := List.rel_reverse h'
    rw [List.getLast?_eq_head?_reverse, List.getLast?_eq_head?_reverse]
    generalize cs.reverse = xs, ds.reverse = ys at hreversed ⊢
    cases hreversed with
    | nil => exact .nil
    | cons hcd _ => exact .cons hcd .nil

/-- One member of a list is changed. -/
theorem forall₂_modify {f : Node → Node} {i : Nat} {c : Node} (hc : as[i]? = some c)
    (h : c.CountsLike (f c)) : Forall₂ CountsLike as (as.modify i f) := by
  induction as generalizing i with
  | nil => simp at hc
  | cons n rest ih =>
    cases i with
    | zero =>
      obtain rfl : n = c := by simpa using hc
      exact .cons h (List.forall₂_same.mpr fun m _ => refl m)
    | succ i => exact .cons (refl n) (ih (by simpa using hc))

end CountsLike

/-! ## Nodes whose children count alike -/

/-- Two nodes have one label, and their children count alike, each like the one in its place. -/
structure AlikeBelow (a b : Node) : Prop where
  label : a.label = b.label
  children : Forall₂ CountsLike a.children b.children

namespace AlikeBelow

open CountsLike

variable {a b : Node} (h : a.AlikeBelow b)

include h

theorem kind : a.kind = b.kind := congrArg Label.kind h.label

theorem namedChildren : Forall₂ CountsLike a.namedChildren b.namedChildren :=
  forall₂_filter Label.named h.children

theorem childrenAt (f : Field) : Forall₂ CountsLike (a.childrenAt f) (b.childrenAt f) :=
  forall₂_filter (fun l => l.field = some f) h.children

/-- The named children that are no comments. -/
theorem operands :
    Forall₂ CountsLike (a.namedChildren.filter fun c => c.kind ≠ .comment)
      (b.namedChildren.filter fun c => c.kind ≠ .comment) :=
  forall₂_filter (fun l => l.kind ≠ .comment) h.namedChildren

theorem unionOperands : unionOperands a = unionOperands b := h.operands.length_eq

theorem isBareLabel : isBareLabel a = isBareLabel b := by
  have hall : ∀ n : Node, GoMeter.isBareLabel n =
      (n.namedChildren.map Node.kind).all fun k => k = .labelName || k = .comment := by
    intro n
    rw [GoMeter.isBareLabel, List.all_map]
    rfl
  rw [hall, hall, map_kind_eq h.namedChildren]

theorem embedsPointer_iff : a.EmbedsPointer ↔ b.EmbedsPointer := by
  have hname : a.childrenAt .name = [] ↔ b.childrenAt .name = [] := by
    rw [← List.length_eq_zero_iff, ← List.length_eq_zero_iff, (h.childrenAt .name).length_eq]
  have hstar : ∀ n : Node,
      (∃ c ∈ n.children, c.kind = .star) ↔ .star ∈ n.children.map Node.kind := by
    intro n
    rw [List.mem_map]
  rw [EmbedsPointer, EmbedsPointer, h.kind, hname, hstar, hstar, map_kind_eq h.children]

/-- The two nodes add as much to the count. -/
theorem units (above : Option Kind) : Placed.units ⟨above, a⟩ = Placed.units ⟨above, b⟩ := by
  have hcategory : Category.of above a = Category.of above b := by
    rw [Category.of, Category.of, h.kind, h.unionOperands]
  have hweight : weight a = weight b := by
    rw [weight, weight, h.kind, h.unionOperands, h.isBareLabel]
  have hpointer : embeddedPointer a = embeddedPointer b := by
    rw [embeddedPointer_eq, embeddedPointer_eq]
    exact if_congr h.embedsPointer_iff rfl rfl
  rw [Placed.units, Placed.units, Placed.category, Placed.category, hcategory, hweight, hpointer]

/-- The count goes on with nodes that count alike. -/
theorem onward : Forall₂ CountsLike a.onward b.onward := by
  rw [Node.onward, Node.onward, h.kind]
  split
  · exact .nil
  · exact .nil
  · rw [← valuePart?_eq, ← valuePart?_eq]
    exact forall₂_head?_or_getLast? (h.childrenAt .value) h.operands
  · exact List.rel_reverse h.namedChildren

/-- A node counts like another of the same label whose children count alike. -/
theorem countsLike : a.CountsLike b := by
  refine ⟨h.label, fun above => ?_⟩
  have hmass : ∀ n : Node, n.mass above =
      Placed.units ⟨above, n⟩ + (n.onward.map (mass (some n.kind))).sum := by
    intro n
    have heq := Placed.mass_eq ⟨above, n⟩
    rw [Placed.onward, List.map_map] at heq
    exact heq
  rw [hmass, hmass, h.units above, h.kind, map_eq (fun _ _ hab => hab.mass _) h.onward]

/-- The bodies of the two nodes have one size. -/
theorem countBody : countBody a = countBody b := by
  have hbodies := h.childrenAt .body
  rw [GoMeter.countBody, GoMeter.countBody, child?_eq_head?, child?_eq_head?, h.kind]
  generalize a.childrenAt .body = xs, b.childrenAt .body = ys at hbodies ⊢
  cases hbodies with
  | nil => rfl
  | cons hab _ =>
    simp only [List.head?_cons, tally_eq_mass, Placed.mass, List.map_singleton]
    rw [hab.mass]

end AlikeBelow

/-! ## Replacing a part -/

section Replacing

variable {n old new : Node}

theorem at?_replaceAt_append (n new : Node) (p q : Way) :
    (n.replaceAt (p ++ q) new).at? p = (n.at? p).map fun c => c.replaceAt q new := by
  induction p generalizing n with
  | nil => rfl
  | cons i p ih =>
    rw [List.cons_append, replaceAt, at?, at?, children, List.getElem?_modify_eq]
    cases n.children[i]? with
    | none => rfl
    | some c => exact ih c

/-- If a child is changed to one that counts like it, the nodes have children that count alike. -/
theorem alikeBelow_replaceAt {i : Nat} {rest : Way} {c : Node} (hc : n.children[i]? = some c)
    (h : c.CountsLike (c.replaceAt rest new)) : n.AlikeBelow (n.replaceAt (i :: rest) new) :=
  ⟨rfl, CountsLike.forall₂_modify hc h⟩

/-- A part of a tree may be replaced by one that counts like it. -/
theorem CountsLike.replaceAt {way : Way} (hold : n.at? way = some old) (h : old.CountsLike new) :
    n.CountsLike (n.replaceAt way new) := by
  induction way generalizing n with
  | nil =>
    cases hold
    exact h
  | cons i rest ih =>
    obtain ⟨c, hc, hrest⟩ := Option.bind_eq_some_iff.mp hold
    exact (alikeBelow_replaceAt hc (ih hrest)).countsLike

/-- The size of a function does not change if a part below it is replaced by one that counts like it. -/
theorem countBody_replaceAt {way : Way} (hbelow : way ≠ []) (hold : n.at? way = some old)
    (h : old.CountsLike new) : countBody (n.replaceAt way new) = countBody n := by
  cases way with
  | nil => exact absurd rfl hbelow
  | cons i rest =>
    obtain ⟨c, hc, hrest⟩ := Option.bind_eq_some_iff.mp hold
    exact (alikeBelow_replaceAt hc (h.replaceAt hrest)).countBody.symm

end Replacing

/-! ## Opaque parts -/

/-- A change that the count does not see: a function literal gets any other children, or a keyed element
that has a value gets any other children beside those that are values. -/
inductive OpaqueChange (old new : Node) : Prop where
  | inLiteral (hlabel : old.label = new.label) (hkind : old.kind = .funcLiteral)
  | besideValues (hlabel : old.label = new.label) (hkind : old.kind = .keyedElement)
    (hvalue : old.childrenAt .value ≠ []) (hkept : new.childrenAt .value = old.childrenAt .value)

theorem mass_of_funcLiteral {n : Node} (hkind : n.kind = .funcLiteral) (above : Option Kind) :
    n.mass above = 1 := by
  rw [mass, hkind]

/-- A keyed element with a value has the mass of its first value. -/
theorem mass_of_keyedElement {n value : Node} (hkind : n.kind = .keyedElement)
    (hvalue : (n.childrenAt .value).head? = some value) (above : Option Kind) :
    n.mass above = value.mass (some .keyedElement) := by
  have hpart : n.valuePart? = some value := by
    rw [valuePart?, hvalue, Option.some_or]
  rw [mass]
  simp only [hkind]
  split
  · next v hv => rw [Option.some.inj (hv.symm.trans hpart)]
  · next hnone => rw [hpart] at hnone; cases hnone

theorem OpaqueChange.countsLike {old new : Node} (h : old.OpaqueChange new) :
    old.CountsLike new := by
  cases h with
  | inLiteral hlabel hkind =>
    have hkind' : new.kind = .funcLiteral := (congrArg Label.kind hlabel).symm.trans hkind
    refine ⟨hlabel, fun above => ?_⟩
    rw [mass_of_funcLiteral hkind, mass_of_funcLiteral hkind']
  | besideValues hlabel hkind hvalue hkept =>
    have hkind' : new.kind = .keyedElement := (congrArg Label.kind hlabel).symm.trans hkind
    obtain ⟨value, hfirst⟩ := Option.ne_none_iff_exists'.mp (mt List.head?_eq_none_iff.mp hvalue)
    refine ⟨hlabel, fun above => ?_⟩
    rw [mass_of_keyedElement hkind hfirst, mass_of_keyedElement hkind' (hkept ▸ hfirst)]

end Node

/-- Let `x` lie inside the body of the function `f`, and let it be changed in a way that the count does
not see. Then `f` has the size that it had, whatever stands between the two. -/
theorem size_ignores_opaque_parts {root new : Node} {f body x : Site}
    (hf : root.at? f.way = some f.node) (hbody : f.child? .body = some body)
    (hx : root.at? x.way = some x.node) (hinside : body.way <+: x.way)
    (hchange : x.node.OpaqueChange new) :
    ∃ f', (root.replaceAt x.way new).at? f.way = some f' ∧ f'.label = f.node.label ∧
      countBody f' = countBody f.node := by
  obtain ⟨j, hway, -⟩ := Site.mem_children.mp (Site.mem_children_of_child? hbody)
  obtain ⟨rest, hrest⟩ := hinside
  have hsplit : x.way = f.way ++ j :: rest := by
    rw [← hrest, hway, List.append_assoc, List.singleton_append]
  have hbelow : f.node.at? (j :: rest) = some x.node := by
    rw [hsplit, Node.at?_append, hf] at hx
    exact hx
  refine ⟨f.node.replaceAt (j :: rest) new, ?_, rfl, ?_⟩
  · rw [hsplit, Node.at?_replaceAt_append, hf]
    rfl
  · exact Node.countBody_replaceAt (List.cons_ne_nil _ _) hbelow hchange.countsLike

/-- A function literal that is the value of an element of a composite literal. -/
def literalUnderKey : Node :=
  .branch .funcLiteral 29 41 none
    [.branch .parameterList 33 35 (some .parameters) [],
     .branch .block 36 41 (some .body)
      [.branch .expressionStatement 38 39 none [.branch .identifier 38 39 none []]]]

/-- An element whose value is the literal, after a key or none. -/
def elementWithKey (key : List Node) : Node :=
  .branch .keyedElement 26 41 none
    (key ++ [.branch .literalElement 29 41 (some .value) [literalUnderKey]])

/-- A name as the key. -/
def keyOfElement : Node :=
  .branch .literalElement 26 27 (some .key) [.branch .identifier 26 27 none []]

/-- The body that calls `g` with the element. -/
def bodyWithKey : Node :=
  .branch .block 20 45 (some .body)
    [.branch .expressionStatement 22 43 none
      [.branch .callExpression 22 43 none
        [.branch .identifier 22 23 (some .callee) [],
         .branch .argumentList 23 43 (some .arguments)
          [.branch .compositeLiteral 24 42 none
            [.branch .typeIdentifier 24 25 (some .type) [],
             .branch .literalValue 25 42 (some .body) [elementWithKey [keyOfElement]]]]]]]

/-- The function `f`. -/
def functionWithKey : Node :=
  .branch .functionDeclaration 11 45 none
    [.branch .identifier 16 17 (some .name) [],
     .branch .parameterList 17 19 (some .parameters) [], bodyWithKey]

/-- A file with the function `f` that calls `g` with a composite literal. -/
def fileWithKey : Node :=
  .branch .sourceFile 0 46 none
    [.branch .packageClause 0 9 none [.branch .packageIdentifier 8 9 none []], functionWithKey]

/-- The function has six units, also without the key and with an empty function literal. -/
theorem functionWithKey_size :
    countBody functionWithKey = 6 ∧
      (∃ f', (fileWithKey.replaceAt [1, 2, 0, 0, 1, 0, 1, 0] (elementWithKey [])).at? [1] = some f' ∧
        countBody f' = 6) ∧
      ∃ f', (fileWithKey.replaceAt [1, 2, 0, 0, 1, 0, 1, 0, 1, 0]
        (.branch .funcLiteral 29 41 none [])).at? [1] = some f' ∧ countBody f' = 6 := by
  have hsize : countBody functionWithKey = 6 := by decide +kernel
  refine ⟨hsize, ?_, ?_⟩
  · obtain ⟨f', hf', -, hcount⟩ := @size_ignores_opaque_parts fileWithKey (elementWithKey [])
      ⟨[1], functionWithKey⟩ ⟨[1, 2], bodyWithKey⟩
      ⟨[1, 2, 0, 0, 1, 0, 1, 0], elementWithKey [keyOfElement]⟩ rfl rfl rfl (by decide)
      (.besideValues rfl rfl (List.cons_ne_nil _ _) rfl)
    exact ⟨f', hf', hcount.trans hsize⟩
  · obtain ⟨f', hf', -, hcount⟩ := @size_ignores_opaque_parts fileWithKey
      (.branch .funcLiteral 29 41 none []) ⟨[1], functionWithKey⟩ ⟨[1, 2], bodyWithKey⟩
      ⟨[1, 2, 0, 0, 1, 0, 1, 0, 1, 0], literalUnderKey⟩ rfl rfl rfl (by decide)
      (.inLiteral rfl rfl)
    exact ⟨f', hf', hcount.trans hsize⟩

end GoMeter
