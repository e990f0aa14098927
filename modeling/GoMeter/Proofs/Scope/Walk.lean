import GoMeter.Proofs.Scope.Names
import GoMeter.Proofs.Syntax.Site
import GoMeter.Scope.Resolve

/-!
# The lexical walk

The meaning of name resolution, said without pending tasks and shared scopes: a tree is walked by
recursion in source order, with the scopes in force as a stack. Visiting a node means to run its
script, a list of moves in which scopes are pushed and popped and the parts of the node are
visited in turn.

* `Site.script`: what visiting a node of each kind does.
* `walk`, `runScript`: visiting a site and running a script; both give the scopes in force
  afterwards and the lookups that were made, each with the way to its call.
* `fileLookups`: the lookups of a whole file.
* `walk_outer`, `walk_of_enclosed`: a visit declares nothing outside the innermost scope, and nothing
  at all if the node opens a scope of its own.
-/

namespace GoMeter

/-- A question about a name: where its first byte is, what it is, and what it stands for. -/
structure Lookup where
  offset : Nat
  name : String
  answer : Option ObjectKind
  deriving DecidableEq, Repr

/-- The identifier by which a call names what it calls. -/
def Node.calledName? (n : Node) : Option Node :=
  if n.kind = .callExpression then (n.child? .callee).filter fun callee => callee.kind = .identifier
  else none

/-- The lookup that a call makes, where `ask` tells what a name stands for. -/
def Node.lookup? (src : Source) (ask : String → Option ObjectKind) (n : Node) : Option Lookup :=
  n.calledName?.map fun callee => ⟨callee.start, callee.text src, ask (callee.text src)⟩

/-! ## Scripts -/

/-- What can be done while a node is visited. -/
inductive Move where
  /-- Open a scope. -/
  | push
  /-- Return to the scope around the innermost one. -/
  | pop
  /-- Declare names in the innermost scope. -/
  | declare (names : List String) (what : ObjectKind)
  /-- Look up the name that a call calls. -/
  | lookup (call : Site)
  /-- Visit a site. -/
  | visit (s : Site)

namespace Move

/-- Visits one after the other. -/
def visits (ss : List Site) : List Move := ss.map .visit

/-- Moves in a scope of their own. -/
def enclosed (moves : List Move) : List Move := .push :: moves ++ [.pop]

/-- What the visits among some moves are charged. -/
def charges : List Move → Nat
  | [] => 0
  | .visit s :: rest => s.node.charge + charges rest
  | _ :: rest => charges rest

end Move

namespace Site

/-- The parts of a function that are visited: the children of its body. -/
def bodyChildren (s : Site) : List Site :=
  match s.child? .body with
  | none => []
  | some body => body.namedChildren

/-- The clauses of a type switch. -/
def clauses (s : Site) : List Site := s.namedChildren.filter fun c => Task.isClause c.node

open Move in
/-- What visiting a node does. -/
def script (src : Source) (s : Site) : List Move :=
  match Visit.of s.node with
  | .plain => visits s.namedChildren
  | .call => .lookup s :: visits s.namedChildren
  | .scoped => enclosed (visits s.namedChildren)
  | .function =>
    enclosed ((headNames src s.node).map (fun (names, what) => .declare names what) ++
      visits s.bodyChildren)
  | .binding =>
    visits (s.child? .right).toList ++ [.declare (boundNames src (s.node.child? .left)) .variable]
  | .declaration .type =>
    (s.specs .type).map fun spec => .declare (spec.node.declaredNames src) .type
  | .declaration what =>
    (s.specs what).flatMap fun spec =>
      visits (spec.child? .value).toList ++ [.declare (spec.node.declaredNames src) what]
  | .typeSwitch =>
    enclosed (visits (s.child? .initializer).toList ++ visits (s.child? .value).toList ++
      s.clauses.flatMap fun clause =>
        enclosed (.declare (boundNames src (s.node.child? .alias)) .variable ::
          visits clause.namedChildren))

theorem script_of_types (src : Source) {s : Site} (hv : Visit.of s.node = .declaration .type) :
    s.script src =
      (s.specs .type).map fun spec => .declare (spec.node.declaredNames src) .type := by
  simp only [script, hv]

theorem script_of_values (src : Source) {s : Site} {what : ObjectKind}
    (hv : Visit.of s.node = .declaration what) (hwhat : what ≠ .type) :
    s.script src = (s.specs what).flatMap fun spec =>
      Move.visits (spec.child? .value).toList ++
        [.declare (spec.node.declaredNames src) what] := by
  cases what <;> first | contradiction | simp only [script, hv]

end Site

/-! ## Running a script ends -/

namespace Move

@[simp] theorem charges_append (a b : List Move) : charges (a ++ b) = charges a + charges b := by
  induction a with
  | nil => simp [charges]
  | cons move rest ih => cases move <;> simp [charges, ih, Nat.add_assoc]

@[simp] theorem charges_visits (ss : List Site) :
    charges (visits ss) = Node.charges (ss.map Site.node) := by
  induction ss with
  | nil => rfl
  | cons s rest ih =>
    rw [visits] at ih
    simp [visits, charges, ih]

@[simp] theorem charges_enclosed (moves : List Move) :
    charges (enclosed moves) = charges moves := by
  simp [enclosed, charges]

theorem charges_declarations {α : Type} (names : α → List String) (what : α → ObjectKind)
    (l : List α) : charges (l.map fun x => .declare (names x) (what x)) = 0 := by
  induction l with
  | nil => rfl
  | cons x rest ih => simpa [charges] using ih

theorem charges_visit?_le (s : Site) (f : Field) :
    charges (visits (s.child? f).toList) ≤ Node.charges s.node.children := by
  have := s.node.charges_child?_le f
  rw [← Site.map_node_child?, Option.toList_map] at this
  rwa [charges_visits]

theorem charges_flatMap_le (script : Site → List Move)
    (h : ∀ s, charges (script s) < s.node.charge) (ss : List Site) :
    charges (ss.flatMap script) ≤ Node.charges (ss.map Site.node) := by
  induction ss with
  | nil => simp [charges]
  | cons s rest ih =>
    have := h s
    simp
    omega

end Move

namespace Site

theorem charges_bodyChildren_le (s : Site) :
    Node.charges (s.bodyChildren.map node) ≤ Node.charges s.node.children := by
  unfold bodyChildren
  cases hb : s.child? .body with
  | none => simp
  | some body =>
    have hle := Node.charge_le_of_mem (node_mem_children (mem_children_of_child? hb))
    have hn := body.node.charges_namedChildren_le
    have hc := body.node.charge_eq
    simp only [map_node_namedChildren]
    omega

theorem charges_clauses_le (s : Site) :
    Node.charges (s.clauses.map node) ≤ Node.charges s.node.children := by
  rw [clauses, map_node_filter Task.isClause, map_node_namedChildren]
  exact Nat.le_trans (Node.charges_filter_le _ _) s.node.charges_namedChildren_le

open Move in
theorem charges_script_lt (src : Source) (s : Site) : charges (s.script src) < s.node.charge := by
  have hc := s.node.charge_eq
  have hn := s.node.charges_namedChildren_le
  unfold script
  split
  · simp; omega
  · simp [charges]; omega
  · simp; omega
  · have := s.charges_bodyChildren_le
    simp [charges_declarations Prod.fst Prod.snd]; omega
  · have := charges_visit?_le s .right
    simp only [charges_append, charges]
    omega
  · simp [charges_declarations (fun spec : Site => spec.node.declaredNames src) fun _ => .type]
    omega
  · next what _ _ =>
    have hs := s.node.charges_specs_le what
    rw [← map_node_specs] at hs
    refine Nat.lt_of_le_of_lt (charges_flatMap_le _ ?_ _) (by omega)
    intro spec
    have := charges_visit?_le spec .value
    have := spec.node.charge_eq
    simp only [charges_append, charges]
    omega
  · have hi := charges_visit?_le s .initializer
    have hv := charges_visit?_le s .value
    have hcl := s.charges_clauses_le
    have hle := charges_flatMap_le
      (fun clause => enclosed (.declare (boundNames src (s.node.child? .alias)) .variable ::
        visits clause.namedChildren)) ?_ s.clauses
    · simp only [charges_enclosed, charges_append]
      omega
    · intro clause
      have := clause.node.charges_namedChildren_le
      have := clause.node.charge_eq
      simp [charges]
      omega

end Site

mutual

/-- Visits a site with the scopes `c` in force. -/
def walk (src : Source) (c : ScopeChain) (s : Site) : ScopeChain × List (Way × Lookup) :=
  runScript src c (s.script src)
termination_by (s.node.charge, 0)
decreasing_by exact Prod.Lex.left _ _ (s.charges_script_lt src)

/-- Runs a script with the scopes `c` in force. -/
def runScript (src : Source) (c : ScopeChain) : List Move → ScopeChain × List (Way × Lookup)
  | [] => (c, [])
  | .push :: rest => runScript src c.push rest
  | .pop :: rest => runScript src c.pop rest
  | .declare names what :: rest => runScript src (c.declareAll names what) rest
  | .lookup call :: rest =>
    let later := runScript src c rest
    (later.1, ((call.node.lookup? src c.lookup).map (call.way, ·)).toList ++ later.2)
  | .visit s :: rest =>
    let here := walk src c s
    let later := runScript src here.1 rest
    (later.1, here.2 ++ later.2)
termination_by moves => (Move.charges moves, moves.length)
decreasing_by all_goals simp [Move.charges, Prod.lex_def]; try omega

end

/-- The lookups of a file: its top-level declarations are visited with the names of the file in
scope. -/
def fileLookups (src : Source) (root : Node) : List (Way × Lookup) :=
  (runScript src ⟨fileScope src root, []⟩ (Move.visits (Site.root root).namedChildren)).2

theorem walk_eq (src : Source) (c : ScopeChain) (s : Site) :
    walk src c s = runScript src c (s.script src) := by
  rw [walk]

@[simp] theorem runScript_visits_nil (src : Source) (c : ScopeChain) :
    runScript src c (Move.visits []) = (c, []) := by
  rw [Move.visits, List.map_nil, runScript]

theorem runScript_visits_cons (src : Source) (c : ScopeChain) (s : Site) (rest : List Site) :
    runScript src c (Move.visits (s :: rest)) =
      ((runScript src (walk src c s).1 (Move.visits rest)).1,
        (walk src c s).2 ++ (runScript src (walk src c s).1 (Move.visits rest)).2) := by
  rw [Move.visits, List.map_cons, runScript]
  rfl

/-- Declarations one after the other. -/
theorem runScript_declarations {α : Type} (src : Source) (names : α → List String)
    (what : α → ObjectKind) (l : List α) (c : ScopeChain) :
    runScript src c (l.map fun x => .declare (names x) (what x)) =
      (l.foldl (fun c x => c.declareAll (names x) (what x)) c, []) := by
  induction l generalizing c with
  | nil => rw [List.map_nil, runScript, List.foldl_nil]
  | cons x rest ih => rw [List.map_cons, runScript, ih, List.foldl_cons]

theorem runScript_append (src : Source) (c : ScopeChain) (a b : List Move) :
    runScript src c (a ++ b) =
      ((runScript src (runScript src c a).1 b).1,
        (runScript src c a).2 ++ (runScript src (runScript src c a).1 b).2) := by
  induction a generalizing c with
  | nil => simp [runScript]
  | cons move rest ih => cases move <;> simp [runScript, ih]

/-! ## The parts of a site -/

namespace Move

/-- The sites visited by a script, in order. -/
def targets : List Move → List Site
  | [] => []
  | .visit s :: rest => s :: targets rest
  | _ :: rest => targets rest

@[simp] theorem targets_append (a b : List Move) : targets (a ++ b) = targets a ++ targets b := by
  induction a with
  | nil => rfl
  | cons move rest ih => cases move <;> simp [targets, ih]

@[simp] theorem targets_visits (ss : List Site) : targets (visits ss) = ss := by
  induction ss with
  | nil => rfl
  | cons s rest ih => exact congrArg (s :: ·) ih

@[simp] theorem targets_enclosed (moves : List Move) :
    targets (enclosed moves) = targets moves := by
  simp [enclosed, targets]

theorem targets_declarations {α : Type} (names : α → List String) (what : α → ObjectKind)
    (l : List α) : targets (l.map fun x => .declare (names x) (what x)) = [] := by
  induction l with
  | nil => rfl
  | cons x rest ih => simpa [targets] using ih

theorem targets_flatMap {α : Type} (f : α → List Move) (l : List α) :
    targets (l.flatMap f) = l.flatMap fun x => targets (f x) := by
  induction l with
  | nil => rfl
  | cons x rest ih => simp [ih]

end Move

namespace Site

/-- The sites that visiting a node visits directly, in order. Whatever else is below the node is
read for names at most. -/
def parts (s : Site) : List Site :=
  match Visit.of s.node with
  | .plain | .call | .scoped => s.namedChildren
  | .function => s.bodyChildren
  | .binding => (s.child? .right).toList
  | .declaration .type => []
  | .declaration what => (s.specs what).flatMap fun spec => (spec.child? .value).toList
  | .typeSwitch =>
    (s.child? .initializer).toList ++ (s.child? .value).toList ++ s.clauses.flatMap namedChildren

open Move in
theorem targets_script (src : Source) (s : Site) : targets (s.script src) = s.parts := by
  unfold script parts
  split
  · simp
  · simp [targets]
  · simp
  · simp [targets_declarations Prod.fst Prod.snd]
  · simp [targets]
  · exact targets_declarations _ _ _
  · simp [targets_flatMap, targets]
  · simp [targets_flatMap, targets]

/-- What holds of the children of a site and passes on from lists of specifications to their
children holds of the specifications below the site. -/
theorem of_mem_specs {motive : Site → Prop} {what : ObjectKind} {s spec : Site}
    (hbase : ∀ c ∈ s.namedChildren, motive c)
    (hstep : ∀ a, a.node.kind.isSpecList → motive a → ∀ b ∈ a.namedChildren, motive b)
    (h : spec ∈ s.specs what) : motive spec := by
  induction hsize : s.node.size using Nat.strongRecOn generalizing s with
  | ind size ih =>
    subst hsize
    rw [specs_eq, List.mem_flatMap] at h
    obtain ⟨c, hc, hspec⟩ := h
    split_ifs at hspec with _ hlist
    · rw [List.mem_singleton.mp hspec]
      exact hbase c hc
    · exact ih _ (size_lt_of_mem_children (mem_children_of_mem_namedChildren hc))
        (hstep c hlist (hbase c hc)) hspec rfl
    · cases hspec

theorem mem_bodyChildren {s c : Site} :
    c ∈ s.bodyChildren ↔ ∃ body, s.child? .body = some body ∧ c ∈ body.namedChildren := by
  unfold bodyChildren
  cases s.child? .body <;> simp

theorem mem_clauses {s c : Site} : c ∈ s.clauses ↔ c ∈ s.namedChildren ∧ Task.isClause c.node := by
  rw [clauses, List.mem_filter]

/-- What holds of the children of a site and passes on to further children holds of its parts. -/
theorem of_mem_parts {motive : Site → Prop} {s t : Site} (hbase : ∀ c ∈ s.children, motive c)
    (hstep : ∀ a, motive a → ∀ b ∈ a.children, motive b) (h : t ∈ s.parts) : motive t := by
  have hnamed : ∀ a, motive a → ∀ b ∈ a.namedChildren, motive b :=
    fun a ha b hb => hstep a ha b (mem_children_of_mem_namedChildren hb)
  have hfield : ∀ f, ∀ c ∈ (s.child? f).toList, motive c :=
    fun f c hc => hbase c (mem_children_of_child? (Option.mem_toList.mp hc))
  have hbelow : ∀ c ∈ s.namedChildren, motive c :=
    fun c hc => hbase c (mem_children_of_mem_namedChildren hc)
  unfold parts at h
  split at h
  · exact hbelow t h
  · exact hbelow t h
  · exact hbelow t h
  · obtain ⟨body, hbody, ht⟩ := mem_bodyChildren.mp h
    exact hnamed body (hbase body (mem_children_of_child? hbody)) t ht
  · exact hfield .right t h
  · cases h
  · obtain ⟨spec, hspec, ht⟩ := List.mem_flatMap.mp h
    exact hstep spec (of_mem_specs hbelow (fun a _ => hnamed a) hspec) t
      (mem_children_of_child? (Option.mem_toList.mp ht))
  · rcases List.mem_append.mp h with h | h
    · rcases List.mem_append.mp h with h | h
      · exact hfield .initializer t h
      · exact hfield .value t h
    · obtain ⟨clause, hclause, ht⟩ := List.mem_flatMap.mp h
      exact hnamed clause (hbelow clause (mem_clauses.mp hclause).1) t ht

theorem at?_of_mem_specs {root : Node} {what : ObjectKind} {s spec : Site}
    (hs : root.at? s.way = some s.node) (h : spec ∈ s.specs what) :
    root.at? spec.way = some spec.node :=
  of_mem_specs (motive := fun c => root.at? c.way = some c.node)
    (fun _ hc => at?_of_mem_namedChildren hs hc)
    (fun _ _ ha _ hb => at?_of_mem_namedChildren ha hb) h

theorem at?_of_mem_parts {root : Node} {s t : Site} (hs : root.at? s.way = some s.node)
    (h : t ∈ s.parts) : root.at? t.way = some t.node :=
  of_mem_parts (motive := fun c => root.at? c.way = some c.node)
    (fun _ hc => at?_of_mem_children hs hc) (fun _ ha _ hb => at?_of_mem_children ha hb) h

theorem size_lt_of_mem_parts {s t : Site} (h : t ∈ s.parts) : t.node.size < s.node.size :=
  of_mem_parts (motive := fun c => c.node.size < s.node.size)
    (fun _ hc => size_lt_of_mem_children hc)
    (fun _ ha _ hb => Nat.lt_trans (size_lt_of_mem_children hb) ha) h

/-- To prove something of every site, prove it of a site from its parts. -/
@[elab_as_elim]
theorem parts_induction {motive : Site → Prop}
    (h : ∀ s : Site, (∀ t ∈ s.parts, motive t) → motive s) (s : Site) : motive s := by
  induction hsize : s.node.size using Nat.strongRecOn generalizing s with
  | ind size ih =>
    subst hsize
    exact h s fun t ht => ih _ (size_lt_of_mem_parts ht) t rfl

end Site

/-! ## Scopes are closed again -/

namespace Move

/-- Every scope that is pushed is popped again. -/
inductive Balanced : List Move → Prop
  | nil : Balanced []
  | declare {rest : List Move} (names : List String) (what : ObjectKind) :
      Balanced rest → Balanced (.declare names what :: rest)
  | lookup {rest : List Move} (call : Site) : Balanced rest → Balanced (.lookup call :: rest)
  | visit {rest : List Move} (s : Site) : Balanced rest → Balanced (.visit s :: rest)
  | enclosed {body rest : List Move} :
      Balanced body → Balanced rest → Balanced (Move.enclosed body ++ rest)

theorem Balanced.append {a b : List Move} (ha : Balanced a) (hb : Balanced b) :
    Balanced (a ++ b) := by
  induction ha with
  | nil => exact hb
  | declare names what _ ih => exact .declare names what ih
  | lookup call _ ih => exact .lookup call ih
  | visit s _ ih => exact .visit s ih
  | enclosed hbody _ _ ih =>
    rw [List.append_assoc]
    exact .enclosed hbody ih

theorem balanced_enclosed {body : List Move} (h : Balanced body) : Balanced (enclosed body) := by
  simpa using Balanced.enclosed h .nil

theorem balanced_visits (ss : List Site) : Balanced (visits ss) := by
  induction ss with
  | nil => exact .nil
  | cons s rest ih => exact .visit s ih

theorem balanced_declarations {α : Type} (names : α → List String) (what : α → ObjectKind)
    (l : List α) : Balanced (l.map fun x => .declare (names x) (what x)) := by
  induction l with
  | nil => exact .nil
  | cons x rest ih => exact .declare _ _ ih

theorem balanced_flatMap {α : Type} {f : α → List Move} (h : ∀ x, Balanced (f x)) (l : List α) :
    Balanced (l.flatMap f) := by
  induction l with
  | nil => exact .nil
  | cons x rest ih => exact (h x).append ih

theorem balanced_clauses (aliases : List String) (clauses : List Site) :
    Balanced (clauses.flatMap fun clause =>
      enclosed (.declare aliases .variable :: visits clause.namedChildren)) :=
  balanced_flatMap (fun _ => balanced_enclosed (.declare _ _ (balanced_visits _))) clauses

end Move

/-- Whether a node opens a scope of its own. -/
def Visit.opensScope : Visit → Bool
  | .function | .scoped | .typeSwitch => true
  | _ => false

namespace Site

open Move

/-- A node that opens a scope does everything in it. -/
theorem script_of_opensScope (src : Source) {s : Site} (h : (Visit.of s.node).opensScope) :
    ∃ body, Balanced body ∧ s.script src = enclosed body := by
  unfold script
  split
  · next hv => simp [hv, Visit.opensScope] at h
  · next hv => simp [hv, Visit.opensScope] at h
  · exact ⟨_, balanced_visits _, rfl⟩
  · exact ⟨_, (balanced_declarations Prod.fst Prod.snd _).append (balanced_visits _), rfl⟩
  · next hv => simp [hv, Visit.opensScope] at h
  · next hv => simp [hv, Visit.opensScope] at h
  · next hv => simp [hv, Visit.opensScope] at h
  · exact ⟨_, ((balanced_visits _).append (balanced_visits _)).append (balanced_clauses _ _), rfl⟩

theorem balanced_script (src : Source) (s : Site) : Balanced (s.script src) := by
  by_cases h : (Visit.of s.node).opensScope
  · obtain ⟨body, hbody, hscript⟩ := script_of_opensScope src h
    rw [hscript]
    exact balanced_enclosed hbody
  · unfold script
    split
    · exact balanced_visits _
    · exact .lookup _ (balanced_visits _)
    · next hv => simp [hv, Visit.opensScope] at h
    · next hv => simp [hv, Visit.opensScope] at h
    · exact (balanced_visits _).append (.declare _ _ .nil)
    · exact balanced_declarations _ _ _
    · exact balanced_flatMap (fun spec => (balanced_visits _).append (.declare _ _ .nil)) _
    · next hv => simp [hv, Visit.opensScope] at h

end Site

/-- A balanced script in which every visit leaves the outer scopes alone does so itself. -/
theorem runScript_outer {src : Source} {moves : List Move} (hb : Move.Balanced moves)
    (ht : ∀ t ∈ Move.targets moves, ∀ c, (walk src c t).1.outer = c.outer) (c : ScopeChain) :
    (runScript src c moves).1.outer = c.outer := by
  induction hb generalizing c with
  | nil => simp [runScript]
  | declare names what _ ih =>
    rw [runScript, ih ht, ScopeChain.declareAll_eq]
  | lookup call _ ih =>
    rw [runScript]
    exact ih ht c
  | visit s _ ih =>
    rw [runScript]
    simp only [Move.targets, List.forall_mem_cons] at ht
    exact (ih ht.2 _).trans (ht.1 c)
  | @enclosed body rest _ _ ihbody ihrest =>
    simp only [Move.targets_append, Move.targets_enclosed, List.forall_mem_append] at ht
    rw [runScript_append, Move.enclosed, List.cons_append, runScript, runScript_append]
    simp only [runScript]
    rw [ScopeChain.pop_of_outer (ihbody ht.1 c.push)]
    exact ihrest ht.2 c

/-- A visit leaves all scopes but the innermost one as they are. -/
theorem walk_outer (src : Source) (c : ScopeChain) (s : Site) :
    (walk src c s).1.outer = c.outer := by
  induction s using Site.parts_induction generalizing c with
  | h s ih =>
    rw [walk_eq]
    refine runScript_outer (s.balanced_script src) ?_ c
    rw [Site.targets_script]
    exact fun t ht c => ih t ht c

/-- A scope that was pushed and popped leaves no trace in the scopes around it. -/
theorem runScript_enclosed (src : Source) (c : ScopeChain) {body : List Move}
    (hb : Move.Balanced body) :
    runScript src c (Move.enclosed body) = (c, (runScript src c.push body).2) := by
  rw [Move.enclosed, List.cons_append, runScript, runScript_append]
  simp only [runScript, List.append_nil]
  rw [ScopeChain.pop_of_outer (runScript_outer hb (fun t _ c => walk_outer src c t) c.push)]

/-- Visiting a node that opens a scope leaves the scopes in force as they are. -/
theorem walk_of_enclosed (src : Source) (c : ScopeChain) {s : Site}
    (h : (Visit.of s.node).opensScope) : (walk src c s).1 = c := by
  obtain ⟨body, hbody, hscript⟩ := Site.script_of_opensScope src h
  rw [walk_eq, hscript, runScript_enclosed src c hbody]

end GoMeter
