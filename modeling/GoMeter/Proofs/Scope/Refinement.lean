import GoMeter.Proofs.Scope.Tasks
import Mathlib.Tactic.Set

/-!
# The work list refines the lexical walk

The work list keeps all scopes in an arena and defers declarations; the lexical walk has a stack of
scopes and recursion. Both are tied together by `Arena.Sees`: from one index of the arena the scopes
of the stack are in view, innermost first.

* `Arena.Sees.lookup_eq`: what is in view decides every lookup.
* `Arena.KeepsBut`: the frame condition; a visit in one scope changes no other scope that existed.
* `simulated_visit`: performing the visit of a node, with all it gives rise to, is one step of the
  lexical walk.
* `resolve_eq_lexical_walk`: for every file the work list runs dry, makes the lookups of the lexical
  walk in the same order with the same answers, and notes exactly the callees found to be functions.
-/

namespace GoMeter

/-! ## Scopes in view -/

namespace Arena

/-- From the scope with index `i` the scopes of a chain are in view: each declares the same names as
its counterpart. -/
inductive Sees (a : Arena) : Nat → ScopeChain → Prop
  | outermost {i : Nat} {f : Frame} {inner : Scope} (hframe : a.frames[i]? = some f)
      (houter : f.outer = none) (hscope : ∀ x, f.scope.get? x = inner.get? x) :
      Sees a i ⟨inner, []⟩
  | inside {i j : Nat} {f : Frame} {inner : Scope} {c : ScopeChain} (hframe : a.frames[i]? = some f)
      (houter : f.outer = some j) (hlt : j < i) (hscope : ∀ x, f.scope.get? x = inner.get? x)
      (hc : Sees a j c) : Sees a i ⟨inner, c.inner :: c.outer⟩

theorem frame_declareAll {a : Arena} {i : Nat} {f : Frame} (h : a.frames[i]? = some f)
    (names : List String) (what : ObjectKind) :
    (a.declareAll i names what).frames[i]? =
      some { f with scope := f.scope.declareAll names what } := by
  simp [declareAll, Array.getElem?_modify, h]

theorem frame_declareAll_of_ne (a : Arena) {i j : Nat} (h : j ≠ i) (names : List String)
    (what : ObjectKind) : (a.declareAll i names what).frames[j]? = a.frames[j]? := by
  rw [declareAll, Array.getElem?_modify, if_neg (Ne.symm h)]

theorem frame_openScope {a : Arena} {j : Nat} (h : j < a.frames.size) (outer : Nat) :
    (a.openScope outer).2.frames[j]? = a.frames[j]? := by
  rw [openScope, Array.getElem?_push_lt h, Array.getElem?_eq_getElem h]

namespace Sees

variable {a b : Arena} {i : Nat} {c : ScopeChain}

/-- What is in view decides every lookup. -/
theorem lookup_eq (h : a.Sees i c) (name : String) : a.lookup name i = c.lookup name := by
  induction h with
  | outermost hframe houter hscope =>
    rw [Arena.lookup, hframe]
    simp only [houter, ScopeChain.lookup, List.findSome?_cons, ← hscope]
    cases Scope.get? _ name <;> rfl
  | inside hframe houter hlt hscope _ ih =>
    rw [Arena.lookup, hframe]
    simp only [houter, hlt, if_true, ih, ScopeChain.lookup, List.findSome?_cons, ← hscope]
    cases Scope.get? _ name <;> rfl

theorem lt_size (h : a.Sees i c) : i < a.frames.size := by
  cases h with
  | outermost hframe => exact (Array.getElem?_eq_some_iff.mp hframe).1
  | inside hframe => exact (Array.getElem?_eq_some_iff.mp hframe).1

/-- The view from `i` depends on the scopes up to `i` only, since outer scopes have smaller
indices. -/
theorem of_agree (h : a.Sees i c) (hab : ∀ j ≤ i, b.frames[j]? = a.frames[j]?) : b.Sees i c := by
  induction h with
  | outermost hframe houter hscope =>
    exact .outermost ((hab _ (Nat.le_refl _)).trans hframe) houter hscope
  | inside hframe houter hlt hscope _ ih =>
    exact .inside ((hab _ (Nat.le_refl _)).trans hframe) houter hlt hscope
      (ih fun j hj => hab j (by omega))

/-- A declaration in the innermost scope in view. -/
theorem declareAll (h : a.Sees i c) (names : List String) (what : ObjectKind) :
    (a.declareAll i names what).Sees i (c.declareAll names what) := by
  rw [ScopeChain.declareAll_eq]
  cases h with
  | outermost hframe houter hscope =>
    refine .outermost (frame_declareAll hframe names what) houter fun x => ?_
    simp only [Scope.get?_declareAll, hscope]
  | inside hframe houter hlt hscope hc =>
    refine .inside (frame_declareAll hframe names what) houter hlt (fun x => ?_)
      (hc.of_agree fun j hj => frame_declareAll_of_ne a (by omega) names what)
    simp only [Scope.get?_declareAll, hscope]

/-- A new scope has the scopes in view around it. -/
theorem openScope (h : a.Sees i c) : (a.openScope i).2.Sees (a.openScope i).1 c.push := by
  have hlt := h.lt_size
  refine .inside (f := ⟨.empty, some i⟩) ?_ rfl hlt (fun _ => rfl)
    (h.of_agree fun j hj => frame_openScope (by omega) i)
  simp [Arena.openScope]

/-- Only what the innermost scope says matters, not the order of its declarations. -/
theorem congr_inner (h : a.Sees i c) {inner : Scope} (hin : ∀ x, inner.get? x = c.inner.get? x) :
    a.Sees i ⟨inner, c.outer⟩ := by
  cases h with
  | outermost hframe houter hscope =>
    exact .outermost hframe houter fun x => (hscope x).trans (hin x).symm
  | inside hframe houter hlt hscope hc =>
    exact .inside hframe houter hlt (fun x => (hscope x).trans (hin x).symm) hc

end Sees

/-! ## The frame condition -/

/-- No scope is lost, and only the one with index `i` may have changed. -/
structure KeepsBut (a b : Arena) (i : Nat) : Prop where
  size_le : a.frames.size ≤ b.frames.size
  frame : ∀ j < a.frames.size, j ≠ i → b.frames[j]? = a.frames[j]?

namespace KeepsBut

variable {a b d : Arena} {i k : Nat} {c : ScopeChain}

theorem refl (a : Arena) (i : Nat) : a.KeepsBut a i := ⟨Nat.le_refl _, fun _ _ _ => rfl⟩

theorem trans (hab : a.KeepsBut b i) (hbd : b.KeepsBut d i) : a.KeepsBut d i where
  size_le := Nat.le_trans hab.size_le hbd.size_le
  frame j hj hne :=
    (hbd.frame j (Nat.lt_of_lt_of_le hj hab.size_le) hne).trans (hab.frame j hj hne)

theorem declareAll (a : Arena) (i : Nat) (names : List String) (what : ObjectKind) :
    a.KeepsBut (a.declareAll i names what) i where
  size_le := by simp [Arena.declareAll]
  frame _ _ hne := frame_declareAll_of_ne a hne names what

theorem openScope (a : Arena) (outer i : Nat) : a.KeepsBut (a.openScope outer).2 i where
  size_le := by simp [Arena.openScope]
  frame _ hj _ := frame_openScope hj outer

/-- The view from a scope survives a change of a newer one. -/
theorem sees (h : a.KeepsBut b k) (hs : a.Sees i c) (hlt : i < k) : b.Sees i c :=
  hs.of_agree fun j hj => h.frame j (Nat.lt_of_le_of_lt hj hs.lt_size) (by omega)

end KeepsBut

/-- No scope is lost, and those with an index below `n` have not changed. -/
structure KeepsBelow (a b : Arena) (n : Nat) : Prop where
  size_le : a.frames.size ≤ b.frames.size
  frame : ∀ j < n, b.frames[j]? = a.frames[j]?

namespace KeepsBelow

variable {a b d : Arena} {i n : Nat} {c : ScopeChain}

theorem trans (hab : a.KeepsBelow b n) (hbd : b.KeepsBelow d n) : a.KeepsBelow d n where
  size_le := Nat.le_trans hab.size_le hbd.size_le
  frame j hj := (hbd.frame j hj).trans (hab.frame j hj)

theorem mono (h : a.KeepsBelow b n) {m : Nat} (hm : m ≤ n) : a.KeepsBelow b m :=
  ⟨h.size_le, fun j hj => h.frame j (by omega)⟩

theorem of_keepsBut (h : a.KeepsBut b n) (hn : n ≤ a.frames.size) : a.KeepsBelow b n :=
  ⟨h.size_le, fun j hj => h.frame j (by omega) (by omega)⟩

theorem keepsBut (h : a.KeepsBelow b a.frames.size) (i : Nat) : a.KeepsBut b i :=
  ⟨h.size_le, fun j hj _ => h.frame j hj⟩

theorem openScope (a : Arena) (outer : Nat) : a.KeepsBelow (a.openScope outer).2 a.frames.size :=
  of_keepsBut (.openScope a outer _) (Nat.le_refl _)

theorem sees (h : a.KeepsBelow b n) (hs : a.Sees i c) (hlt : i < n) : b.Sees i c :=
  hs.of_agree fun j hj => h.frame j (by omega)

end KeepsBelow

end Arena

@[simp] theorem Resolution.arena_declare (r : Resolution) (scope : Nat) (names : List String)
    (what : ObjectKind) :
    (r.declare scope names what).arena = r.arena.declareAll scope names what := rfl

/-! ## One visit -/

/-- Performing `tasks` in the scope `i` is the walk `w`: its scopes come into view, no other scope
changes, and the lookups are those of `w`. -/
structure Simulated (src : Source) (i : Nat) (r : Resolution) (tasks : List Task)
    (w : ScopeChain × List (Way × Lookup)) : Prop where
  sees : (performAll src r tasks).arena.Sees i w.1
  keeps : r.arena.KeepsBut (performAll src r tasks).arena i
  lookups : lookupsMade src r tasks = w.2.map Prod.snd

namespace Simulated

variable {src : Source} {i : Nat} {r : Resolution} {c : ScopeChain}

theorem nil (h : r.arena.Sees i c) : Simulated src i r [] (c, []) where
  sees := by rwa [performAll_nil]
  keeps := by rw [performAll_nil]; exact .refl _ _
  lookups := by simp

theorem append {ts us : List Task} {w w' : ScopeChain × List (Way × Lookup)}
    (h : Simulated src i r ts w) (h' : Simulated src i (performAll src r ts) us w') :
    Simulated src i r (ts ++ us) (w'.1, w.2 ++ w'.2) where
  sees := by rw [performAll_append]; exact h'.sees
  keeps := by rw [performAll_append]; exact h.keeps.trans h'.keeps
  lookups := by rw [lookupsMade_append, h.lookups, h'.lookups, List.map_append]

theorem append_script {ts us : List Task} {a b : List Move}
    (h : Simulated src i r ts (runScript src c a))
    (h' : Simulated src i (performAll src r ts) us (runScript src (runScript src c a).1 b)) :
    Simulated src i r (ts ++ us) (runScript src c (a ++ b)) := by
  rw [runScript_append]
  exact h.append h'

theorem declare (h : r.arena.Sees i c) (names : List String) (what : ObjectKind) :
    Simulated src i r [.declare i names what] (runScript src c [.declare names what]) := by
  rw [runScript, runScript]
  refine ⟨?_, ?_, ?_⟩
  · rw [performAll_cons]
    simpa [Task.perform] using h.declareAll names what
  · rw [performAll_cons]
    simpa [Task.perform] using Arena.KeepsBut.declareAll r.arena i names what
  · rw [lookupsMade_cons]
    simp [Task.perform, Task.lookup?]

end Simulated

/-- Visiting the node at a site does what the lexical walk does there. -/
def SimulatesVisit (src : Source) (s : Site) : Prop :=
  ∀ (i : Nat) (r : Resolution) (c : ScopeChain), r.arena.Sees i c →
    Simulated src i r [.visit s.node i] (walk src c s)

section Cases

variable {src : Source} {i : Nat} {r : Resolution} {c : ScopeChain}

open Move (visits enclosed)

theorem simulated_visits {ss : List Site} (hss : ∀ s ∈ ss, SimulatesVisit src s)
    (h : r.arena.Sees i c) :
    Simulated src i r (Task.visits (ss.map Site.node) i) (runScript src c (visits ss)) := by
  induction ss generalizing r c with
  | nil =>
    rw [runScript_visits_nil]
    exact .nil h
  | cons s rest ih =>
    rw [List.forall_mem_cons] at hss
    have hhere := hss.1 i r c h
    rw [runScript_visits_cons]
    exact hhere.append (ih hss.2 hhere.sees)

theorem simulated_visit? {o : Option Site} (ho : ∀ s ∈ o.toList, SimulatesVisit src s)
    (h : r.arena.Sees i c) :
    Simulated src i r (Task.visit? (o.map Site.node) i) (runScript src c (visits o.toList)) := by
  rw [Task.visit?, Option.toList_map]
  exact simulated_visits ho h

/-- A right side or a value is walked, then the names on the left are declared. -/
theorem simulated_then_declare {o : Option Site} (ho : ∀ s ∈ o.toList, SimulatesVisit src s)
    (names : List String) (what : ObjectKind) (h : r.arena.Sees i c) :
    Simulated src i r (Task.visit? (o.map Site.node) i ++ [.declare i names what])
      (runScript src c (visits o.toList ++ [.declare names what])) := by
  have hright := simulated_visit? ho h
  exact hright.append_script (.declare hright.sees names what)

theorem simulated_specs (what : ObjectKind) {specs : List Site}
    (hspecs : ∀ spec ∈ specs, ∀ s ∈ (spec.child? .value).toList, SimulatesVisit src s)
    (h : r.arena.Sees i c) :
    Simulated src i r
      ((specs.map Site.node).flatMap fun spec =>
        Task.visit? (spec.child? .value) i ++ [.declare i (spec.declaredNames src) what])
      (runScript src c (specs.flatMap fun spec =>
        visits (spec.child? .value).toList ++ [.declare (spec.node.declaredNames src) what])) := by
  induction specs generalizing r c with
  | nil =>
    rw [List.flatMap_nil, runScript]
    exact .nil h
  | cons spec rest ih =>
    rw [List.forall_mem_cons] at hspecs
    have hhere := simulated_then_declare hspecs.1 (spec.node.declaredNames src) what h
    rw [List.flatMap_cons, List.map_cons, List.flatMap_cons, ← Site.map_node_child?]
    exact hhere.append_script (ih hspecs.2 hhere.sees)

/-! ### Declarations made at once -/

theorem sees_foldl_declare {α : Type} (names : α → List String) (what : α → ObjectKind)
    (l : List α) (h : r.arena.Sees i c) :
    (l.foldl (fun r x => r.declare i (names x) (what x)) r).arena.Sees i
      (l.foldl (fun c x => c.declareAll (names x) (what x)) c) := by
  induction l generalizing r c with
  | nil => exact h
  | cons x rest ih => exact ih (h.declareAll (names x) (what x))

theorem keepsBut_foldl_declare {α : Type} (names : α → List String) (what : α → ObjectKind)
    (l : List α) (r : Resolution) :
    r.arena.KeepsBut (l.foldl (fun r x => r.declare i (names x) (what x)) r).arena i := by
  induction l generalizing r with
  | nil => exact .refl _ _
  | cons x rest ih =>
    have hfirst := Arena.KeepsBut.declareAll r.arena i (names x) (what x)
    exact hfirst.trans (ih (r.declare i (names x) (what x)))

/-- Declaring in the reverse order makes no difference for names of one kind. -/
theorem sees_foldl_reverse_declare {α : Type} (names : α → List String) (what : ObjectKind)
    (l : List α) (h : r.arena.Sees i c) :
    (l.reverse.foldl (fun r x => r.declare i (names x) what) r).arena.Sees i
      (l.foldl (fun c x => c.declareAll (names x) what) c) := by
  have hrev := sees_foldl_declare names (fun _ => what) l.reverse h
  rw [ScopeChain.foldl_declareAll, ScopeChain.declareAll_eq] at hrev
  rw [ScopeChain.foldl_declareAll, ScopeChain.declareAll_eq]
  refine hrev.congr_inner fun x => ?_
  simp [Scope.get?_declareAll]

/-! ### Visits that open a scope -/

theorem performAll_visit (src : Source) (r : Resolution) (n : Node) (i : Nat) :
    performAll src r [.visit n i] =
      performAll src (Task.visitNode src n i r).2 (Task.visitNode src n i r).1 := by
  rw [performAll_cons, List.append_nil]
  rfl

theorem lookupsMade_visit (src : Source) (r : Resolution) {n : Node} (i : Nat)
    (h : Visit.of n ≠ .call) :
    lookupsMade src r [.visit n i] =
      lookupsMade src (Task.visitNode src n i r).2 (Task.visitNode src n i r).1 := by
  rw [lookupsMade_cons, List.append_nil, Task.lookup?, Node.lookup?_eq_none h]
  rfl

/-- If the tasks of a visit leave all scopes alone that existed before it, then it is enough to
compare lookups with those of the enclosed moves. -/
theorem simulated_enclosed {s : Site} {body : List Move} (hb : Move.Balanced body)
    (hscript : s.script src = enclosed body) (hcall : Visit.of s.node ≠ .call)
    (h : r.arena.Sees i c) {tasks : List Task} {r' : Resolution}
    (hvisit : Task.visitNode src s.node i r = (tasks, r'))
    (hkeeps : r.arena.KeepsBelow (performAll src r' tasks).arena r.arena.frames.size)
    (hlookups : lookupsMade src r' tasks = (runScript src c.push body).2.map Prod.snd) :
    Simulated src i r [.visit s.node i] (walk src c s) := by
  rw [walk_eq, hscript, runScript_enclosed src c hb]
  refine ⟨?_, ?_, ?_⟩
  · rw [performAll_visit, hvisit]
    exact hkeeps.sees h h.lt_size
  · rw [performAll_visit, hvisit]
    exact hkeeps.keepsBut i
  · rw [lookupsMade_visit src r i hcall, hvisit]
    exact hlookups

theorem visitNode_scoped {n : Node} (hv : Visit.of n = .scoped) :
    Task.visitNode src n i r =
      (Task.visits n.namedChildren (r.openScope i).1, (r.openScope i).2) := by
  simp [Task.visitNode, hv]

theorem simulated_scoped {s : Site} (hv : Visit.of s.node = .scoped)
    (hparts : ∀ t ∈ s.namedChildren, SimulatesVisit src t) (h : r.arena.Sees i c) :
    Simulated src i r [.visit s.node i] (walk src c s) := by
  have hscript : s.script src = enclosed (visits s.namedChildren) := by simp [Site.script, hv]
  have hinner := simulated_visits hparts (r := (r.openScope i).2) h.openScope
  rw [Site.map_node_namedChildren] at hinner
  refine simulated_enclosed (Move.balanced_visits _) hscript (by simp [hv]) h
    (visitNode_scoped hv) ?_ hinner.lookups
  exact (Arena.KeepsBelow.openScope r.arena i).trans
    (.of_keepsBut hinner.keeps (Arena.KeepsBelow.openScope r.arena i).size_le)

theorem bodyTasks_eq (s : Site) (k : Nat) :
    ((s.node.child? .body).map fun body => Task.visits body.namedChildren k).getD [] =
      Task.visits (s.bodyChildren.map Site.node) k := by
  rw [← Site.map_node_child?, Site.bodyChildren]
  cases s.child? .body with
  | none => rfl
  | some body => simp

theorem visitNode_function {s : Site} (hv : Visit.of s.node = .function) :
    Task.visitNode src s.node i r = (Task.visits (s.bodyChildren.map Site.node) (r.openScope i).1,
      (headNames src s.node).foldl (fun r' x => r'.declare (r.openScope i).1 x.1 x.2)
        (r.openScope i).2) := by
  simp only [Task.visitNode, hv, bodyTasks_eq]

theorem simulated_function {s : Site} (hv : Visit.of s.node = .function)
    (hparts : ∀ t ∈ s.bodyChildren, SimulatesVisit src t) (h : r.arena.Sees i c) :
    Simulated src i r [.visit s.node i] (walk src c s) := by
  have hscript : s.script src = enclosed ((headNames src s.node).map
      (fun x => .declare x.1 x.2) ++ visits s.bodyChildren) := by
    simp [Site.script, hv]
  have hhead := sees_foldl_declare Prod.fst Prod.snd (headNames src s.node)
    (r := (r.openScope i).2) h.openScope
  have hkept := keepsBut_foldl_declare (i := (r.openScope i).1) Prod.fst Prod.snd
    (headNames src s.node) (r.openScope i).2
  have hbody := simulated_visits hparts hhead
  have hopen := Arena.KeepsBelow.openScope r.arena i
  refine simulated_enclosed ((Move.balanced_declarations Prod.fst Prod.snd _).append
    (Move.balanced_visits _)) hscript (by simp [hv]) h (visitNode_function hv) ?_ ?_
  · exact hopen.trans (.of_keepsBut (hkept.trans hbody.keeps) hopen.size_le)
  · rw [runScript_append, runScript_declarations src Prod.fst Prod.snd]
    exact hbody.lookups

/-! ### Type switches

The scopes of all clauses are opened before the initializer and the value are walked, the last
clause's first: with `m` clauses to come and the first of these scopes at index `base`, the current
clause has index `base + m`. -/

/-- The scope of a clause before its children are walked. -/
def clauseFrame (aliases : List String) (outer : Nat) : Frame :=
  ⟨Scope.empty.declareAll aliases .variable, some outer⟩

/-- The tasks of the clauses of a type switch, whose scopes start at index `base`. -/
def clauseTasks (base : Nat) : List Node → List Task
  | [] => []
  | n :: rest => Task.visits n.namedChildren (base + rest.length) ++ clauseTasks base rest

/-- What opening the scopes of the clauses does. -/
structure ClausesOpened (aliases : List String) (outer : Nat) (a b : Arena) (m : Nat) : Prop where
  size : b.frames.size = a.frames.size + m
  old : ∀ j < a.frames.size, b.frames[j]? = a.frames[j]?
  new : ∀ j < m, b.frames[a.frames.size + j]? = some (clauseFrame aliases outer)

theorem ClausesOpened.keepsBelow {aliases : List String} {outer m : Nat} {a b : Arena}
    (h : ClausesOpened aliases outer a b m) : a.KeepsBelow b a.frames.size :=
  ⟨by rw [h.size]; omega, h.old⟩

theorem ClausesOpened.succ {aliases : List String} {outer m : Nat} {a b : Arena}
    (h : ClausesOpened aliases outer a b m) :
    ClausesOpened aliases outer a
      ((b.openScope outer).2.declareAll (b.openScope outer).1 aliases .variable) (m + 1) where
  size := by
    simp [Arena.declareAll, Arena.openScope, h.size]
    omega
  old j hj := by
    have hlt : j < b.frames.size := by rw [h.size]; omega
    rw [Arena.frame_declareAll_of_ne _ (by simp only [Arena.openScope]; omega),
      Arena.frame_openScope hlt, h.old j hj]
  new j hj := by
    rcases Nat.lt_succ_iff_lt_or_eq.mp hj with hlt | rfl
    · have hsize : a.frames.size + j < b.frames.size := by rw [h.size]; omega
      rw [Arena.frame_declareAll_of_ne _ (by simp only [Arena.openScope]; omega),
        Arena.frame_openScope hsize, h.new j hlt]
    · rw [← h.size]
      exact Arena.frame_declareAll (f := ⟨.empty, some outer⟩) (by simp [Arena.openScope]) _ _

theorem clauses_eq (aliases : List String) (outer : Nat) (r : Resolution) (ns : List Node) :
    (Task.clauses aliases outer r ns).1 = clauseTasks r.arena.frames.size ns ∧
      ClausesOpened aliases outer r.arena (Task.clauses aliases outer r ns).2.arena ns.length := by
  induction ns with
  | nil => exact ⟨rfl, rfl, fun _ _ => rfl, fun _ hj => absurd hj (Nat.not_lt_zero _)⟩
  | cons n rest ih =>
    obtain ⟨htasks, hopened⟩ := ih
    refine ⟨?_, hopened.succ⟩
    simp only [Task.clauses, Task.clause, clauseTasks, htasks, ← hopened.size]
    rfl

theorem simulated_clauses {aliases : List String} {outer base : Nat} {clauses : List Site}
    (hclauses : ∀ clause ∈ clauses, ∀ s ∈ clause.namedChildren, SimulatesVisit src s)
    (h : r.arena.Sees outer c) (hlt : outer < base)
    (hframes : ∀ j < clauses.length, r.arena.frames[base + j]? = some (clauseFrame aliases outer)) :
    r.arena.KeepsBelow (performAll src r (clauseTasks base (clauses.map Site.node))).arena base ∧
      lookupsMade src r (clauseTasks base (clauses.map Site.node)) =
        (runScript src c (clauses.flatMap fun clause =>
          enclosed (.declare aliases .variable :: visits clause.namedChildren))).2.map
            Prod.snd := by
  induction clauses generalizing r with
  | nil =>
    rw [List.flatMap_nil, runScript, List.map_nil, clauseTasks, performAll_nil, lookupsMade_nil]
    exact ⟨⟨Nat.le_refl _, fun _ _ => rfl⟩, rfl⟩
  | cons clause rest ih =>
    rw [List.forall_mem_cons] at hclauses
    have hframe := hframes rest.length (by simp)
    have hsize : base + rest.length < r.arena.frames.size :=
      (Array.getElem?_eq_some_iff.mp hframe).1
    have hsees : r.arena.Sees (base + rest.length) (c.push.declareAll aliases .variable) := by
      rw [ScopeChain.declareAll_eq]
      exact .inside hframe rfl (by omega) (fun _ => rfl) h
    have hhere := simulated_visits hclauses.1 hsees
    obtain ⟨hkeeps, hlookups⟩ := ih hclauses.2 (hhere.keeps.sees h (by omega)) fun j hj => by
      rw [hhere.keeps.frame _ (by omega) (by omega)]
      exact hframes j (by simp only [List.length_cons]; omega)
    rw [List.map_cons, clauseTasks, List.length_map, ← Site.map_node_namedChildren,
      performAll_append, lookupsMade_append, hhere.lookups, hlookups]
    refine ⟨?_, ?_⟩
    · have hfirst := Arena.KeepsBelow.of_keepsBut hhere.keeps (Nat.le_of_lt hsize)
      exact (hfirst.mono (by omega)).trans hkeeps
    · rw [List.flatMap_cons, runScript_append,
        runScript_enclosed src c (.declare _ _ (Move.balanced_visits _)), runScript,
        List.map_append]

theorem visitNode_typeSwitch {s : Site} (hv : Visit.of s.node = .typeSwitch) :
    Task.visitNode src s.node i r =
      (Task.visit? ((s.child? .initializer).map Site.node) (r.openScope i).1 ++
        Task.visit? ((s.child? .value).map Site.node) (r.openScope i).1 ++
        clauseTasks (r.arena.frames.size + 1) (s.clauses.map Site.node),
      (Task.clauses (boundNames src (s.node.child? .alias)) (r.openScope i).1 (r.openScope i).2
        (s.clauses.map Site.node)).2) := by
  have hclauses : s.clauses.map Site.node = s.node.namedChildren.filter Task.isClause := by
    rw [Site.clauses, Site.map_node_filter Task.isClause, Site.map_node_namedChildren]
  have htasks := (clauses_eq (boundNames src (s.node.child? .alias)) (r.openScope i).1
    (r.openScope i).2 (s.clauses.map Site.node)).1
  have hsize : (r.openScope i).2.arena.frames.size = r.arena.frames.size + 1 := by
    simp [Resolution.openScope, Arena.openScope]
  rw [hsize] at htasks
  simp only [Task.visitNode, hv, ← hclauses, htasks, Site.map_node_child?]

theorem simulated_typeSwitch {s : Site} (hv : Visit.of s.node = .typeSwitch)
    (hparts : ∀ t ∈ s.parts, SimulatesVisit src t) (h : r.arena.Sees i c) :
    Simulated src i r [.visit s.node i] (walk src c s) := by
  have hscript : s.script src = enclosed (visits (s.child? .initializer).toList ++
      visits (s.child? .value).toList ++ s.clauses.flatMap fun clause =>
        enclosed (.declare (boundNames src (s.node.child? .alias)) .variable ::
          visits clause.namedChildren)) := by
    simp [Site.script, hv]
  simp only [Site.parts, hv, List.forall_mem_append, List.forall_mem_flatMap] at hparts
  obtain ⟨⟨hinitializer, hvalue⟩, hclauses⟩ := hparts
  have hopened := (clauses_eq (boundNames src (s.node.child? .alias)) (r.openScope i).1
    (r.openScope i).2 (s.clauses.map Site.node)).2
  set r₁ := (r.openScope i).2 with hr₁
  set k := (r.openScope i).1 with hk
  set r₂ := (Task.clauses (boundNames src (s.node.child? .alias)) k r₁ (s.clauses.map Site.node)).2
  have hsize : r₁.arena.frames.size = r.arena.frames.size + 1 := by
    simp [hr₁, Resolution.openScope, Arena.openScope]
  have hksize : k = r.arena.frames.size := rfl
  have hsees : r₂.arena.Sees k c.push := hopened.keepsBelow.sees h.openScope (by omega)
  have hfirst := simulated_visit? hinitializer hsees
  have hboth := hfirst.append_script (simulated_visit? hvalue hfirst.sees)
  have hprepared : ∀ j < s.clauses.length,
      (performAll src r₂ (Task.visit? ((s.child? .initializer).map Site.node) k ++
        Task.visit? ((s.child? .value).map Site.node) k)).arena.frames[r.arena.frames.size + 1 + j]? =
        some (clauseFrame (boundNames src (s.node.child? .alias)) k) := by
    intro j hj
    rw [hboth.keeps.frame _ (by rw [hopened.size, List.length_map]; omega) (by omega), ← hsize]
    exact hopened.new j (by rwa [List.length_map])
  have hlast := simulated_clauses hclauses hboth.sees (by omega) hprepared
  refine simulated_enclosed ?_ hscript (by simp [hv]) h (visitNode_typeSwitch hv) ?_ ?_
  · exact ((Move.balanced_visits _).append (Move.balanced_visits _)).append
      (Move.balanced_clauses _ _)
  · have hopen : r.arena.KeepsBelow r₁.arena r.arena.frames.size := .openScope r.arena i
    have hopens : r₁.arena.KeepsBelow r₂.arena r.arena.frames.size :=
      hopened.keepsBelow.mono (by omega)
    have hwalked := Arena.KeepsBelow.of_keepsBut hboth.keeps (by rw [hopened.size]; omega)
    rw [performAll_append]
    exact ((hopen.trans hopens).trans hwalked).trans (hlast.1.mono (by omega))
  · rw [lookupsMade_append, hboth.lookups, hlast.2, ← List.map_append,
      runScript_append src c.push (visits _ ++ visits _)]

/-! ### Visits in the scope in force -/

theorem simulated_of_tasks {s : Site} (hcall : Visit.of s.node ≠ .call) {tasks : List Task}
    {r' : Resolution} (hvisit : Task.visitNode src s.node i r = (tasks, r'))
    (hkeeps : r.arena.KeepsBut r'.arena i)
    (h : Simulated src i r' tasks (runScript src c (s.script src))) :
    Simulated src i r [.visit s.node i] (walk src c s) := by
  rw [walk_eq]
  refine ⟨?_, ?_, ?_⟩
  · rw [performAll_visit, hvisit]
    exact h.sees
  · rw [performAll_visit, hvisit]
    exact hkeeps.trans h.keeps
  · rw [lookupsMade_visit src r i hcall, hvisit]
    exact h.lookups

theorem simulated_plain {s : Site} (hv : Visit.of s.node = .plain)
    (hparts : ∀ t ∈ s.namedChildren, SimulatesVisit src t) (h : r.arena.Sees i c) :
    Simulated src i r [.visit s.node i] (walk src c s) := by
  have hvisit : Task.visitNode src s.node i r =
      (Task.visits (s.namedChildren.map Site.node) i, r) := by
    simp [Task.visitNode, hv]
  have hscript : s.script src = visits s.namedChildren := by simp [Site.script, hv]
  refine simulated_of_tasks (by simp [hv]) hvisit (.refl _ _) ?_
  rw [hscript]
  exact simulated_visits hparts h

theorem simulated_binding {s : Site} (hv : Visit.of s.node = .binding)
    (hparts : ∀ t ∈ (s.child? .right).toList, SimulatesVisit src t) (h : r.arena.Sees i c) :
    Simulated src i r [.visit s.node i] (walk src c s) := by
  have hvisit : Task.visitNode src s.node i r =
      (Task.visit? ((s.child? .right).map Site.node) i ++
        [.declare i (boundNames src (s.node.child? .left)) .variable], r) := by
    simp [Task.visitNode, hv]
  have hscript : s.script src = visits (s.child? .right).toList ++
      [.declare (boundNames src (s.node.child? .left)) .variable] := by
    simp [Site.script, hv]
  refine simulated_of_tasks (by simp [hv]) hvisit (.refl _ _) ?_
  rw [hscript]
  exact simulated_then_declare hparts _ _ h

theorem simulated_typeDeclaration {s : Site} (hv : Visit.of s.node = .declaration .type)
    (h : r.arena.Sees i c) : Simulated src i r [.visit s.node i] (walk src c s) := by
  have hvisit : Task.visitNode src s.node i r =
      ([], (s.specs .type).reverse.foldl
        (fun r spec => r.declare i (spec.node.declaredNames src) .type) r) := by
    simp only [Task.visitNode, hv, ← Site.map_node_specs, ← List.map_reverse, List.foldl_map]
  refine simulated_of_tasks (by simp [hv]) hvisit (keepsBut_foldl_declare _ _ _ r) ?_
  rw [Site.script_of_types src hv, runScript_declarations src _ fun _ => .type]
  exact .nil (sees_foldl_reverse_declare _ _ _ h)

theorem simulated_valueDeclaration {s : Site} {what : ObjectKind}
    (hv : Visit.of s.node = .declaration what) (hwhat : what ≠ .type)
    (hparts : ∀ spec ∈ s.specs what, ∀ t ∈ (spec.child? .value).toList, SimulatesVisit src t)
    (h : r.arena.Sees i c) : Simulated src i r [.visit s.node i] (walk src c s) := by
  have hvisit : Task.visitNode src s.node i r =
      (((s.specs what).map Site.node).flatMap fun spec =>
        Task.visit? (spec.child? .value) i ++ [.declare i (spec.declaredNames src) what], r) := by
    rw [Site.map_node_specs]
    cases what <;> first | contradiction | simp only [Task.visitNode, hv]
  refine simulated_of_tasks (by simp [hv]) hvisit (.refl _ _) ?_
  rw [Site.script_of_values src hv hwhat]
  exact simulated_specs what hparts h

theorem Resolution.arena_noteCallee (src : Source) (r : Resolution) (call : Node) (scope : Nat) :
    (r.noteCallee src call scope).arena = r.arena := by
  unfold Resolution.noteCallee
  split
  · rfl
  · split_ifs <;> rfl

theorem simulated_call {s : Site} (hv : Visit.of s.node = .call)
    (hparts : ∀ t ∈ s.namedChildren, SimulatesVisit src t) (h : r.arena.Sees i c) :
    Simulated src i r [.visit s.node i] (walk src c s) := by
  have hvisit : Task.visitNode src s.node i r =
      (Task.visits (s.namedChildren.map Site.node) i, r.noteCallee src s.node i) := by
    simp [Task.visitNode, hv]
  have hscript : s.script src = .lookup s :: visits s.namedChildren := by simp [Site.script, hv]
  have harena := r.arena_noteCallee src s.node i
  have hbelow := simulated_visits hparts (r := r.noteCallee src s.node i) (by rwa [harena])
  -- Both runs ask about the callee before anything below the call is visited.
  have hask : (fun name => r.arena.lookup name i) = c.lookup := funext h.lookup_eq
  rw [walk_eq, hscript, runScript]
  refine ⟨?_, ?_, ?_⟩
  · rw [performAll_visit, hvisit]
    exact hbelow.sees
  · rw [performAll_visit, hvisit, ← harena]
    exact hbelow.keeps
  · rw [lookupsMade_cons, List.append_nil, Task.lookup?, hask, Task.perform, hvisit,
      hbelow.lookups]
    cases s.node.lookup? src c.lookup <;> simp

/-- Performing the visit of a node is one step of the lexical walk. -/
theorem simulated_visit (src : Source) (s : Site) : SimulatesVisit src s := by
  induction s using Site.parts_induction with
  | h s ih =>
    intro i r c h
    have hparts := ih
    unfold Site.parts at hparts
    split at hparts
    · next hv => exact simulated_plain hv hparts h
    · next hv => exact simulated_call hv hparts h
    · next hv => exact simulated_scoped hv hparts h
    · next hv => exact simulated_function hv hparts h
    · next hv => exact simulated_binding hv hparts h
    · next hv => exact simulated_typeDeclaration hv h
    · next what hwhat hv =>
      rw [List.forall_mem_flatMap] at hparts
      exact simulated_valueDeclaration hv hwhat hparts h
    · next hv => exact simulated_typeSwitch hv ih h

end Cases

/-! ## The whole file -/

/-- What is known of a file before the first task: its names. -/
def Resolution.initial (src : Source) (root : Node) : Resolution :=
  ⟨.ofScope (fileScope src root), []⟩

/-- The first tasks: to visit what is at file level. -/
def Task.initial (root : Node) : List Task := Task.visits root.namedChildren 0

theorem resolve_eq (src : Source) (root : Node) :
    resolve src root = (performAll src (.initial src root) (Task.initial root)).callees := rfl

theorem Arena.sees_ofScope (s : Scope) : (Arena.ofScope s).Sees 0 ⟨s, []⟩ :=
  .outermost (f := ⟨s, none⟩) rfl rfl fun _ => rfl

/-- The run over a file is the lexical walk over its top level, the names of the file in scope. -/
theorem simulated_file (src : Source) (root : Node) :
    Simulated src 0 (.initial src root) (Task.initial root)
      (runScript src ⟨fileScope src root, []⟩ (Move.visits (Site.root root).namedChildren)) := by
  have hall : ∀ s ∈ (Site.root root).namedChildren, SimulatesVisit src s :=
    fun s _ => simulated_visit src s
  have htop := simulated_visits hall (r := .initial src root)
    (Arena.sees_ofScope (fileScope src root))
  rwa [Site.map_node_namedChildren] at htop

/-- A callee is noted exactly if the lexical walk finds a function at its offset. -/
theorem mem_resolve {src : Source} {root : Node} {offset : Nat} :
    offset ∈ resolve src root ↔
      ∃ l ∈ fileLookups src root, l.2.answer = some .function ∧ l.2.offset = offset := by
  rw [resolve_eq, callees_performAll, (simulated_file src root).lookups, mem_foldl_note]
  simp only [Resolution.initial, List.not_mem_nil, false_or, fileLookups, List.mem_map]
  exact ⟨fun ⟨_, ⟨l, hl, rfl⟩, hfound⟩ => ⟨l, hl, hfound⟩,
    fun ⟨l, hl, hfound⟩ => ⟨_, ⟨l, hl, rfl⟩, hfound⟩⟩

/-- For every file the work list runs dry; it makes the lookups of the lexical walk, in the same
order and with the same answers; and the callees it notes, each once, are those that the lexical
walk finds to be functions. -/
theorem resolve_eq_lexical_walk (src : Source) (root : Node) :
    (∃ r, (Task.step src)^[Task.charges (Task.initial root)]
        (.initial src root, Task.initial root) = (r, []) ∧ r.callees = resolve src root) ∧
      lookupsMade src (.initial src root) (Task.initial root) =
        (fileLookups src root).map Prod.snd ∧
      (resolve src root).Nodup ∧
      ∀ offset, offset ∈ resolve src root ↔
        ∃ l ∈ fileLookups src root, l.2.answer = some .function ∧ l.2.offset = offset := by
  refine ⟨⟨_, iterate_step src _ _ (Nat.le_refl _), rfl⟩, (simulated_file src root).lookups, ?_,
    fun offset => mem_resolve⟩
  rw [resolve_eq, callees_performAll]
  exact nodup_foldl_note List.nodup_nil _

end GoMeter
