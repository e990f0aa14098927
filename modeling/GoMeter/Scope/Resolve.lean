import GoMeter.Scope.Arena
import GoMeter.Scope.File

/-!
# Which calls name a function of the file

A call `f(x)` is a call of a function of this file only if `f` is declared as one in the innermost
scope that declares it. The file is walked with a list of tasks: to visit a node in a scope, or to
declare names in a scope once everything before that task is done.

* `Visit.of`: how a node of each kind is visited.
* `Task.perform`: one task; what it declares and which tasks it puts before the pending ones.
* `resolve`: the callees that name a function of the file.
-/

namespace GoMeter

/-- How a node is visited. -/
inductive Visit where
  /-- A function: its parameters are declared in a new scope, in which its body is walked. -/
  | function
  /-- A call: its callee is looked up, then its parts are walked. -/
  | call
  /-- A binding: the right side is walked, then the left side is declared. -/
  | binding
  /-- A declaration: each value is walked, then its names are declared; types are declared at once. -/
  | declaration (what : ObjectKind)
  /-- A type switch: each clause has a scope of its own that holds the alias. -/
  | typeSwitch
  /-- Any other statement with a scope of its own. -/
  | scoped
  /-- Anything else: the children are walked. -/
  | plain
  deriving DecidableEq, Repr

/-- How a node is visited. A range clause or a receive statement binds only if it has `:=`. -/
def Visit.of (n : Node) : Visit :=
  match n.kind with
  | .functionDeclaration | .methodDeclaration | .funcLiteral => .function
  | .callExpression => .call
  | .shortVarDeclaration => .binding
  | .rangeClause | .receiveStatement =>
    if n.children.any (·.kind = .define) then .binding else .plain
  | .varDeclaration => .declaration .variable
  | .constDeclaration => .declaration .constant
  | .typeDeclaration => .declaration .type
  | .typeSwitchStatement => .typeSwitch
  | .block | .ifStatement | .forStatement | .expressionSwitchStatement | .selectStatement
  | .expressionCase | .defaultCase | .communicationCase => .scoped
  | _ => .plain

/-- The identifiers that a left side or an alias declares. -/
def boundIdentifiers : Option Node → List Node
  | none => []
  | some n =>
    if n.kind = .identifier then [n] else n.namedChildren.filter fun c => c.kind = .identifier

/-- The names of the identifiers that a left side or an alias declares. -/
def boundNames (src : Source) (n : Option Node) : List String :=
  (boundIdentifiers n).map (·.text src)

/-- The names that a list of parameters declares, with what they stand for. Anything but a parameter
list declares nothing. -/
def parameterNames (src : Source) : Option Node → List (List String × ObjectKind)
  | none => []
  | some params =>
    match params.kind with
    | .parameterList => params.namedChildren.map fun p => (p.declaredNames src, .variable)
    | .typeParameterList => params.namedChildren.map fun p => (p.declaredNames src, .type)
    | _ => []

/-- The fields of a function that declare names, in the order in which they are declared. -/
def parameterFields : List Field := [.receiver, .typeParameters, .parameters, .result]

/-- All names that the head of a function declares. -/
def headNames (src : Source) (fn : Node) : List (List String × ObjectKind) :=
  parameterFields.flatMap fun f => parameterNames src (fn.child? f)

/-- What is left to do. -/
inductive Task where
  /-- Visit a node in a scope. -/
  | visit (n : Node) (scope : Nat)
  /-- Declare names in a scope. -/
  | declare (scope : Nat) (names : List String) (what : ObjectKind)

/-- What is known so far: the scopes, and the offsets of the callees that name a function. -/
structure Resolution where
  arena : Arena
  callees : List Nat

namespace Resolution

/-- Notes the callee of a call if it is a name that stands for a function. -/
def noteCallee (src : Source) (r : Resolution) (call : Node) (scope : Nat) : Resolution :=
  match call.child? .callee with
  | none => r
  | some callee =>
    if callee.kind = .identifier ∧ r.arena.lookup (callee.text src) scope = some .function then
      { r with callees := r.callees.insert callee.start }
    else r

/-- Declares names in a scope. -/
def declare (r : Resolution) (scope : Nat) (names : List String) (what : ObjectKind) : Resolution :=
  { r with arena := r.arena.declareAll scope names what }

/-- Opens a scope inside another. -/
def openScope (r : Resolution) (outer : Nat) : Nat × Resolution :=
  ((r.arena.openScope outer).1, { r with arena := (r.arena.openScope outer).2 })

end Resolution

namespace Task

/-- Tasks to visit some nodes in one scope. -/
def visits (ns : List Node) (scope : Nat) : List Task := ns.map fun n => .visit n scope

/-- A task to visit a node, if there is one. -/
def visit? (n : Option Node) (scope : Nat) : List Task := visits n.toList scope

/-- The tasks of one clause of a type switch, whose scope already holds the alias. -/
def clause (aliases : List String) (outer : Nat) (n : Node) (r : Resolution) : List Task × Resolution :=
  let (scope, r) := r.openScope outer
  (visits n.namedChildren scope, r.declare scope aliases .variable)

/-- The tasks of all clauses of a type switch. The scopes are opened from the last clause on. -/
def clauses (aliases : List String) (outer : Nat) (r : Resolution) : List Node → List Task × Resolution
  | [] => ([], r)
  | n :: rest =>
    let (later, r) := clauses aliases outer r rest
    let (these, r) := clause aliases outer n r
    (these ++ later, r)

/-- Whether a child of a type switch is one of its clauses. -/
def isClause (n : Node) : Bool := n.kind = .typeCase || n.kind = .defaultCase

/-- Visits a node: the tasks that come before the pending ones, and what is known after it. -/
def visitNode (src : Source) (n : Node) (scope : Nat) (r : Resolution) : List Task × Resolution :=
  match Visit.of n with
  | .plain => (visits n.namedChildren scope, r)
  | .scoped =>
    let (inner, r) := r.openScope scope
    (visits n.namedChildren inner, r)
  | .call => (visits n.namedChildren scope, r.noteCallee src n scope)
  | .function =>
    let (inner, r) := r.openScope scope
    let r := (headNames src n).foldl (fun r (names, what) => r.declare inner names what) r
    (((n.child? .body).map fun body => visits body.namedChildren inner).getD [], r)
  | .binding =>
    (visit? (n.child? .right) scope ++
      [.declare scope (boundNames src (n.child? .left)) .variable], r)
  | .declaration .type =>
    ([], (n.specs .type).reverse.foldl
      (fun r spec => r.declare scope (spec.declaredNames src) .type) r)
  | .declaration what =>
    ((n.specs what).flatMap fun spec =>
      visit? (spec.child? .value) scope ++ [.declare scope (spec.declaredNames src) what], r)
  | .typeSwitch =>
    let (inner, r) := r.openScope scope
    let (tasks, r) :=
      clauses (boundNames src (n.child? .alias)) inner r (n.namedChildren.filter isClause)
    (visit? (n.child? .initializer) inner ++ visit? (n.child? .value) inner ++ tasks, r)

/-- Performs a task. -/
def perform (src : Source) (r : Resolution) : Task → List Task × Resolution
  | .visit n scope => visitNode src n scope r
  | .declare scope names what => ([], r.declare scope names what)

end Task

/-! ## The walk ends

A node may be reached twice from its parent (a clause of a type switch that also is its value), so
a node is charged three times what its children are charged. -/

namespace Node

mutual

/-- The charge of a tree: more than three times that of its children together. -/
def charge : Node → Nat
  | .mk _ children => 3 * charges children + 2

/-- The charge of several trees. -/
def charges : List Node → Nat
  | [] => 0
  | n :: rest => n.charge + charges rest

end

@[simp] theorem charges_nil : charges [] = 0 := rfl

@[simp] theorem charges_cons (n : Node) (rest : List Node) :
    charges (n :: rest) = n.charge + charges rest := rfl

@[simp] theorem charges_append (a b : List Node) : charges (a ++ b) = charges a + charges b := by
  induction a with
  | nil => simp
  | cons n rest ih => simp [ih, Nat.add_assoc]

theorem charges_filter_le (p : Node → Bool) (ns : List Node) : charges (ns.filter p) ≤ charges ns := by
  induction ns with
  | nil => simp
  | cons n rest ih => by_cases h : p n <;> simp [h] <;> omega

theorem charge_eq (n : Node) : n.charge = 3 * charges n.children + 2 := by
  cases n; rfl

theorem charges_namedChildren_le (n : Node) : charges n.namedChildren ≤ charges n.children :=
  charges_filter_le _ _

theorem charge_le_of_mem {n : Node} {ns : List Node} (h : n ∈ ns) : n.charge ≤ charges ns := by
  induction ns with
  | nil => cases h
  | cons m rest ih =>
    rcases List.mem_cons.mp h with rfl | h'
    · simp
    · have := ih h'; simp; omega

theorem charges_child?_le (n : Node) (f : Field) :
    charges (n.child? f).toList ≤ charges n.children := by
  cases h : n.child? f with
  | none => simp
  | some c => simpa using charge_le_of_mem (List.mem_of_find?_eq_some h)

mutual

theorem charges_specs_le (what : ObjectKind) (n : Node) :
    charges (n.specs what) ≤ charges n.children := by
  cases n with
  | mk label below => simpa [specs, children] using charges_specsAmong_le what below

theorem charges_specsAmong_le (what : ObjectKind) (ns : List Node) :
    charges (specsAmong what ns) ≤ charges ns := by
  cases ns with
  | nil => simp [specsAmong]
  | cons n rest =>
    have hrest := charges_specsAmong_le what rest
    have hn := charges_specs_le what n
    have hc := charge_eq n
    unfold specsAmong
    split
    · split
      · simp; omega
      · split
        · simp; omega
        · simp; omega
    · simp; omega

end

end Node

namespace Task

/-- The charge of a task. -/
def charge : Task → Nat
  | .visit n _ => n.charge
  | .declare _ _ _ => 1

/-- The charge of several tasks. -/
def charges : List Task → Nat
  | [] => 0
  | t :: ts => t.charge + charges ts

@[simp] theorem charges_nil : charges [] = 0 := rfl

@[simp] theorem charges_cons (t : Task) (ts : List Task) :
    charges (t :: ts) = t.charge + charges ts := rfl

@[simp] theorem charges_append (a b : List Task) : charges (a ++ b) = charges a + charges b := by
  induction a with
  | nil => simp
  | cons t ts ih => simp [ih, Nat.add_assoc]

@[simp] theorem charges_visits (ns : List Node) (scope : Nat) :
    charges (visits ns scope) = Node.charges ns := by
  induction ns with
  | nil => rfl
  | cons n rest ih => simpa [visits, charge] using ih

theorem charges_visit?_le (n : Node) (f : Field) (scope : Nat) :
    charges (visit? (n.child? f) scope) ≤ Node.charges n.children := by
  simpa [visit?] using n.charges_child?_le f

theorem charges_clauses_le (aliases : List String) (outer : Nat) (r : Resolution) (ns : List Node) :
    charges (clauses aliases outer r ns).1 ≤ Node.charges ns := by
  induction ns with
  | nil => simp [clauses]
  | cons n rest ih =>
    have hn := n.charges_namedChildren_le
    have hc := n.charge_eq
    simp [clauses, clause] at ih ⊢
    omega

theorem charges_specTasks_le (src : Source) (scope : Nat) (what : ObjectKind) (specs : List Node) :
    charges (specs.flatMap fun spec =>
      visit? (spec.child? .value) scope ++ [.declare scope (spec.declaredNames src) what])
      ≤ Node.charges specs := by
  induction specs with
  | nil => simp
  | cons spec rest ih =>
    have hv := charges_visit?_le spec .value scope
    have hc := spec.charge_eq
    simp [charge] at ih ⊢
    omega

/-- Visiting a node leaves less to do than the node was charged. -/
theorem charges_visitNode_lt (src : Source) (n : Node) (scope : Nat) (r : Resolution) :
    charges (visitNode src n scope r).1 < n.charge := by
  have hc := n.charge_eq
  have hn := n.charges_namedChildren_le
  unfold visitNode
  split
  · simp; omega
  · simp; omega
  · simp; omega
  · cases hb : n.child? .body with
    | none => simp; omega
    | some body =>
      have hle := n.charges_child?_le .body
      have hbn := body.charges_namedChildren_le
      have hbc := body.charge_eq
      simp [hb] at hle ⊢
      omega
  · have := charges_visit?_le n .right scope
    simp [charge]; omega
  · simp; omega
  · next what _ _ =>
    have := charges_specTasks_le src scope what (n.specs what)
    have := n.charges_specs_le what
    simp only
    omega
  · have hi := charges_visit?_le n .initializer (r.openScope scope).1
    have hv := charges_visit?_le n .value (r.openScope scope).1
    have ht := charges_clauses_le (boundNames src (n.child? .alias)) (r.openScope scope).1
      (r.openScope scope).2 (n.namedChildren.filter isClause)
    have hf := Node.charges_filter_le isClause n.namedChildren
    simp only [charges_append]
    omega

/-- Performing a task leaves less to do than the task was charged. -/
theorem charges_perform_lt (src : Source) (r : Resolution) (t : Task) :
    charges (perform src r t).1 < t.charge := by
  cases t with
  | visit n scope => exact charges_visitNode_lt src n scope r
  | declare scope names what => simp [perform, charge]

end Task

/-- Performs all tasks of a list and those they give rise to. -/
def performAll (src : Source) (r : Resolution) : List Task → Resolution
  | [] => r
  | t :: pending => performAll src (t.perform src r).2 ((t.perform src r).1 ++ pending)
termination_by tasks => Task.charges tasks
decreasing_by
  have := Task.charges_perform_lt src r t
  simp; omega

/-- The offsets of the callees that name a function of the file. -/
def resolve (src : Source) (root : Node) : List Nat :=
  (performAll src ⟨.ofScope (fileScope src root), []⟩ (Task.visits root.namedChildren 0)).callees

end GoMeter
