import GoMeter.Proofs.Scope.Walk
import Mathlib.Data.List.Nodup
import Mathlib.Logic.Function.Iterate

/-!
# Performing tasks

Laws of the work list that hold for any tasks: what is put first is done first, every run ends, and
what a run notes is decided by the lookups it makes.

* `performAll_append`: the tasks of a list are done before what is pending after it.
* `iterate_step`: after as many steps as the tasks are charged nothing is left to do.
* `history`, `lookupsMade`, `nodesVisited`: a run told task by task.
* `callees_performAll`, `mem_foldl_note`: a callee is noted exactly if some lookup finds a function at
  its offset.
-/

namespace GoMeter

@[simp] theorem performAll_nil (src : Source) (r : Resolution) : performAll src r [] = r := by
  rw [performAll]

theorem performAll_cons (src : Source) (r : Resolution) (t : Task) (pending : List Task) :
    performAll src r (t :: pending) =
      performAll src (t.perform src r).2 ((t.perform src r).1 ++ pending) := by
  rw [performAll]

/-- The tasks of a list are done before what is pending after it. -/
theorem performAll_append (src : Source) (r : Resolution) (ts us : List Task) :
    performAll src r (ts ++ us) = performAll src (performAll src r ts) us := by
  fun_induction performAll src r ts with
  | case1 r => rfl
  | case2 r t pending ih => rw [List.cons_append, performAll_cons, ← List.append_assoc, ih]

/-! ## Step by step -/

/-- Takes the first task and performs it. -/
def Task.step (src : Source) : Resolution × List Task → Resolution × List Task
  | (r, []) => (r, [])
  | (r, t :: pending) => ((t.perform src r).2, (t.perform src r).1 ++ pending)

/-- After as many steps as the tasks are charged nothing is left to do. -/
theorem iterate_step (src : Source) (r : Resolution) (ts : List Task) {n : Nat}
    (hn : Task.charges ts ≤ n) : (Task.step src)^[n] (r, ts) = (performAll src r ts, []) := by
  fun_induction performAll src r ts generalizing n with
  | case1 r => exact Function.iterate_fixed rfl n
  | case2 r t pending ih =>
    have hlt := Task.charges_perform_lt src r t
    rw [Task.charges_cons] at hn
    obtain ⟨m, rfl⟩ : ∃ m, n = m + 1 := ⟨n - 1, by omega⟩
    rw [Function.iterate_succ_apply]
    exact ih (by rw [Task.charges_append]; omega)

/-! ## What a run does -/

/-- The tasks in the order in which they are performed, each with what was known before it. -/
def history (src : Source) (r : Resolution) : List Task → List (Resolution × Task)
  | [] => []
  | t :: pending =>
    (r, t) :: history src (t.perform src r).2 ((t.perform src r).1 ++ pending)
termination_by tasks => Task.charges tasks
decreasing_by
  have := Task.charges_perform_lt src r t
  simp; omega

/-- The lookup that a task makes. -/
def Task.lookup? (src : Source) (r : Resolution) : Task → Option Lookup
  | .visit n scope => n.lookup? src fun name => r.arena.lookup name scope
  | .declare _ _ _ => none

/-- The node that a task visits. -/
def Task.node? : Task → Option Node
  | .visit n _ => some n
  | .declare _ _ _ => none

/-- The lookups that a run makes, in order. -/
def lookupsMade (src : Source) (r : Resolution) (ts : List Task) : List Lookup :=
  (history src r ts).filterMap fun (r, t) => t.lookup? src r

/-- The nodes that a run visits, in order. -/
def nodesVisited (src : Source) (r : Resolution) (ts : List Task) : List Node :=
  (history src r ts).filterMap fun (_, t) => t.node?

theorem history_append (src : Source) (r : Resolution) (ts us : List Task) :
    history src r (ts ++ us) = history src r ts ++ history src (performAll src r ts) us := by
  fun_induction performAll src r ts with
  | case1 r => simp [history]
  | case2 r t pending ih =>
    rw [List.cons_append, history, history, ← List.append_assoc, ih]
    rfl

theorem lookupsMade_append (src : Source) (r : Resolution) (ts us : List Task) :
    lookupsMade src r (ts ++ us) =
      lookupsMade src r ts ++ lookupsMade src (performAll src r ts) us := by
  rw [lookupsMade, history_append, List.filterMap_append]
  rfl

@[simp] theorem lookupsMade_nil (src : Source) (r : Resolution) : lookupsMade src r [] = [] := by
  simp [lookupsMade, history]

theorem lookupsMade_cons (src : Source) (r : Resolution) (t : Task) (pending : List Task) :
    lookupsMade src r (t :: pending) = (t.lookup? src r).toList ++
      lookupsMade src (t.perform src r).2 ((t.perform src r).1 ++ pending) := by
  rw [lookupsMade, history, List.filterMap_cons]
  cases h : t.lookup? src r <;> simp [h, lookupsMade]

/-! ## What a run notes -/

theorem Visit.of_eq_call_iff {n : Node} : Visit.of n = .call ↔ n.kind = .callExpression := by
  unfold Visit.of
  split
  all_goals first | split_ifs <;> simp_all | simp_all

theorem Node.lookup?_eq_none {n : Node} (h : Visit.of n ≠ .call) (src : Source)
    (ask : String → Option ObjectKind) : n.lookup? src ask = none := by
  rw [ne_eq, Visit.of_eq_call_iff] at h
  simp [Node.lookup?, Node.calledName?, h]

namespace Resolution

theorem callees_foldl_declare {α : Type} (scope : Nat) (names : α → List String)
    (what : α → ObjectKind) (l : List α) (r : Resolution) :
    (l.foldl (fun r x => r.declare scope (names x) (what x)) r).callees = r.callees := by
  induction l generalizing r with
  | nil => rfl
  | cons x rest ih => exact ih _

end Resolution

theorem Task.callees_clauses (aliases : List String) (outer : Nat) (r : Resolution)
    (ns : List Node) : (clauses aliases outer r ns).2.callees = r.callees := by
  induction ns with
  | nil => rfl
  | cons n rest ih => exact ih

/-- Adds the offset of a lookup that found a function. -/
def Lookup.note (callees : List Nat) (l : Lookup) : List Nat :=
  if l.answer = some .function then callees.insert l.offset else callees

theorem Resolution.callees_noteCallee (src : Source) (r : Resolution) {call : Node} (scope : Nat)
    (h : call.kind = .callExpression) :
    (r.noteCallee src call scope).callees =
      (call.lookup? src fun name => r.arena.lookup name scope).toList.foldl
        Lookup.note r.callees := by
  unfold Resolution.noteCallee Node.lookup? Node.calledName?
  rw [if_pos h]
  cases call.child? .callee with
  | none => rfl
  | some callee =>
    by_cases hid : callee.kind = .identifier
    · by_cases hans : r.arena.lookup (callee.text src) scope = some .function
      · simp [Option.filter, hid, hans, Lookup.note]
      · simp [Option.filter, hid, hans, Lookup.note]
    · simp [Option.filter, hid]

/-- A task notes the callee that it looks up, if any. -/
theorem Task.callees_perform (src : Source) (r : Resolution) (t : Task) :
    (t.perform src r).2.callees = (t.lookup? src r).toList.foldl Lookup.note r.callees := by
  cases t with
  | declare scope names what => rfl
  | visit n scope =>
    rw [perform, Task.lookup?]
    by_cases hcall : Visit.of n = .call
    · simp only [visitNode, hcall]
      exact r.callees_noteCallee src scope (Visit.of_eq_call_iff.mp hcall)
    · rw [Node.lookup?_eq_none hcall]
      unfold visitNode
      split
      · rfl
      · rfl
      · contradiction
      · exact Resolution.callees_foldl_declare _ Prod.fst Prod.snd _ _
      · rfl
      · exact Resolution.callees_foldl_declare _ _ _ _ _
      · rfl
      · exact Task.callees_clauses _ _ _ _

theorem callees_performAll (src : Source) (r : Resolution) (ts : List Task) :
    (performAll src r ts).callees = (lookupsMade src r ts).foldl Lookup.note r.callees := by
  fun_induction performAll src r ts with
  | case1 r => simp
  | case2 r t pending ih => rw [ih, Task.callees_perform, lookupsMade_cons, List.foldl_append]

theorem mem_foldl_note {ls : List Lookup} {callees : List Nat} {offset : Nat} :
    offset ∈ ls.foldl Lookup.note callees ↔
      offset ∈ callees ∨ ∃ l ∈ ls, l.answer = some .function ∧ l.offset = offset := by
  induction ls generalizing callees with
  | nil => simp
  | cons l rest ih =>
    rw [List.foldl_cons, ih, Lookup.note]
    by_cases hans : l.answer = some .function
    · simp only [hans, if_true, List.mem_insert_iff, List.exists_mem_cons_iff, true_and]
      rw [or_comm (a := offset = _), or_assoc, eq_comm (a := offset)]
    · simp [hans]

theorem nodup_foldl_note {callees : List Nat} (h : callees.Nodup) (ls : List Lookup) :
    (ls.foldl Lookup.note callees).Nodup := by
  induction ls generalizing callees with
  | nil => exact h
  | cons l rest ih =>
    rw [List.foldl_cons, Lookup.note]
    split_ifs
    · exact ih h.insert
    · exact ih h

end GoMeter
