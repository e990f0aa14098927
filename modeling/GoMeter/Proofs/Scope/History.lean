import GoMeter.Proofs.Scope.Refinement
import Mathlib.Data.Nat.Find
import Mathlib.Data.List.Infix

/-!
# Nested scopes and their history

A history is a list of steps taken from one empty scope: an inner scope is opened, the innermost one
is left, a name is declared or looked up. What nested scopes say after a history can be read off the
history alone. Its depth tells which scopes are still open: the scope in force before a step is open
at the end if the depth never falls below that of the step again. Open scopes are told apart by their
level, the number of scopes around them.

* `History.Declares`, `History.Decides`: the declarations that are still in scope, and the one among
  them that decides a lookup: the innermost level wins, and on that level the earliest step.
* `History.tells_scope`: every open scope says of a name what the first declaration on its level says.
* `History.pop_of_opens`: leaving a scope gives back the scopes from before it was opened.
* `History.sees_cursor`: scopes shared in an arena are in view along every history.
* `lookup_follows_history`: the rule for lookups, for both ways of keeping scopes.
-/

namespace GoMeter

/-- What can be done with nested scopes. -/
inductive ScopeStep where
  | push | pop
  | declare (name : String) (kind : ObjectKind)
  | lookup (name : String)
  deriving DecidableEq, Repr

namespace ScopeStep

/-- The scopes after a step. -/
def apply (c : ScopeChain) : ScopeStep → ScopeChain
  | .push => c.push
  | .pop => c.pop
  | .declare name kind => c.declare name kind
  | .lookup _ => c

/-- The number of scopes around the innermost one after a step. -/
def depth (n : Nat) : ScopeStep → Nat
  | .push => n + 1
  | .pop => n - 1
  | .declare _ _ => n
  | .lookup _ => n

/-- Only the opening of a scope makes the depth greater. -/
theorem eq_push_of_lt_depth {n : Nat} {s : ScopeStep} (h : n < s.depth n) : s = .push := by
  cases s with
  | push => rfl
  | pop => exact absurd h (Nat.not_lt_of_le (Nat.sub_le n 1))
  | declare name kind => exact absurd h (Nat.lt_irrefl n)
  | lookup name => exact absurd h (Nat.lt_irrefl n)

end ScopeStep

namespace History

/-- The scopes after a history. -/
def chain (h : List ScopeStep) : ScopeChain := h.foldl ScopeStep.apply .start

/-- The number of scopes around the innermost one after a history. -/
def depth (h : List ScopeStep) : Nat := h.foldl ScopeStep.depth 0

/-! ## What a history says -/

/-- Step `i` declares a name in a scope of level `d` that is still open at the end. To declare the
empty name or `_` is to declare nothing. -/
structure Declares (h : List ScopeStep) (d i : Nat) (name : String) (kind : ObjectKind) : Prop where
  step : h[i]? = some (.declare name kind)
  named : Scope.isDeclarable name
  level : depth (h.take i) = d
  stays_open : ∀ j, i ≤ j → d ≤ depth (h.take j)

/-- Step `i` is the first to declare a name in the open scope of level `d`. -/
structure Introduces (h : List ScopeStep) (d i : Nat) (name : String) (kind : ObjectKind) :
    Prop where
  declares : Declares h d i name kind
  earliest : ∀ j kind', Declares h d j name kind' → i ≤ j

/-- Step `i` decides what a name stands for: it introduces the name in the innermost open scope that
has a declaration of it. -/
structure Decides (h : List ScopeStep) (d i : Nat) (name : String) (kind : ObjectKind) :
    Prop where
  introduces : Introduces h d i name kind
  innermost : ∀ e j kind', Declares h e j name kind' → e ≤ d

/-- Step `i` opened the scope that is the innermost one at the end. -/
structure Opens (h : List ScopeStep) (i : Nat) : Prop where
  step : h[i]? = some .push
  stays_open : ∀ j, i < j → depth (h.take i) < depth (h.take j)
  innermost : depth h = depth (h.take i) + 1

/-! ## One more step -/

variable {h : List ScopeStep} {s : ScopeStep} {d e i j : Nat} {name : String}
  {kind kind' : ObjectKind}

@[simp] theorem chain_snoc (h : List ScopeStep) (s : ScopeStep) :
    chain (h ++ [s]) = s.apply (chain h) := by
  simp [chain]

@[simp] theorem depth_snoc (h : List ScopeStep) (s : ScopeStep) :
    depth (h ++ [s]) = s.depth (depth h) := by
  simp [depth]

theorem take_succ_of_getElem? (hs : h[i]? = some s) : h.take (i + 1) = h.take i ++ [s] := by
  rw [List.take_add_one, hs, Option.toList_some]

theorem length_outer_chain (h : List ScopeStep) : (chain h).outer.length = depth h := by
  induction h using List.reverseRecOn with
  | nil => rfl
  | append_singleton h s ih =>
    rw [chain_snoc, depth_snoc, ← ih]
    cases s with
    | push => rfl
    | pop =>
      rw [ScopeStep.apply, ScopeChain.pop, ScopeStep.depth]
      cases houter : (chain h).outer <;> simp [houter]
    | declare name kind => rfl
    | lookup name => rfl

theorem Declares.lt_length (hd : Declares h d i name kind) : i < h.length :=
  (List.getElem?_eq_some_iff.mp hd.step).1

theorem Declares.le_depth (hd : Declares h d i name kind) : d ≤ depth h := by
  simpa using hd.stays_open h.length hd.lt_length.le

/-- A further step keeps the declarations of the scopes that it leaves open, and adds its own. -/
theorem declares_snoc :
    Declares (h ++ [s]) d i name kind ↔
      Declares h d i name kind ∧ d ≤ depth (h ++ [s]) ∨
        s = .declare name kind ∧ Scope.isDeclarable name ∧ d = depth h ∧ i = h.length := by
  have htake (j : Nat) (hj : j ≤ h.length) : (h ++ [s]).take j = h.take j :=
    List.take_append_of_le_length hj
  have hwhole (j : Nat) (hj : h.length < j) : (h ++ [s]).take j = h ++ [s] :=
    List.take_of_length_le (by rw [List.length_append]; exact hj)
  constructor
  · intro hd
    have hlt : i < h.length + 1 := by simpa using hd.lt_length
    rcases Nat.lt_succ_iff_lt_or_eq.mp hlt with hi | rfl
    · refine .inl ⟨⟨?_, hd.named, ?_, fun j hj => ?_⟩, hd.le_depth⟩
      · rw [← hd.step, List.getElem?_append_left hi]
      · rw [← htake i hi.le, hd.level]
      · rcases Nat.le_total j h.length with hle | hle
        · rw [← htake j hle]
          exact hd.stays_open j hj
        · rw [List.take_of_length_le hle, ← h.take_length, ← htake _ le_rfl]
          exact hd.stays_open _ hi.le
    · have hstep := hd.step
      have hlevel := hd.level
      rw [List.getElem?_concat_length, Option.some.injEq] at hstep
      rw [htake _ le_rfl, List.take_length] at hlevel
      exact .inr ⟨hstep, hd.named, hlevel.symm, rfl⟩
  · rintro (⟨hd, hle⟩ | ⟨rfl, hnamed, rfl, rfl⟩)
    · refine ⟨?_, hd.named, ?_, fun j hj => ?_⟩
      · rw [← hd.step, List.getElem?_append_left hd.lt_length]
      · rw [htake i hd.lt_length.le, hd.level]
      · rcases Nat.lt_or_ge h.length j with hlt | hge
        · rwa [hwhole j hlt]
        · rw [htake j hge]
          exact hd.stays_open j hj
    · refine ⟨List.getElem?_concat_length, hnamed, by rw [htake _ le_rfl, List.take_length],
        fun j hj => ?_⟩
      rcases Nat.lt_or_eq_of_le hj with hlt | rfl
      · rw [hwhole j hlt, depth_snoc]
        exact le_rfl
      · rw [htake _ le_rfl, List.take_length]

/-! ## What an open scope says -/

/-- An answer about a name that agrees with the declarations made in the open scope of level `d`. -/
def Tells (h : List ScopeStep) (d : Nat) (name : String) : Option ObjectKind → Prop
  | some kind => ∃ i, Introduces h d i name kind
  | none => ∀ i kind, ¬ Declares h d i name kind

/-- An answer stays right under a step that leaves the scope open and declares nothing new there. -/
theorem Tells.snoc {o : Option ObjectKind} (ht : Tells h d name o) (hopen : d ≤ depth (h ++ [s]))
    (hother : ∀ kind, s = .declare name kind → Scope.isDeclarable name → d ≠ depth h) :
    Tells (h ++ [s]) d name o := by
  have hsame : ∀ i kind, Declares (h ++ [s]) d i name kind ↔ Declares h d i name kind := by
    intro i kind
    rw [declares_snoc, and_iff_left hopen, or_iff_left]
    rintro ⟨hs, hnamed, hd, -⟩
    exact hother kind hs hnamed hd
  cases o with
  | none => exact fun i kind hd => ht i kind ((hsame i kind).mp hd)
  | some kind =>
    obtain ⟨i, hd, hfirst⟩ := ht
    exact ⟨i, (hsame i kind).mpr hd, fun j kind' hj => hfirst j kind' ((hsame j kind').mp hj)⟩

/-- A declaration answers for its name in the innermost scope, unless there was an answer before. -/
theorem Tells.declare {o : Option ObjectKind} (ht : Tells h (depth h) name o) (new : String)
    (kind : ObjectKind) :
    Tells (h ++ [.declare new kind]) (depth h) name
      (o.or (if Scope.isDeclarable new ∧ name = new then some kind else none)) := by
  have hopen : depth h ≤ depth (h ++ [.declare new kind]) := by
    rw [depth_snoc]
    exact le_rfl
  by_cases hnew : Scope.isDeclarable new ∧ name = new
  · obtain ⟨hnamed, rfl⟩ := hnew
    have hlast : Declares (h ++ [.declare name kind]) (depth h) h.length name kind :=
      declares_snoc.mpr (.inr ⟨rfl, hnamed, rfl, rfl⟩)
    rw [if_pos ⟨hnamed, rfl⟩]
    cases o with
    | none =>
      refine ⟨h.length, hlast, fun j kind' hj => ?_⟩
      rcases declares_snoc.mp hj with ⟨hd, -⟩ | ⟨-, -, -, rfl⟩
      · exact absurd hd (ht j kind')
      · exact le_rfl
    | some first =>
      obtain ⟨i, hd, hfirst⟩ := ht
      refine ⟨i, declares_snoc.mpr (.inl ⟨hd, hopen⟩), fun j kind' hj => ?_⟩
      rcases declares_snoc.mp hj with ⟨hd', -⟩ | ⟨-, -, -, rfl⟩
      · exact hfirst j kind' hd'
      · exact hd.lt_length.le
  · rw [if_neg hnew, Option.or_none]
    refine ht.snoc hopen ?_
    rintro kind' hs hnamed -
    cases hs
    exact hnew ⟨hnamed, rfl⟩

/-- Each scope of a chain answers for its level, the number of scopes around it. -/
def AllTell (h : List ScopeStep) (name : String) (c : ScopeChain) : Prop :=
  ∀ scope around, scope :: around <:+ c.inner :: c.outer →
    Tells h around.length name (scope.get? name)

theorem AllTell.push {c : ScopeChain} (hc : AllTell h name c) (hlength : c.outer.length = depth h) :
    AllTell (h ++ [.push]) name c.push := by
  have hdepth : depth (h ++ [.push]) = depth h + 1 := depth_snoc h .push
  intro scope around hsuffix
  rcases List.suffix_cons_iff.mp hsuffix with heq | hsuffix
  · -- The new scope is empty, and no declaration so far was made on its level.
    obtain ⟨rfl, rfl⟩ := List.cons.inj heq
    intro i kind hd
    rcases declares_snoc.mp hd with ⟨hd, -⟩ | ⟨hs, -⟩
    · have := hd.le_depth
      rw [ScopeChain.push, List.length_cons, hlength] at this
      omega
    · cases hs
  · have hle : around.length + 1 ≤ c.outer.length + 1 := hsuffix.length_le
    exact (hc scope around hsuffix).snoc (by omega) (fun _ hs => by cases hs)

theorem AllTell.pop {c : ScopeChain} (hc : AllTell h name c) (hlength : c.outer.length = depth h) :
    AllTell (h ++ [.pop]) name c.pop := by
  have hdepth : depth (h ++ [.pop]) = depth h - 1 := depth_snoc h .pop
  have hsub : c.pop.inner :: c.pop.outer <:+ c.inner :: c.outer ∧
      c.pop.outer.length = depth h - 1 := by
    rw [ScopeChain.pop]
    cases houter : c.outer with
    | nil => simp [houter, ← hlength]
    | cons s rest => simp [← hlength, houter]
  intro scope around hsuffix
  have hle := hsuffix.length_le
  simp only [List.length_cons] at hle
  exact (hc scope around (hsuffix.trans hsub.1)).snoc (by omega) (fun _ hs => by cases hs)

theorem AllTell.declare {c : ScopeChain} (hc : AllTell h name c)
    (hlength : c.outer.length = depth h) (new : String) (kind : ObjectKind) :
    AllTell (h ++ [.declare new kind]) name (c.declare new kind) := by
  have hdepth : depth (h ++ [.declare new kind]) = depth h := depth_snoc h (.declare new kind)
  intro scope around hsuffix
  rcases List.suffix_cons_iff.mp hsuffix with heq | hsuffix
  · obtain ⟨rfl, rfl⟩ := List.cons.inj heq
    have hinner := hc c.inner c.outer List.suffix_rfl
    rw [hlength] at hinner
    simp only [ScopeChain.declare, Scope.get?_declare, hlength]
    exact hinner.declare new kind
  · have hle : around.length + 1 ≤ c.outer.length := hsuffix.length_le
    exact (hc scope around (hsuffix.trans (List.suffix_cons _ _))).snoc (by omega)
      (fun _ _ _ => by omega)

/-- After every history each open scope says of a name what the first declaration on its level
says. -/
theorem tells_scope (h : List ScopeStep) (name : String) : AllTell h name (chain h) := by
  induction h using List.reverseRecOn with
  | nil =>
    intro scope around hsuffix
    obtain ⟨rfl, rfl⟩ : scope = .empty ∧ around = [] := by
      simpa [chain, ScopeChain.start, List.suffix_cons_iff] using hsuffix
    intro i kind hd
    exact absurd hd.lt_length (Nat.not_lt_zero i)
  | append_singleton h s ih =>
    have hlength := length_outer_chain h
    rw [chain_snoc]
    cases s with
    | push => exact ih.push hlength
    | pop => exact ih.pop hlength
    | declare new kind => exact ih.declare hlength new kind
    | lookup asked =>
      intro scope around hsuffix
      have hle := hsuffix.length_le
      have hdepth : depth (h ++ [.lookup asked]) = depth h := depth_snoc h (.lookup asked)
      simp only [ScopeStep.apply, List.length_cons] at hle
      exact (ih scope around hsuffix).snoc (by omega) (fun _ hs => by cases hs)

/-! ## Lookups -/

/-- Every level up to the innermost one has its scope. -/
theorem exists_scope_of_le (hd : d ≤ depth h) :
    ∃ scope around, scope :: around <:+ (chain h).inner :: (chain h).outer ∧ around.length = d := by
  have hlength : ((chain h).inner :: (chain h).outer).length = depth h + 1 := by
    rw [List.length_cons, length_outer_chain]
  have hsuffix := List.drop_suffix (depth h - d) ((chain h).inner :: (chain h).outer)
  have hdrop := List.length_drop (i := depth h - d) (l := (chain h).inner :: (chain h).outer)
  cases hscopes : ((chain h).inner :: (chain h).outer).drop (depth h - d) with
  | nil =>
    rw [hscopes, hlength, List.length_nil] at hdrop
    omega
  | cons scope around =>
    rw [hscopes] at hsuffix
    rw [hscopes, hlength, List.length_cons] at hdrop
    exact ⟨scope, around, hsuffix, by omega⟩

theorem mem_of_suffix_append {l r t : List Scope} {scope : Scope} (hsuffix : scope :: t <:+ l ++ r)
    (hlength : r.length ≤ t.length) : scope ∈ l := by
  have hle : r.length ≤ (scope :: t).length := Nat.le_succ_of_le hlength
  obtain ⟨front, hfront⟩ := List.suffix_of_suffix_length_le (List.suffix_append l r) hsuffix hle
  obtain ⟨before, hbefore⟩ := hsuffix
  cases front with
  | nil =>
    have hlong := congrArg List.length hfront
    rw [List.nil_append, List.length_cons] at hlong
    omega
  | cons first front =>
    obtain ⟨rfl, -⟩ := List.cons.inj hfront
    rw [← hfront, ← List.append_assoc, List.append_cancel_right_eq] at hbefore
    rw [← hbefore]
    exact List.mem_append_right _ List.mem_cons_self

/-- A lookup finds what the deciding declaration says. -/
theorem decides_of_lookup (hfound : (chain h).lookup name = some kind) :
    ∃ d i, Decides h d i name kind := by
  obtain ⟨inside, scope, around, hscopes, hget, hinside⟩ := List.findSome?_eq_some_iff.mp hfound
  have htells := tells_scope h name scope around ⟨inside, hscopes.symm⟩
  rw [hget] at htells
  obtain ⟨i, hintroduces⟩ := htells
  refine ⟨around.length, i, hintroduces, fun e j kind' hd => ?_⟩
  -- A declaration further inside would have been found first.
  by_contra hlt
  obtain ⟨scope', around', hsuffix, rfl⟩ := exists_scope_of_le hd.le_depth
  have htells' := tells_scope h name scope' around' hsuffix
  have hmem : scope' ∈ inside := by
    rw [hscopes] at hsuffix
    exact mem_of_suffix_append hsuffix (Nat.lt_of_not_le hlt)
  rw [hinside scope' hmem] at htells'
  exact htells' j kind' hd

/-- A name that is not found has no declaration in an open scope. -/
theorem not_declares_of_lookup (hnone : (chain h).lookup name = none) :
    ¬ Declares h d i name kind := by
  intro hd
  obtain ⟨scope, around, hsuffix, rfl⟩ := exists_scope_of_le hd.le_depth
  have htells := tells_scope h name scope around hsuffix
  rw [List.findSome?_eq_none_iff.mp hnone scope (hsuffix.mem List.mem_cons_self)] at htells
  exact htells i kind hd

theorem Decides.kind_eq (hd : Decides h d i name kind) (he : Decides h e j name kind') :
    kind = kind' := by
  have hlevel : d = e := Nat.le_antisymm (he.innermost _ _ _ hd.introduces.declares)
    (hd.innermost _ _ _ he.introduces.declares)
  subst hlevel
  have hindex : i = j := Nat.le_antisymm (hd.introduces.earliest _ _ he.introduces.declares)
    (he.introduces.earliest _ _ hd.introduces.declares)
  subst hindex
  have hstep := hd.introduces.declares.step.symm.trans he.introduces.declares.step
  simpa using hstep

theorem lookup_eq_some_iff :
    (chain h).lookup name = some kind ↔ ∃ d i, Decides h d i name kind := by
  constructor
  · exact decides_of_lookup
  · rintro ⟨d, i, hd⟩
    cases hfound : (chain h).lookup name with
    | none => exact absurd hd.introduces.declares (not_declares_of_lookup hfound)
    | some kind' =>
      obtain ⟨e, j, he⟩ := decides_of_lookup hfound
      rw [he.kind_eq hd]

theorem lookup_eq_none_iff :
    (chain h).lookup name = none ↔ ∀ d i kind, ¬ Declares h d i name kind := by
  constructor
  · exact fun hnone d i kind => not_declares_of_lookup hnone
  · intro hno
    cases hfound : (chain h).lookup name with
    | none => rfl
    | some kind =>
      obtain ⟨d, i, hd⟩ := decides_of_lookup hfound
      exact absurd hd.introduces.declares (hno d i kind)

theorem lookup_of_not_declarable (h : List ScopeStep) (hname : Scope.isDeclarable name = false) :
    (chain h).lookup name = none := by
  refine lookup_eq_none_iff.mpr fun d i kind hd => ?_
  simpa [hname] using hd.named

/-! ## Leaving a scope -/

/-- While a scope is open, the scopes around it stay as they were. -/
theorem suffix_outer_apply {c : ScopeChain} {around : List Scope} (hc : around <:+ c.outer)
    (hopen : around.length ≤ (s.apply c).outer.length) : around <:+ (s.apply c).outer := by
  cases s with
  | push => exact hc.trans (List.suffix_cons _ _)
  | declare name kind => exact hc
  | lookup name => exact hc
  | pop =>
    rw [ScopeStep.apply, ScopeChain.pop] at hopen ⊢
    cases houter : c.outer with
    | nil => simpa [houter] using hc
    | cons scope rest =>
      rw [houter] at hc hopen
      rcases List.suffix_cons_iff.mp hc with rfl | hrest
      · exact absurd hopen (Nat.not_succ_le_self _)
      · exact hrest

/-- The scopes from before an open scope was opened are around it at every later step. -/
theorem Opens.suffix_outer (ho : Opens h i) (hij : i < j) (hj : j ≤ h.length) :
    (chain (h.take i)).inner :: (chain (h.take i)).outer <:+ (chain (h.take j)).outer := by
  induction j, hij using Nat.le_induction with
  | base =>
    rw [take_succ_of_getElem? ho.step, chain_snoc]
    exact List.suffix_rfl
  | succ j hij ih =>
    have hstep : h[j]? = some h[j] := List.getElem?_eq_getElem hj
    have hdeeper := ho.stays_open (j + 1) (by omega)
    rw [← length_outer_chain, ← length_outer_chain] at hdeeper
    rw [take_succ_of_getElem? hstep, chain_snoc] at hdeeper ⊢
    exact suffix_outer_apply (ih (by omega)) hdeeper

/-- Leaving a scope gives back the scopes from before it was opened. -/
theorem pop_of_opens (ho : Opens h i) : chain (h ++ [.pop]) = chain (h.take i) := by
  have hlt : i < h.length := (List.getElem?_eq_some_iff.mp ho.step).1
  have hsuffix := ho.suffix_outer hlt le_rfl
  rw [List.take_length] at hsuffix
  have hlength : (chain h).outer.length =
      ((chain (h.take i)).inner :: (chain (h.take i)).outer).length := by
    rw [List.length_cons, length_outer_chain, length_outer_chain, ho.innermost]
  rw [chain_snoc]
  exact ScopeChain.pop_of_outer (hsuffix.eq_of_length hlength.symm).symm

/-- The last step before which fewer scopes were open than at the end. -/
theorem exists_last_lower (hdeep : 0 < depth h) :
    ∃ i < h.length, depth (h.take i) < depth h ∧ ∀ j, i < j → depth h ≤ depth (h.take j) := by
  have hlower := Nat.findGreatest_spec (P := fun i => depth (h.take i) < depth h)
    (Nat.zero_le h.length) hdeep
  refine ⟨_, Nat.lt_of_le_of_ne (Nat.findGreatest_le _) fun heq => ?_, hlower, fun j hj => ?_⟩
  · rw [heq, List.take_length] at hlower
    exact Nat.lt_irrefl _ hlower
  · rcases Nat.le_total j h.length with hle | hle
    · by_contra hlt
      exact Nat.findGreatest_is_greatest hj hle (Nat.lt_of_not_le hlt)
    · rw [List.take_of_length_le hle]

/-- Unless only the outermost scope is open, some step opened the innermost one. -/
theorem exists_opens (hdeep : 0 < depth h) : ∃ i, Opens h i := by
  obtain ⟨i, hlt, hlower, hafter⟩ := exists_last_lower hdeep
  have hnext := hafter (i + 1) (Nat.lt_succ_self i)
  rw [take_succ_of_getElem? (List.getElem?_eq_getElem hlt), depth_snoc] at hnext
  have hpush : h[i] = .push :=
    ScopeStep.eq_push_of_lt_depth (Nat.lt_of_lt_of_le hlower hnext)
  rw [hpush, ScopeStep.depth] at hnext
  exact ⟨i, by rw [List.getElem?_eq_getElem hlt, hpush],
    fun j hj => Nat.lt_of_lt_of_le hlower (hafter j hj), by omega⟩

/-! ## Shared scopes -/

/-- Scopes in an arena, seen from one of them. -/
structure Cursor where
  arena : Arena
  scope : Nat

namespace Cursor

/-- One empty scope. -/
def start : Cursor := ⟨.ofScope .empty, 0⟩

/-- The shared scopes after a step: a new scope is put inside the one in force, and leaving it goes
back to the scope that it was put in. -/
def apply (c : Cursor) : ScopeStep → Cursor
  | .push => ⟨(c.arena.openScope c.scope).2, (c.arena.openScope c.scope).1⟩
  | .pop => { c with scope := (c.arena.frames[c.scope]?.bind Frame.outer).getD c.scope }
  | .declare name kind => { c with arena := c.arena.declareAll c.scope [name] kind }
  | .lookup _ => c

end Cursor

/-- The shared scopes after a history. -/
def cursor (h : List ScopeStep) : Cursor := h.foldl Cursor.apply .start

theorem sees_apply {c : Cursor} {chain : ScopeChain} (hsees : c.arena.Sees c.scope chain)
    (s : ScopeStep) : (c.apply s).arena.Sees (c.apply s).scope (s.apply chain) := by
  cases s with
  | push => exact hsees.openScope
  | declare name kind => exact hsees.declareAll [name] kind
  | lookup name => exact hsees
  | pop =>
    unfold Cursor.apply ScopeStep.apply ScopeChain.pop
    cases hsees with
    | outermost hframe houter hscope =>
      simpa [hframe, houter] using Arena.Sees.outermost hframe houter hscope
    | inside hframe houter hlt hscope hc => simpa [hframe, houter] using hc

/-- Along every history the shared scopes are the nested ones. -/
theorem sees_cursor (h : List ScopeStep) :
    (cursor h).arena.Sees (cursor h).scope (chain h) := by
  induction h using List.reverseRecOn with
  | nil => exact Arena.sees_ofScope .empty
  | append_singleton h s ih =>
    rw [cursor, List.foldl_append, chain_snoc]
    exact sees_apply ih s

end History

open History

/-- After every history a lookup gives the kind of the earliest declaration of the name in the
innermost open scope that has one, and nothing if no open scope has one; the empty name and `_` are
never found. Leaving a scope gives back all scopes as they were when it was opened. Scopes shared in
an arena answer alike. -/
theorem lookup_follows_history (history : List ScopeStep) :
    (∀ name kind, (chain history).lookup name = some kind ↔
        ∃ d i, Decides history d i name kind) ∧
      (∀ name, (chain history).lookup name = none ↔
        ∀ d i kind, ¬ Declares history d i name kind) ∧
      (chain history).lookup "" = none ∧ (chain history).lookup "_" = none ∧
      (∀ i, Opens history i → chain (history ++ [.pop]) = chain (history.take i)) ∧
      (0 < depth history → ∃ i, Opens history i) ∧
      (∀ name, (cursor history).arena.lookup name (cursor history).scope =
        (chain history).lookup name) :=
  ⟨fun _ _ => lookup_eq_some_iff, fun _ => lookup_eq_none_iff,
    lookup_of_not_declarable history rfl, lookup_of_not_declarable history rfl,
    fun _ => pop_of_opens, exists_opens, (sees_cursor history).lookup_eq⟩

/-- A declaration in an inner scope answers for its name until the scope is left. -/
example :
    (chain [.declare "f" .function, .push, .declare "f" .variable]).lookup "f" = some .variable ∧
      (chain [.declare "f" .function, .push, .declare "f" .variable, .pop]).lookup "f" =
        some .function := by
  decide

end GoMeter
