import GoMeter.Log
import Mathlib.Data.List.Forall2

/-!
# What a computation comes to

A computation that may fail goes on only after a result, and messages add up on the way.

* `exists_of_bind_ok`, `exists_of_map_ok`, `mapM_eq_ok_iff`, `filterM_eq_ok_iff`: what a computation
  with a result went through; `Attempt.exists_of_bind_ok` is the same for computations with messages.
* `Attempt.Returns`: a computation has a result; `Attempt.returns_bind_iff`: when a sequence of steps
  has.
* `Attempt.Calm`: a computation has a result and warns of nothing; it holds of a sequence of steps if it
  holds of each step.
-/

namespace GoMeter

/-! ## Computations that may be refused -/

/-- What a computation that succeeds went through. -/
theorem exists_of_bind_ok {ε α β : Type} {x : Except ε α} {f : α → Except ε β} {b : β}
    (h : x >>= f = .ok b) : ∃ a, x = .ok a ∧ f a = .ok b := by
  cases x with
  | error e => cases h
  | ok a => exact ⟨a, rfl, h⟩

theorem exists_of_map_ok {ε α β : Type} {x : Except ε α} {f : α → β} {b : β}
    (h : f <$> x = .ok b) : ∃ a, x = .ok a ∧ f a = b := by
  cases x with
  | error e => cases h
  | ok a =>
    cases h
    exact ⟨a, rfl, rfl⟩

/-- A computation for each member of a list has a result if each of them has one. -/
theorem mapM_eq_ok_iff {ε α β : Type} {f : α → Except ε β} {as : List α} {bs : List β} :
    as.mapM f = .ok bs ↔ List.Forall₂ (fun a b => f a = .ok b) as bs := by
  constructor
  · intro h
    induction as generalizing bs with
    | nil =>
      cases h
      exact .nil
    | cons a as ih =>
      rw [List.mapM_cons] at h
      obtain ⟨b, hb, h⟩ := exists_of_bind_ok h
      obtain ⟨rest, hrest, h⟩ := exists_of_bind_ok h
      cases h
      exact .cons hb (ih hrest)
  · intro h
    induction h with
    | nil => rfl
    | cons hb _ ih =>
      rw [List.mapM_cons, hb, ih]
      rfl

/-- What each member of a list comes from is found again, so the list is. -/
theorem mapM_map_eq_ok {ε α β : Type} {f : α → Except ε β} {g : β → α} {bs : List β}
    (h : ∀ b ∈ bs, f (g b) = .ok b) : (bs.map g).mapM f = .ok bs := by
  rw [mapM_eq_ok_iff, List.forall₂_map_left_iff]
  exact List.forall₂_same.mpr h

theorem filterAuxM_eq_ok_iff {ε α : Type} {f : α → Except ε Bool} {as kept bs : List α} :
    as.filterAuxM f kept = .ok bs ↔ (∀ a ∈ as, ∃ b, f a = .ok b) ∧
      bs = (as.filter fun a => (f a).toOption == some true).reverse ++ kept := by
  induction as generalizing kept with
  | nil => simp [List.filterAuxM, pure, Except.pure, eq_comm]
  | cons a as ih =>
    rw [List.filterAuxM]
    cases ha : f a with
    | error e => simp [bind, Except.bind, ha]
    | ok b =>
      simp only [bind, Except.bind, ih, List.forall_mem_cons, ha, List.filter_cons]
      cases b <;> simp [Except.toOption]

/-- A test of each member of a list has a result if every test has one, and then the members that pass
are kept. -/
theorem filterM_eq_ok_iff {ε α : Type} {f : α → Except ε Bool} {as bs : List α} :
    as.filterM f = .ok bs ↔ (∀ a ∈ as, ∃ b, f a = .ok b) ∧
      bs = as.filter fun a => (f a).toOption == some true := by
  rw [List.filterM]
  constructor
  · intro h
    obtain ⟨kept, hkept, h⟩ := exists_of_bind_ok h
    obtain ⟨hall, rfl⟩ := filterAuxM_eq_ok_iff.mp hkept
    cases h
    exact ⟨hall, by simp⟩
  · rintro ⟨hall, rfl⟩
    rw [filterAuxM_eq_ok_iff.mpr ⟨hall, rfl⟩]
    simp [bind, Except.bind, pure, Except.pure]

/-- What every step of a fold keeps, the whole fold keeps. -/
theorem foldlM_invariant {ε σ α : Type} {f : σ → α → Except ε σ} {P : σ → Prop}
    (hstep : ∀ s a s', P s → f s a = .ok s' → P s') {as : List α} {s s' : σ} (hs : P s)
    (h : as.foldlM f s = .ok s') : P s' := by
  induction as generalizing s with
  | nil =>
    cases h
    exact hs
  | cons a as ih =>
    rw [List.foldlM_cons] at h
    obtain ⟨next, hnext, h⟩ := exists_of_bind_ok h
    exact ih (hstep s a next hs hnext) h

/-! ## Computations with messages -/

instance : LawfulMonad Logged := LawfulMonad.mk' Logged
  (fun x => congrArg (Logged.mk x.result) (List.append_nil x.messages))
  (fun _ _ => rfl)
  (fun x _ _ => congrArg (Logged.mk _) (List.append_assoc x.messages _ _))

namespace Attempt

variable {ε δ α β : Type}

@[simp] theorem outcome_pure (a : α) : (pure a : Attempt ε α).outcome = ⟨.ok a, []⟩ := rfl

@[simp] theorem outcome_throw (e : ε) : (throw e : Attempt ε α).outcome = ⟨.error e, []⟩ := rfl

@[simp] theorem outcome_ofExcept (x : Except ε α) : (ofExcept x).outcome = ⟨x, []⟩ := rfl

@[simp] theorem outcome_lift (x : Logged α) :
    (liftM x : Attempt ε α).outcome = ⟨.ok x.result, x.messages⟩ := by
  show (⟨.ok x.result, x.messages ++ []⟩ : Logged (Except ε α)) = _
  rw [List.append_nil]

@[simp] theorem outcome_mapFault (f : ε → δ) (x : Attempt ε α) :
    (x.mapFault f).outcome = ⟨x.outcome.result.mapError f, x.outcome.messages⟩ := rfl

theorem outcome_bind (x : Attempt ε α) (f : α → Attempt ε β) :
    (x >>= f).outcome =
      match x.outcome.result with
      | .ok a => ⟨(f a).outcome.result, x.outcome.messages ++ (f a).outcome.messages⟩
      | .error e => ⟨.error e, x.outcome.messages⟩ := by
  show Logged.andThen x.outcome (ExceptT.bindCont f) = _
  unfold Logged.andThen
  cases hresult : x.outcome.result with
  | ok a => rfl
  | error e =>
    show (⟨.error e, x.outcome.messages ++ []⟩ : Logged (Except ε β)) = _
    rw [List.append_nil]

/-- What is said on the way to a second step is what was said before it and in it. -/
theorem mem_messages_bind {x : Attempt ε α} {a : α} (h : x.outcome.result = .ok a)
    (f : α → Attempt ε β) {m : Message} :
    m ∈ (x >>= f).outcome.messages ↔ m ∈ x.outcome.messages ∨ m ∈ (f a).outcome.messages := by
  rw [outcome_bind, h]
  exact List.mem_append

@[simp] theorem outcome_map (f : α → β) (x : Attempt ε α) :
    (f <$> x).outcome = ⟨x.outcome.result.map f, x.outcome.messages⟩ := by
  rw [← bind_pure_comp, outcome_bind]
  cases hresult : x.outcome.result <;> simp [Except.map]

/-- What a computation with a result went through. -/
theorem exists_of_bind_ok {x : Attempt ε α} {f : α → Attempt ε β} {b : β}
    (h : (x >>= f).outcome.result = .ok b) :
    ∃ a, x.outcome.result = .ok a ∧ (f a).outcome.result = .ok b := by
  rw [outcome_bind] at h
  cases hx : x.outcome.result with
  | ok a => exact ⟨a, rfl, by simpa [hx] using h⟩
  | error e => simp [hx] at h

theorem bind_eq_ok_iff {x : Attempt ε α} {f : α → Attempt ε β} {b : β} :
    (x >>= f).outcome.result = .ok b ↔
      ∃ a, x.outcome.result = .ok a ∧ (f a).outcome.result = .ok b := by
  refine ⟨exists_of_bind_ok, ?_⟩
  rintro ⟨a, ha, hb⟩
  rw [outcome_bind, ha, hb]

/-- A computation for each member of a list has a result if each of them has one. -/
theorem mapM_eq_ok_iff {f : α → Attempt ε β} {as : List α} {bs : List β} :
    (as.mapM f).outcome.result = .ok bs ↔
      List.Forall₂ (fun a b => (f a).outcome.result = .ok b) as bs := by
  induction as generalizing bs with
  | nil => cases bs <;> simp
  | cons a as ih =>
    rw [List.mapM_cons]
    simp only [bind_eq_ok_iff, outcome_pure, ih, List.forall₂_cons_left_iff, Except.ok.injEq]
    constructor
    · rintro ⟨b, hb, rest, hrest, rfl⟩
      exact ⟨b, rest, hb, hrest, rfl⟩
    · rintro ⟨b, rest, hb, hrest, rfl⟩
      exact ⟨b, hb, rest, hrest, rfl⟩

theorem exists_of_mapFault_ok {f : ε → δ} {x : Attempt ε α} {a : α}
    (h : (x.mapFault f).outcome.result = .ok a) : x.outcome.result = .ok a := by
  cases hx : x.outcome.result with
  | ok b => simpa [hx, Except.mapError] using h
  | error e => simp [hx, Except.mapError] at h

/-! ## Computations that return -/

/-- A computation has a result. -/
def Returns (x : Attempt ε α) : Prop := ∃ a, x.outcome.result = .ok a

theorem returns_pure (a : α) : Returns (pure a : Attempt ε α) := ⟨a, rfl⟩

theorem not_returns_iff {x : Attempt ε α} : ¬ x.Returns ↔ ∃ e, x.outcome.result = .error e := by
  unfold Returns
  cases x.outcome.result <;> simp

/-- A sequence of two steps returns if both do, where it does not matter to the second what the first
comes to. -/
theorem returns_bind_iff {x : Attempt ε α} {f : α → Attempt ε β} {P : Prop}
    (hf : ∀ a, (f a).Returns ↔ P) : (x >>= f).Returns ↔ x.Returns ∧ P := by
  constructor
  · rintro ⟨b, hb⟩
    obtain ⟨a, ha, hb⟩ := exists_of_bind_ok hb
    exact ⟨⟨a, ha⟩, (hf a).mp ⟨b, hb⟩⟩
  · rintro ⟨⟨a, ha⟩, hp⟩
    obtain ⟨b, hb⟩ := (hf a).mpr hp
    exact ⟨b, bind_eq_ok_iff.mpr ⟨a, ha, hb⟩⟩

/-! ## Computations without warnings -/

/-- A computation has the result `a` and warns of nothing. -/
structure Calm (x : Attempt ε α) (a : α) : Prop where
  result_eq : x.outcome.result = .ok a
  no_alarm : ∀ m ∈ x.outcome.messages, m.isAlarm = false

theorem calm_pure (a : α) : Calm (pure a : Attempt ε α) a := ⟨rfl, by simp⟩

theorem calm_ofExcept (a : α) : Calm (ofExcept (.ok a) : Attempt ε α) a := ⟨rfl, by simp⟩

theorem calm_debug (origin : Origin) (text : String) :
    Calm (liftM (Logged.say .debug origin text) : Attempt ε Unit) () :=
  ⟨by simp, by simp [Logged.say, Message.isAlarm]⟩

theorem Calm.mapFault {x : Attempt ε α} {a : α} (h : x.Calm a) (f : ε → δ) :
    (x.mapFault f).Calm a :=
  ⟨by simp [h.result_eq, Except.mapError], by simpa using h.no_alarm⟩

/-- Steps that warn of nothing, one after the other. -/
theorem Calm.bind {x : Attempt ε α} {a : α} {f : α → Attempt ε β} {b : β} (hx : x.Calm a)
    (hf : (f a).Calm b) : (x >>= f).Calm b := by
  have houtcome := outcome_bind x f
  rw [hx.result_eq] at houtcome
  constructor
  · rw [houtcome]
    exact hf.result_eq
  · intro m hm
    rw [houtcome] at hm
    rcases List.mem_append.mp hm with hm | hm
    · exact hx.no_alarm m hm
    · exact hf.no_alarm m hm

end Attempt

end GoMeter
