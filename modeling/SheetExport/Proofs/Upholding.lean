/-
**Invariants of computations that may fail.**

`Upholds I Q x` says that `I` holds behind `x` wherever it holds before, whether `x` succeeds or
fails, and that results of `x` are of the kind `Q`. Chains, mapped lists and folds uphold what
their steps do. `Keeps I x` is the same of a computation that cannot fail.
-/

import SheetExport.Proofs.Outcome

namespace SheetExport

section Failing

variable {ε σ α β : Type} {I : σ → Prop} {P Q : α → Prop} {R : β → Prop}
  {x : ExceptT ε (StateM σ) α} {f : α → ExceptT ε (StateM σ) β} {s s' : σ} {a : α} {e : ε}

/-- The computation keeps to an invariant, and its results are of a kind. -/
def Upholds (I : σ → Prop) (Q : α → Prop) (x : ExceptT ε (StateM σ) α) : Prop :=
  ∀ ⦃s⦄, I s → I (x.run.run s).2 ∧ ∀ a ∈ (x.run.run s).1.toOption, Q a

theorem Upholds.of_yields (upholds : Upholds I Q x) (before : I s) (yields : Yields x s a s') :
    I s' ∧ Q a := by
  have after := upholds before
  rw [yields] at after
  exact ⟨after.1, after.2 a rfl⟩

theorem Upholds.after (upholds : Upholds I Q x) (before : I s) : I (x.run.run s).2 :=
  (upholds before).1

theorem Upholds.weaken (upholds : Upholds I P x) (weaker : ∀ a, P a → Q a) : Upholds I Q x :=
  fun _ before => ⟨(upholds before).1, fun a result => weaker a ((upholds before).2 a result)⟩

theorem Upholds.pure (holds : Q a) : Upholds I Q (Pure.pure a : ExceptT ε (StateM σ) α) := by
  intro s before
  refine ⟨before, fun b result => ?_⟩
  cases result
  exact holds

theorem Upholds.throw (e : ε) : Upholds I Q (throw e : ExceptT ε (StateM σ) α) := by
  intro s before
  refine ⟨before, fun b result => ?_⟩
  cases result

/-- What is computed from the state without touching it. -/
theorem Upholds.get : Upholds I I (MonadState.get : ExceptT ε (StateM σ) σ) := by
  intro s before
  refine ⟨before, fun b result => ?_⟩
  cases result
  exact before

theorem Upholds.modify {change : σ → σ} (keeps : ∀ s, I s → I (change s)) :
    Upholds I (fun _ => True) (modify change : ExceptT ε (StateM σ) PUnit) :=
  fun s before => ⟨keeps s before, fun _ _ => trivial⟩

theorem Upholds.bind (first : Upholds I P x) (second : ∀ a, P a → Upholds I R (f a)) :
    Upholds I R (x >>= f) := by
  intro s before
  have middle := first before
  rw [run_run_bind]
  cases outcome : x.run.run s with
  | mk result s' =>
    rw [outcome] at middle
    cases result with
    | error e => exact ⟨middle.1, fun b result => by cases result⟩
    | ok a => exact second a (middle.2 a rfl) middle.1

theorem Upholds.throw_bind (e : ε) (f : α → ExceptT ε (StateM σ) β) :
    Upholds I R ((MonadExcept.throw e : ExceptT ε (StateM σ) α) >>= f) :=
  .bind (P := fun _ => False) (.throw e) fun _ no => no.elim

theorem Upholds.mapM {as : List α} (each : ∀ a ∈ as, Upholds I R (f a)) :
    Upholds I (fun bs => ∀ b ∈ bs, R b) (as.mapM f) := by
  induction as with
  | nil => exact .pure (by simp)
  | cons a as ih =>
    rw [List.mapM_cons]
    refine .bind (each a List.mem_cons_self) fun b first => ?_
    refine .bind (ih fun a' member => each a' (List.mem_cons_of_mem _ member)) fun bs others => ?_
    exact .pure (List.forall_mem_cons.mpr ⟨first, others⟩)

/-- **Results are of a kind where the state ends**, if each is where it is made, and the state only
moves in a way that keeps them so. -/
theorem forall₂_of_yields_mapM {before : σ → σ → Prop} {R : σ → α → β → Prop} {as : List α}
    {bs : List β} (refl : ∀ s, before s s)
    (trans : ∀ s s' s'', before s s' → before s' s'' → before s s'')
    (mono : ∀ s s' a b, before s s' → R s a b → R s' a b)
    (each : ∀ a s b s', I s → Yields (f a) s b s' → I s' ∧ before s s' ∧ R s' a b)
    (start : I s) (yields : Yields (as.mapM f) s bs s') :
    I s' ∧ before s s' ∧ List.Forall₂ (R s') as bs := by
  induction as generalizing s bs with
  | nil =>
    obtain ⟨rfl, rfl⟩ := yields_mapM_nil_iff.mp yields
    exact ⟨start, refl _, .nil⟩
  | cons a as ih =>
    obtain ⟨b, s₁, rest, rfl, first, others⟩ := yields_mapM_cons_iff.mp yields
    obtain ⟨middle, onward, holds⟩ := each a s b s₁ start first
    obtain ⟨after, further, all⟩ := ih middle others
    exact ⟨after, trans _ _ _ onward further, .cons (mono _ _ _ _ further holds) all⟩

theorem Upholds.foldlM {as : List α} {step : β → α → ExceptT ε (StateM σ) β} {b : β}
    (start : R b) (each : ∀ b, R b → ∀ a ∈ as, Upholds I R (step b a)) :
    Upholds I R (as.foldlM step b) := by
  induction as generalizing b with
  | nil => exact .pure start
  | cons a as ih =>
    rw [List.foldlM_cons]
    refine .bind (each b start a List.mem_cons_self) fun next holds => ?_
    exact ih holds fun b' holds' a' member => each b' holds' a' (List.mem_cons_of_mem _ member)

theorem Upholds.forM {as : List α} {step : α → ExceptT ε (StateM σ) PUnit}
    (each : ∀ a ∈ as, Upholds I (fun _ => True) (step a)) :
    Upholds I (fun _ => True) (as.forM step) := by
  induction as with
  | nil => exact .pure trivial
  | cons a as ih =>
    refine .bind (each a List.mem_cons_self) fun _ _ => ?_
    exact ih fun a' member => each a' (List.mem_cons_of_mem _ member)

end Failing

section States

variable {σ α β : Type} {I : σ → Prop} {x : StateM σ α} {f : α → StateM σ β}

/-- The computation keeps to an invariant. -/
def Keeps (I : σ → Prop) (x : StateM σ α) : Prop := ∀ ⦃s⦄, I s → I (x.run s).2

theorem Keeps.pure (a : α) : Keeps I (Pure.pure a : StateM σ α) := fun _ before => before

theorem Keeps.bind (first : Keeps I x) (second : ∀ a, Keeps I (f a)) : Keeps I (x >>= f) := by
  intro s before
  rw [StateT.run_bind]
  exact second _ (first before)

theorem Keeps.foldlM {step : β → α → StateM σ β} (each : ∀ b a, Keeps I (step b a))
    (items : List α) (b : β) : Keeps I (items.foldlM step b) := by
  induction items generalizing b with
  | nil => exact .pure b
  | cons a items ih => exact .bind (each b a) ih

theorem Keeps.forM {step : α → StateM σ PUnit} (each : ∀ a, Keeps I (step a)) (items : List α) :
    Keeps I (items.forM step) := by
  induction items with
  | nil => exact .pure PUnit.unit
  | cons a items ih => exact .bind (each a) fun _ => ih

end States

end SheetExport
