/-
**Opening computations that may fail.**

What a mapped or chained computation says of its parts when it succeeds: of an `Except` value in the
first section, of a computation with a state in the others, where `Yields x s a s'` says that `x`
started in `s` succeeds with `a` and ends in `s'`, and `Fails x s e s'` that it fails with `e`
there.
-/

import Mathlib.Data.List.Forall2

namespace SheetExport

section Outcomes

variable {ε α β : Type}

/-- A mapped outcome is a success just when the outcome is. -/
theorem map_eq_ok_iff {outcome : Except ε α} {f : α → β} {b : β} :
    outcome.map f = .ok b ↔ ∃ a, outcome = .ok a ∧ f a = b := by
  cases outcome <;> simp [Except.map]

/-- A mapped outcome is a failure just when the outcome is. -/
theorem map_eq_error_iff {outcome : Except ε α} {f : α → β} {e : ε} :
    outcome.map f = .error e ↔ outcome = .error e := by
  cases outcome <;> simp [Except.map]

/-- An outcome whose failures are mapped is a success just when the outcome is. -/
theorem mapError_eq_ok_iff {outcome : Except ε α} {f : ε → β} {a : α} :
    outcome.mapError f = .ok a ↔ outcome = .ok a := by
  cases outcome <;> simp [Except.mapError]

/-- A chained outcome is a success just when both parts are. -/
theorem except_bind_eq_ok_iff {outcome : Except ε α} {f : α → Except ε β} {b : β} :
    outcome.bind f = .ok b ↔ ∃ a, outcome = .ok a ∧ f a = .ok b := by
  cases outcome <;> simp [Except.bind]

/-- Computations that all succeed, each with an outcome of a kind, succeed together. -/
theorem exists_mapM_eq_ok {f : α → Except ε β} {P : α → β → Prop} {as : List α}
    (each : ∀ a ∈ as, ∃ b, f a = .ok b ∧ P a b) :
    ∃ bs, as.mapM f = .ok bs ∧ List.Forall₂ P as bs := by
  induction as with
  | nil => exact ⟨[], rfl, .nil⟩
  | cons a as ih =>
    obtain ⟨b, first, holds⟩ := each a List.mem_cons_self
    obtain ⟨bs, others, all⟩ := ih fun a' member => each a' (List.mem_cons_of_mem _ member)
    refine ⟨b :: bs, ?_, .cons holds all⟩
    rw [List.mapM_cons, first, others]
    rfl

/-- Computations that succeed together succeed one by one. -/
theorem forall₂_of_mapM_eq_ok {f : α → Except ε β} {as : List α} {bs : List β}
    (mapped : as.mapM f = .ok bs) : List.Forall₂ (fun a b => f a = .ok b) as bs := by
  induction as generalizing bs with
  | nil =>
    cases mapped
    exact .nil
  | cons a as ih =>
    rw [List.mapM_cons] at mapped
    obtain ⟨b, first, mapped⟩ := except_bind_eq_ok_iff.mp mapped
    obtain ⟨rest, others, same⟩ := except_bind_eq_ok_iff.mp mapped
    cases same
    exact .cons first (ih others)

/-- Computations that fail together do so at one of them. -/
theorem exists_of_mapM_eq_error {f : α → Except ε β} {as : List α} {e : ε}
    (failed : as.mapM f = .error e) : ∃ a ∈ as, f a = .error e := by
  induction as with
  | nil => cases failed
  | cons a as ih =>
    rw [List.mapM_cons] at failed
    cases first : f a with
    | error e' =>
      rw [first] at failed
      cases failed
      exact ⟨a, List.mem_cons_self, first⟩
    | ok b =>
      cases others : as.mapM f with
      | error e' =>
        rw [first, others] at failed
        cases failed
        obtain ⟨a', member, fails⟩ := ih others
        exact ⟨a', List.mem_cons_of_mem _ member, fails⟩
      | ok rest =>
        rw [first, others] at failed
        cases failed

/-- A mapped list has as many outcomes as items. -/
theorem length_of_mapM_eq_ok {f : α → Except ε β} {as : List α} {bs : List β}
    (mapped : as.mapM f = .ok bs) : bs.length = as.length :=
  (forall₂_of_mapM_eq_ok mapped).length_eq.symm

/-- Mapping what each computation gives maps all they give together. -/
theorem mapM_map_outcome {γ : Type} (f : α → Except ε β) (g : β → γ) (as : List α) :
    (as.mapM fun a => (f a).map g) = (as.mapM f).map (List.map g) := by
  induction as with
  | nil => rfl
  | cons a as ih =>
    rw [List.mapM_cons, List.mapM_cons, ih]
    cases f a with
    | error e => rfl
    | ok b => cases as.mapM f <;> rfl

/-- A check of all items succeeds just when that of each does. -/
theorem forM_eq_ok_iff {f : α → Except ε Unit} {as : List α} :
    as.forM f = .ok () ↔ ∀ a ∈ as, f a = .ok () := by
  induction as with
  | nil => exact ⟨fun _ => by simp, fun _ => rfl⟩
  | cons a as ih =>
    rw [List.forall_mem_cons, ← ih]
    show (f a >>= fun _ => as.forM f) = _ ↔ _
    cases f a with
    | error e =>
      constructor
      · intro failed
        cases failed
      · rintro ⟨failed, _⟩
        cases failed
    | ok done => exact ⟨fun others => ⟨rfl, others⟩, And.right⟩

/-- A check that fails does so at one of its items. -/
theorem exists_of_forM_eq_error {f : α → Except ε Unit} {as : List α} {e : ε}
    (failed : as.forM f = .error e) : ∃ a ∈ as, f a = .error e := by
  induction as with
  | nil => cases failed
  | cons a as ih =>
    change (f a >>= fun _ => as.forM f) = .error e at failed
    cases first : f a with
    | error e' =>
      rw [first] at failed
      cases failed
      exact ⟨a, List.mem_cons_self, first⟩
    | ok done =>
      rw [first] at failed
      obtain ⟨a', member, fails⟩ := ih failed
      exact ⟨a', List.mem_cons_of_mem _ member, fails⟩

/-- A member on the left is related to one on the right. -/
theorem exists_of_mem_left {R : α → β → Prop} {as : List α} {bs : List β}
    (related : List.Forall₂ R as bs) {a : α} (member : a ∈ as) : ∃ b ∈ bs, R a b := by
  induction related with
  | nil => cases member
  | cons first _ ih =>
    rcases List.mem_cons.mp member with rfl | later
    · exact ⟨_, List.mem_cons_self, first⟩
    · obtain ⟨b, inRest, holds⟩ := ih later
      exact ⟨b, List.mem_cons_of_mem _ inRest, holds⟩

/-- A member on the right is related to one on the left. -/
theorem exists_of_mem_right {R : α → β → Prop} {as : List α} {bs : List β}
    (related : List.Forall₂ R as bs) {b : β} (member : b ∈ bs) : ∃ a ∈ as, R a b :=
  exists_of_mem_left related.flip member

end Outcomes

section States

variable {σ α β : Type} {x : StateM σ α} {f : α → StateM σ β} {s s' : σ} {a : α} {outcome : β × σ}

/-- A chain of computations that cannot fail goes on from where the first one ends. -/
theorem run_bind_eq (first : x.run s = (a, s')) (second : (f a).run s' = outcome) :
    (x >>= f).run s = outcome := by
  rw [StateT.run_bind, first]
  exact second

end States

section Runs

variable {ε σ α β : Type} {x : ExceptT ε (StateM σ) α} {f : α → ExceptT ε (StateM σ) β}
  {s s' s'' : σ} {a a' : α} {b : β}

/-- The computation succeeds with `a` and takes the state from `s` to `s'`. -/
def Yields (x : ExceptT ε (StateM σ) α) (s : σ) (a : α) (s' : σ) : Prop :=
  x.run.run s = (.ok a, s')

/-- A computation has one outcome. -/
theorem Yields.unique (first : Yields x s a s') (second : Yields x s a' s'') :
    a = a' ∧ s' = s'' := by
  have same := Eq.trans (Eq.symm first) second
  rw [Prod.mk.injEq, Except.ok.injEq] at same
  exact same

theorem yields_pure_iff : Yields (pure a : ExceptT ε (StateM σ) α) s a' s' ↔ a' = a ∧ s' = s := by
  show ((Except.ok a : Except ε α), s) = (.ok a', s') ↔ _
  rw [Prod.mk.injEq, Except.ok.injEq, eq_comm (a := a), eq_comm (a := s)]

theorem Yields.pure (a : α) (s : σ) : Yields (Pure.pure a : ExceptT ε (StateM σ) α) s a s :=
  yields_pure_iff.mpr ⟨rfl, rfl⟩

theorem Yields.get (s : σ) : Yields (MonadState.get : ExceptT ε (StateM σ) σ) s s s := rfl

theorem not_yields_throw (e : ε) : ¬ Yields (throw e : ExceptT ε (StateM σ) α) s a s' := by
  intro yields
  cases (Prod.mk.inj yields).1

/-- A chain goes on after a success, and stops at a failure. -/
theorem run_run_bind (x : ExceptT ε (StateM σ) α) (f : α → ExceptT ε (StateM σ) β) (s : σ) :
    (x >>= f).run.run s =
      match x.run.run s with
      | (.ok a, s') => (f a).run.run s'
      | (.error e, s') => (.error e, s') := by
  show (match x.run.run s with
    | (outcome, s') => (ExceptT.bindCont f outcome).run s') = _
  cases x.run.run s with
  | mk outcome s' => cases outcome <;> rfl

/-- A chain succeeds just when its parts do, one after the other. -/
theorem yields_bind_iff :
    Yields (x >>= f) s b s'' ↔ ∃ a s', Yields x s a s' ∧ Yields (f a) s' b s'' := by
  unfold Yields
  rw [run_run_bind]
  cases outcome : x.run.run s with
  | mk first s' =>
    cases first with
    | error e =>
      constructor
      · intro failed
        cases (Prod.mk.inj failed).1
      · rintro ⟨_, _, failed, _⟩
        cases (Prod.mk.inj failed).1
    | ok a =>
      constructor
      · intro second
        exact ⟨a, s', rfl, second⟩
      · rintro ⟨_, _, same, second⟩
        cases same
        exact second

theorem Yields.bind (first : Yields x s a s') (second : Yields (f a) s' b s'') :
    Yields (x >>= f) s b s'' :=
  yields_bind_iff.mpr ⟨a, s', first, second⟩

theorem yields_mapM_nil_iff {g : α → ExceptT ε (StateM σ) β} {bs : List β} :
    Yields ([].mapM g) s bs s' ↔ bs = [] ∧ s' = s := by
  rw [List.mapM_nil, yields_pure_iff]

theorem yields_mapM_cons_iff {g : α → ExceptT ε (StateM σ) β} {as : List α} {bs : List β} :
    Yields ((a :: as).mapM g) s bs s'' ↔
      ∃ b s' rest, bs = b :: rest ∧ Yields (g a) s b s' ∧ Yields (as.mapM g) s' rest s'' := by
  rw [List.mapM_cons, yields_bind_iff]
  constructor
  · rintro ⟨b, s', first, others⟩
    obtain ⟨rest, s₂, later, last⟩ := yields_bind_iff.mp others
    obtain ⟨rfl, rfl⟩ := yields_pure_iff.mp last
    exact ⟨b, s', rest, rfl, first, later⟩
  · rintro ⟨b, s', rest, rfl, first, later⟩
    exact ⟨b, s', first, later.bind (.pure _ _)⟩

theorem length_of_yields_mapM {g : α → ExceptT ε (StateM σ) β} {as : List α} {bs : List β}
    (yields : Yields (as.mapM g) s bs s') : bs.length = as.length := by
  induction as generalizing s bs with
  | nil => rw [(yields_mapM_nil_iff.mp yields).1, List.length_nil, List.length_nil]
  | cons a as ih =>
    obtain ⟨b, s', rest, rfl, _, others⟩ := yields_mapM_cons_iff.mp yields
    rw [List.length_cons, List.length_cons, ih others]

theorem yields_foldlM_nil_iff {g : β → α → ExceptT ε (StateM σ) β} {b' : β} :
    Yields ([].foldlM g b) s b' s' ↔ b' = b ∧ s' = s := by
  rw [List.foldlM_nil, yields_pure_iff]

theorem yields_foldlM_cons_iff {g : β → α → ExceptT ε (StateM σ) β} {as : List α} {b' : β} :
    Yields ((a :: as).foldlM g b) s b' s'' ↔
      ∃ next s', Yields (g b a) s next s' ∧ Yields (as.foldlM g next) s' b' s'' := by
  rw [List.foldlM_cons, yields_bind_iff]

end Runs

section Failures

variable {ε σ α β : Type} {x : ExceptT ε (StateM σ) α} {f : α → ExceptT ε (StateM σ) β}
  {s s' s'' : σ} {a : α} {b : β} {e e' : ε}

/-- The computation fails with `e` and takes the state from `s` to `s'`. -/
def Fails (x : ExceptT ε (StateM σ) α) (s : σ) (e : ε) (s' : σ) : Prop :=
  x.run.run s = (.error e, s')

theorem Yields.not_fails (yields : Yields x s a s') : ¬ Fails x s e s'' := by
  intro fails
  cases (Prod.mk.inj (yields.symm.trans fails)).1

theorem not_fails_pure : ¬ Fails (pure a : ExceptT ε (StateM σ) α) s e s' :=
  (Yields.pure a s).not_fails

theorem fails_throw_iff :
    Fails (throw e : ExceptT ε (StateM σ) α) s e' s' ↔ e' = e ∧ s' = s := by
  show ((Except.error e : Except ε α), s) = (.error e', s') ↔ _
  rw [Prod.mk.injEq, Except.error.injEq, eq_comm (a := e), eq_comm (a := s)]

/-- A chain fails with its first part, or with its second one where the first succeeds. -/
theorem fails_bind_iff :
    Fails (x >>= f) s e s'' ↔
      Fails x s e s'' ∨ ∃ a s', Yields x s a s' ∧ Fails (f a) s' e s'' := by
  unfold Fails Yields
  rw [run_run_bind]
  cases outcome : x.run.run s with
  | mk first s' =>
    cases first with
    | error e' =>
      constructor
      · intro failed
        cases failed
        exact Or.inl rfl
      · rintro (failed | ⟨_, _, yields, _⟩)
        · cases failed
          rfl
        · cases yields
    | ok a =>
      constructor
      · exact fun second => Or.inr ⟨a, s', rfl, second⟩
      · rintro (failed | ⟨_, _, same, second⟩)
        · cases failed
        · cases same
          exact second

/-- A loop that fails does so in one of its steps, after those before succeeded. -/
theorem exists_of_fails_forM {step : α → ExceptT ε (StateM σ) PUnit} {items : List α}
    (fails : Fails (items.forM step) s e s') :
    ∃ before item after s₁, items = before ++ item :: after ∧
      Yields (before.forM step) s ⟨⟩ s₁ ∧ Fails (step item) s₁ e s' := by
  induction items generalizing s with
  | nil => exact absurd fails not_fails_pure
  | cons item items ih =>
    rcases fails_bind_iff.mp fails with first | ⟨_, s₁, first, others⟩
    · exact ⟨[], item, items, s, rfl, .pure _ _, first⟩
    · obtain ⟨before, stopped, after, s₂, rfl, passed, last⟩ := ih others
      exact ⟨item :: before, stopped, after, s₂, rfl, first.bind passed, last⟩

/-- A fold that fails does so in one of its steps, after those before succeeded. -/
theorem fails_foldlM_iff {step : β → α → ExceptT ε (StateM σ) β} {items : List α} {b : β} :
    Fails (items.foldlM step b) s e s' ↔
      ∃ before item after b₁ s₁, items = before ++ item :: after ∧
        Yields (before.foldlM step b) s b₁ s₁ ∧ Fails (step b₁ item) s₁ e s' := by
  induction items generalizing b s with
  | nil =>
    constructor
    · intro fails
      rw [List.foldlM_nil] at fails
      exact absurd fails not_fails_pure
    · rintro ⟨before, item, after, b₁, s₁, same, _⟩
      cases before <;> cases same
  | cons first items ih =>
    rw [List.foldlM_cons, fails_bind_iff]
    constructor
    · rintro (failed | ⟨b₁, s₁, passed, others⟩)
      · exact ⟨[], first, items, b, s, rfl, .pure b s, failed⟩
      · obtain ⟨before, item, after, b₂, s₂, rfl, more, failed⟩ := ih.mp others
        exact ⟨first :: before, item, after, b₂, s₂, rfl,
          yields_foldlM_cons_iff.mpr ⟨b₁, s₁, passed, more⟩, failed⟩
    · rintro ⟨before, item, after, b₁, s₁, same, passed, failed⟩
      cases before with
      | nil =>
        cases same
        obtain ⟨rfl, rfl⟩ := yields_foldlM_nil_iff.mp passed
        exact Or.inl failed
      | cons head before =>
        cases same
        obtain ⟨b₂, s₂, one, more⟩ := yields_foldlM_cons_iff.mp passed
        exact Or.inr ⟨b₂, s₂, one, ih.mpr ⟨before, item, after, b₁, s₁, rfl, more, failed⟩⟩

/-- The computation fails in one kind of ways only. -/
def FailsOnly (P : ε → Prop) (x : ExceptT ε (StateM σ) α) : Prop :=
  ∀ ⦃s e s'⦄, Fails x s e s' → P e

variable {P : ε → Prop}

theorem FailsOnly.pure (a : α) : FailsOnly P (Pure.pure a : ExceptT ε (StateM σ) α) :=
  fun _ _ _ fails => absurd fails not_fails_pure

theorem FailsOnly.throw (holds : P e) : FailsOnly P (throw e : ExceptT ε (StateM σ) α) := by
  intro s e' s' fails
  obtain ⟨rfl, _⟩ := fails_throw_iff.mp fails
  exact holds

theorem FailsOnly.bind (first : FailsOnly P x) (second : ∀ a, FailsOnly P (f a)) :
    FailsOnly P (x >>= f) := by
  intro s e s' fails
  rcases fails_bind_iff.mp fails with failed | ⟨a, s₁, _, failed⟩
  · exact first failed
  · exact second a failed

theorem FailsOnly.weaken {Q : ε → Prop} (failsOnly : FailsOnly P x) (weaker : ∀ e, P e → Q e) :
    FailsOnly Q x :=
  fun _ e _ fails => weaker e (failsOnly fails)

theorem FailsOnly.foldlM {as : List α} {step : β → α → ExceptT ε (StateM σ) β}
    (each : ∀ b, ∀ a ∈ as, FailsOnly P (step b a)) (b : β) : FailsOnly P (as.foldlM step b) := by
  intro s e s' fails
  obtain ⟨before, a, after, b₁, s₁, rfl, _, failed⟩ := fails_foldlM_iff.mp fails
  exact each b₁ a (by simp) failed

theorem FailsOnly.mapM {as : List α} (each : ∀ a ∈ as, FailsOnly P (f a)) :
    FailsOnly P (as.mapM f) := by
  induction as with
  | nil => exact .pure []
  | cons a as ih =>
    rw [List.mapM_cons]
    refine .bind (each a List.mem_cons_self) fun b => .bind ?_ fun bs => .pure _
    exact ih fun a' member => each a' (List.mem_cons_of_mem _ member)

end Failures

end SheetExport
