/-
**The style that conditional declarations choose.**

* `Foremost holds priority as a` — `a` is the first of the members of greatest priority among those
  that hold; there is at most one, and one if any holds;
* `find?_sorted_iff` — a stable sort by descending priority and a first match find it;
* `Foremost.congr` — members that hold and have one priority have to keep their order, and nothing
  else matters;
* `MadeFrom c specs rules` — rules of the declared conditions and priorities, with the styles that
  the catalog keeps for the declared classes (`of_compileRules`);
* `selectStyle_of_compileRules`: the declaration that is foremost on a value chooses the style, or
  the base style is chosen where no declaration holds.
-/

import SheetExport.Proofs.Catalog.Requests
import SheetExport.Proofs.Catalog.Sameness
import SheetExport.Proofs.Condition.RoundTrip

namespace SheetExport

/-! ### The foremost member of a list -/

section Foremost

variable {α β : Type} {holds : α → Bool} {priority : α → Int} {as as' : List α} {a b : α}

/-- The first of those of greatest priority among the members that hold. -/
structure Foremost (holds : α → Bool) (priority : α → Int) (as : List α) (a : α) : Prop where
  isTrue : holds a = true
  place : ∃ earlier later, as = earlier ++ a :: later ∧
    (∀ b ∈ earlier, holds b = true → priority b < priority a) ∧
    ∀ b ∈ later, holds b = true → priority b ≤ priority a

/-- The front of a list has to have the greatest priority, or a lower one than what is foremost
behind it. -/
theorem foremost_cons_iff : Foremost holds priority (b :: as) a ↔
    (a = b ∧ holds b = true ∧ ∀ c ∈ as, holds c = true → priority c ≤ priority b) ∨
      (Foremost holds priority as a ∧ (holds b = true → priority b < priority a)) := by
  constructor
  · rintro ⟨isTrue, earlier, later, parts, before, behind⟩
    cases earlier with
    | nil =>
      cases parts
      exact Or.inl ⟨rfl, isTrue, behind⟩
    | cons first earlier =>
      cases parts
      have lower := List.forall_mem_cons.mp before
      exact Or.inr ⟨⟨isTrue, earlier, later, rfl, lower.2, behind⟩, lower.1⟩
  · rintro (⟨rfl, isTrue, behind⟩ | ⟨⟨isTrue, earlier, later, rfl, before, behind⟩, lower⟩)
    · exact ⟨isTrue, [], as, rfl, List.forall_mem_nil _, behind⟩
    · exact ⟨isTrue, b :: earlier, later, rfl, List.forall_mem_cons.mpr ⟨lower, before⟩, behind⟩

/-- What is foremost is a member. -/
theorem Foremost.mem (foremost : Foremost holds priority as a) : a ∈ as := by
  obtain ⟨_, earlier, later, rfl, -⟩ := foremost
  exact List.mem_append_right _ List.mem_cons_self

/-- **A stable sort by descending priority puts the foremost member before all others that hold.**
By induction: the first member is sorted in behind the members of greater priority alone. -/
theorem find?_sorted_iff :
    (as.mergeSort fun a b => decide (priority b ≤ priority a)).find? holds = some a ↔
      Foremost holds priority as a := by
  have trans (a b c : α) (first : decide (priority b ≤ priority a) = true)
      (second : decide (priority c ≤ priority b) = true) :
      decide (priority c ≤ priority a) = true :=
    decide_eq_true (Int.le_trans (of_decide_eq_true second) (of_decide_eq_true first))
  have total (a b : α) :
      (decide (priority b ≤ priority a) || decide (priority a ≤ priority b)) = true := by
    simpa using Int.le_total (priority b) (priority a)
  induction as generalizing a with
  | nil =>
    refine ⟨fun found => by simp at found, fun foremost => ?_⟩
    cases foremost.mem
  | cons b as ih =>
    obtain ⟨ahead, behind, whole, others, greater⟩ := List.mergeSort_cons trans total b as
    have sorted := List.pairwise_mergeSort trans total (b :: as)
    rw [whole] at sorted ⊢
    have inRest := @ih a
    rw [others] at inRest
    have members (c : α) : c ∈ as ↔ c ∈ ahead ∨ c ∈ behind := by
      rw [← List.mem_append, ← others, List.mem_mergeSort]
    have notGreater : ∀ c ∈ behind, priority c ≤ priority b := fun c member =>
      of_decide_eq_true ((List.pairwise_cons.mp (List.pairwise_append.mp sorted).2.1).1 c member)
    rw [foremost_cons_iff, inRest.symm, List.find?_append, List.find?_append]
    cases found : ahead.find? holds with
    | some x =>
      -- A member of greater priority that holds is found first.
      have isAhead := List.mem_of_find?_eq_some found
      have higher : priority b < priority x := by simpa using greater x isAhead
      refine ⟨fun same => Or.inr ⟨same, fun _ => ?_⟩, fun either => ?_⟩
      · cases same
        exact higher
      · rcases either with ⟨rfl, -, lower⟩ | ⟨same, -⟩
        · have notHigher := lower x ((members x).mpr (Or.inl isAhead)) (List.find?_some found)
          exact absurd higher (Int.not_lt.mpr notHigher)
        · exact same
    | none =>
      have noneAhead := List.find?_eq_none.mp found
      cases first : holds b with
      | true =>
        rw [List.find?_cons_of_pos first]
        refine ⟨fun same => Or.inl ?_, fun either => ?_⟩
        · cases same
          refine ⟨rfl, rfl, fun c member isTrue => ?_⟩
          rcases (members c).mp member with isAhead | isBehind
          · exact absurd isTrue (noneAhead c isAhead)
          · exact notGreater c isBehind
        · rcases either with ⟨rfl, -, -⟩ | ⟨same, higher⟩
          · rfl
          · have isBehind := List.mem_of_find?_eq_some (show behind.find? holds = some a from same)
            exact absurd (higher rfl) (Int.not_lt.mpr (notGreater a isBehind))
      | false =>
        rw [List.find?_cons_of_neg (by simp [first])]
        simp

/-- There is something foremost just when something holds. -/
theorem exists_foremost_iff : (∃ a, Foremost holds priority as a) ↔ ∃ a ∈ as, holds a = true := by
  constructor
  · rintro ⟨a, foremost⟩
    exact ⟨a, foremost.mem, foremost.isTrue⟩
  · rintro ⟨a, member, isTrue⟩
    have found : ((as.mergeSort fun a b => decide (priority b ≤ priority a)).find?
        holds).isSome = true := List.find?_isSome.mpr ⟨a, List.mem_mergeSort.mpr member, isTrue⟩
    obtain ⟨b, same⟩ := Option.isSome_iff_exists.mp found
    exact ⟨b, find?_sorted_iff.mp same⟩

/-- Only one member is foremost. -/
theorem Foremost.unique (first : Foremost holds priority as a)
    (second : Foremost holds priority as b) : a = b :=
  Option.some.inj ((find?_sorted_iff.mpr first).symm.trans (find?_sorted_iff.mpr second))

/-- The foremost member is the first of its priority that holds, and no other has a greater one. -/
theorem foremost_iff_filter : Foremost holds priority as a ↔
    (∃ others, as.filter (fun b => holds b && decide (priority b = priority a)) = a :: others) ∧
      ∀ b ∈ as, holds b = true → priority b ≤ priority a := by
  constructor
  · rintro ⟨isTrue, earlier, later, rfl, before, behind⟩
    constructor
    · have noneBefore :
          earlier.filter (fun b => holds b && decide (priority b = priority a)) = [] := by
        refine List.filter_eq_nil_iff.mpr fun b member both => ?_
        obtain ⟨holdsToo, same⟩ := Bool.and_eq_true_iff.mp both
        exact absurd (of_decide_eq_true same) (Int.ne_of_lt (before b member holdsToo))
      rw [List.filter_append, noneBefore, List.nil_append, List.filter_cons_of_pos (by simp [isTrue])]
      exact ⟨_, rfl⟩
    · intro b member holdsToo
      rcases List.mem_append.mp member with isBefore | isLater
      · exact Int.le_of_lt (before b isBefore holdsToo)
      · rcases List.mem_cons.mp isLater with rfl | isBehind
        · exact Int.le_refl _
        · exact behind b isBehind holdsToo
  · rintro ⟨⟨others, first⟩, greatest⟩
    obtain ⟨earlier, later, rfl, noneBefore, isFirst, -⟩ := List.filter_eq_cons_iff.mp first
    refine ⟨(Bool.and_eq_true_iff.mp isFirst).1, earlier, later, rfl, ?_, ?_⟩
    · intro b member holdsToo
      refine lt_of_le_of_ne (greatest b (List.mem_append_left _ member) holdsToo) fun same => ?_
      exact noneBefore b member (by simp [holdsToo, same])
    · intro b member holdsToo
      exact greatest b (List.mem_append_right _ (List.mem_cons_of_mem _ member)) holdsToo

/-- **What holds and has one priority keeps its order; nothing else matters.** -/
theorem foremost_congr
    (ties : ∀ p, as.filter (fun b => holds b && decide (priority b = p)) =
      as'.filter fun b => holds b && decide (priority b = p)) :
    Foremost holds priority as a ↔ Foremost holds priority as' a := by
  have among {xs : List α} (b : α) : b ∈ xs ∧ holds b = true ↔
      b ∈ xs.filter fun c => holds c && decide (priority c = priority b) := by
    simp [List.mem_filter]
  rw [foremost_iff_filter, foremost_iff_filter, ties]
  refine and_congr_right fun _ => forall_congr' fun b => ?_
  rw [← and_imp, ← and_imp, among, among, ties]

/-- Members that do not hold do not matter. -/
theorem ties_of_filter (same : as.filter holds = as'.filter holds) (p : Int) :
    as.filter (fun b => holds b && decide (priority b = p)) =
      as'.filter fun b => holds b && decide (priority b = p) := by
  have first (xs : List α) : xs.filter (fun b => holds b && decide (priority b = p)) =
      (xs.filter holds).filter fun b => decide (priority b = p) := by
    rw [List.filter_filter]
    exact List.filter_congr fun b _ => Bool.and_comm _ _
  rw [first, first, same]

/-- Members of different priorities may stand in any order. -/
theorem ties_of_perm (perm : as.Perm as') (apart : (as.map priority).Nodup) (p : Int) :
    as.filter (fun b => holds b && decide (priority b = p)) =
      as'.filter fun b => holds b && decide (priority b = p) := by
  have moved := perm.filter fun b => holds b && decide (priority b = p)
  have distinct := apart.sublist ((List.filter_sublist
    (p := fun b => holds b && decide (priority b = p))).map priority)
  have tied : ∀ b ∈ as.filter (fun b => holds b && decide (priority b = p)), priority b = p :=
    fun b member => of_decide_eq_true (Bool.and_eq_true_iff.mp (List.mem_filter.mp member).2).2
  revert moved distinct tied
  generalize as.filter (fun b => holds b && decide (priority b = p)) = left
  intro moved distinct tied
  match left with
  | [] => exact (List.nil_perm.mp moved).symm
  | [b] => exact List.singleton_perm.mp moved
  | b :: b' :: rest =>
    have same : priority b = priority b' := by
      rw [tied b (by simp), tied b' (by simp)]
    simp [same] at distinct

/-- What corresponds to a foremost member is foremost. -/
theorem Foremost.of_forall₂ {holds' : β → Bool} {priority' : β → Int} {R : α → β → Prop}
    {bs : List β} (related : List.Forall₂ R as bs)
    (alike : ∀ a b, R a b → holds a = holds' b ∧ priority a = priority' b)
    (foremost : Foremost holds priority as a) :
    ∃ b, R a b ∧ Foremost holds' priority' bs b := by
  induction related with
  | nil => cases foremost.mem
  | @cons x y xs ys first others ih =>
    obtain ⟨sameTruth, samePriority⟩ := alike x y first
    rcases foremost_cons_iff.mp foremost with ⟨rfl, isTrue, greatest⟩ | ⟨inRest, lower⟩
    · refine ⟨y, first, foremost_cons_iff.mpr (Or.inl ⟨rfl, sameTruth ▸ isTrue, ?_⟩)⟩
      intro b member holdsToo
      obtain ⟨c, isMember, partner⟩ := exists_of_mem_right others member
      obtain ⟨sameTruth', samePriority'⟩ := alike c b partner
      rw [← samePriority, ← samePriority']
      exact greatest c isMember (sameTruth'.trans holdsToo)
    · obtain ⟨b, partner, isForemost⟩ := ih inRest
      refine ⟨b, partner, foremost_cons_iff.mpr (Or.inr ⟨isForemost, fun holdsToo => ?_⟩)⟩
      rw [← samePriority, ← (alike a b partner).2]
      exact lower (sameTruth.trans holdsToo)

end Foremost

/-- The condition that is declared holds on a value. -/
def RuleSpec.holdsOn (spec : RuleSpec) (v : Value) : Bool :=
  match Condition.ofValue spec.condition with
  | .ok condition => condition.holds v
  | .error _ => false

/-- The declaration is the first of greatest priority among those that hold on a value. -/
def Decides (specs : List RuleSpec) (v : Value) (spec : RuleSpec) : Prop :=
  Foremost (·.holdsOn v) RuleSpec.priority specs spec

namespace Catalog

variable {c c' : Catalog}

/-! ### Compiling declarations -/

theorem Grows.refl (c : Catalog) : Grows c c := fun _ _ kept => kept

theorem Grows.trans {c'' : Catalog} (first : Grows c c') (second : Grows c' c'') : Grows c c'' :=
  fun key s found => second key s (first key s found)

/-- Using a style keeps the style under its class. -/
theorem of_style {k : StyleClass} {s : Style} (used : Yields (style k) c s c') :
    c'.styles.get? k.key = some s ∧ Grows c c' := by
  unfold Yields style at used
  rw [run_once] at used
  split at used
  · rename_i kept found
    cases used
    exact ⟨found, fun _ _ => id⟩
  · rename_i missing
    obtain ⟨attempt, attempts, made⟩ := run_makeStyle k c
    rw [made] at used
    cases configured : k.configure (attempt + 1) with
    | error defect =>
      rw [configured] at used
      cases used
    | ok spec =>
      rw [configured] at used
      cases used
      refine ⟨?_, fun key s found => Cache.get?_publish_of_some found⟩
      show (Cache.publish _ _ _).2.get? k.key = some ((c.styles.get? k.key).getD _)
      rw [Cache.get?_publish, if_pos rfl]
      rfl

/-- Compiling gives the condition that is written, and touches no style. -/
theorem upholds_compile (styles : Cache ClassKey Style) (v : Value) :
    Upholds (fun c => KeepsChecked c ∧ c.styles = styles)
      (fun k => Condition.ofValue v = .ok k.value) (compile v) := by
  have anew := upholds_compileAnew (I := fun c => KeepsChecked c ∧ c.styles = styles)
    (fun c nextStamp before => ⟨before.1.congr rfl rfl rfl, before.2⟩) v
  unfold compile
  split
  · exact .throw _
  · split
    · rename_i source text
      refine upholds_once (fun c before k found => ?_) anew (fun _ => id) fun c k before written => ?_
      · exact (ofValue_eq_ok_iff text).mpr (before.1.conditions source k found)
      · refine ⟨⟨fun source' k' found => ?_, before.1.sheets, before.1.splits⟩, before.2⟩
        rcases Cache.of_get?_publish found with kept | ⟨rfl, rfl⟩
        · exact before.1.conditions source' k' kept
        · exact (ofValue_eq_ok_iff text).mp written
    · exact anew

/-- The computations that compile one condition, kept under its text or not. -/
def IsCompiler (compiler : Value → CatalogM (Stamped Condition)) : Prop :=
  compiler = compile ∨ compiler = compileAnew

theorem IsCompiler.upholds {compiler : Value → CatalogM (Stamped Condition)}
    (isCompiler : IsCompiler compiler) (styles : Cache ClassKey Style) (v : Value) :
    Upholds (fun c => KeepsChecked c ∧ c.styles = styles)
      (fun k => Condition.ofValue v = .ok k.value) (compiler v) := by
  rcases isCompiler with rfl | rfl
  · exact upholds_compile styles v
  · exact upholds_compileAnew (fun c _ before => ⟨before.1.congr rfl rfl rfl, before.2⟩) v

/-- A rule of the declared condition and priority, and of the style that the catalog keeps for the
declared class. -/
structure MadeFrom (c : Catalog) (spec : RuleSpec) (rule : StyleRule) : Prop where
  condition : Condition.ofValue spec.condition = .ok rule.condition
  style : c.styles.get? spec.style.key = some rule.style
  priority : rule.priority = spec.priority

theorem MadeFrom.mono {spec : RuleSpec} {rule : StyleRule} (made : MadeFrom c spec rule)
    (grows : Grows c c') : MadeFrom c' spec rule :=
  ⟨made.condition, grows _ _ made.style, made.priority⟩

theorem MadeFrom.holdsOn {spec : RuleSpec} {rule : StyleRule} (made : MadeFrom c spec rule)
    (v : Value) : spec.holdsOn v = rule.condition.holds v := by
  rw [RuleSpec.holdsOn, made.condition]

section Compiled

variable {compiler : Value → CatalogM (Stamped Condition)} {specs : List RuleSpec}
  {rules : List StyleRule}

/-- One declaration is compiled to a rule. -/
theorem of_compileRule {spec : RuleSpec} {rule : StyleRule} (isCompiler : IsCompiler compiler)
    (keeps : KeepsChecked c)
    (compiled : Yields (do
      let condition ← compiler spec.condition
      let chosen ← style spec.style
      return (⟨condition.value, chosen, spec.priority⟩ : StyleRule)) c rule c') :
    KeepsChecked c' ∧ Grows c c' ∧ MadeFrom c' spec rule := by
  obtain ⟨k, c₂, conditioned, onward⟩ := yields_bind_iff.mp compiled
  obtain ⟨s, c₃, styled, last⟩ := yields_bind_iff.mp onward
  obtain ⟨rfl, rfl⟩ := yields_pure_iff.mp last
  obtain ⟨⟨keeps₂, sameStyles⟩, written⟩ :=
    (isCompiler.upholds c.styles spec.condition).of_yields ⟨keeps, rfl⟩ conditioned
  obtain ⟨kept, grows⟩ := of_style styled
  obtain ⟨keeps', -⟩ := (lasting_keepsChecked.style spec.style).of_yields keeps₂ styled
  refine ⟨keeps', fun key s' found => grows key s' ?_, written, kept, rfl⟩
  rw [sameStyles]
  exact found

/-- **Every declaration is compiled to a rule**, and the rules are sorted. -/
theorem of_compileRules (isCompiler : IsCompiler compiler) (keeps : KeepsChecked c)
    (compiled : Yields (compileRules compiler specs) c rules c') :
    KeepsChecked c' ∧ Grows c c' ∧
      ∃ made, rules = inEvaluationOrder made ∧ List.Forall₂ (MadeFrom c') specs made := by
  obtain ⟨made, c₁, mapped, sorted⟩ := yields_bind_iff.mp compiled
  obtain ⟨rfl, rfl⟩ := yields_pure_iff.mp sorted
  obtain ⟨keeps', grows, all⟩ := forall₂_of_yields_mapM (R := MadeFrom)
    Grows.refl (fun _ _ _ => Grows.trans) (fun _ _ _ _ grows isMade => isMade.mono grows)
    (fun spec c rule c' => of_compileRule isCompiler) keeps mapped
  exact ⟨keeps', grows, made, rfl, all⟩

/-- A style can be used if it can be configured. -/
theorem exists_yields_style {k : StyleClass}
    (configured : ∀ attempt, ∃ s, k.configure attempt = .ok s) (c : Catalog) :
    ∃ s c', Yields (style k) c s c' := by
  obtain ⟨attempt, attempts, made⟩ := run_makeStyle k c
  obtain ⟨isConfigured, same⟩ := configured (attempt + 1)
  rw [same] at made
  exact exists_yields_once styleShelf _ made

/-- Declarations compile if their conditions are written right and their styles can be configured. -/
theorem exists_yields_compileRules
    (written : ∀ spec ∈ specs, ∃ condition, Condition.ofValue spec.condition = .ok condition)
    (configured : ∀ spec ∈ specs, ∀ attempt, ∃ s, spec.style.configure attempt = .ok s)
    (c : Catalog) : ∃ rules c', Yields (compileRules compile specs) c rules c' := by
  suffices all : ∃ made c', Yields (specs.mapM fun spec => do
      let condition ← compile spec.condition
      let chosen ← style spec.style
      return (⟨condition.value, chosen, spec.priority⟩ : StyleRule)) c made c' by
    obtain ⟨made, c', mapped⟩ := all
    exact ⟨_, c', mapped.bind (.pure _ _)⟩
  induction specs generalizing c with
  | nil => exact ⟨[], c, .pure _ _⟩
  | cons spec specs ih =>
    obtain ⟨condition, isWritten⟩ := written spec List.mem_cons_self
    obtain ⟨k, c₁, conditioned⟩ : ∃ k c₁, Yields (compile spec.condition) c k c₁ := by
      have anew : Yields (compileAnew spec.condition) c ⟨c.nextStamp, condition⟩
          { c with nextStamp := c.nextStamp + 1 } := by
        rw [Yields, run_compileAnew, isWritten]
      unfold compile
      split
      · rename_i unusable
        rw [unusable] at isWritten
        cases isWritten
      · split
        · exact exists_yields_once conditionShelf _ anew
        · exact ⟨_, _, anew⟩
    obtain ⟨s, c₂, styled⟩ := exists_yields_style (configured spec List.mem_cons_self) c₁
    obtain ⟨rest, c₃, others⟩ := ih
      (fun spec' member => written spec' (List.mem_cons_of_mem _ member))
      (fun spec' member => configured spec' (List.mem_cons_of_mem _ member)) c₂
    refine ⟨⟨k.value, s, spec.priority⟩ :: rest, c₃,
      yields_mapM_cons_iff.mpr ⟨_, c₂, rest, rfl, ?_, others⟩⟩
    exact conditioned.bind (styled.bind (.pure _ _))

/-! ### Choosing a style -/

/-- The rule that is foremost on a value chooses the style. -/
theorem selectStyle_of_foremost {v : Value} {rule : StyleRule}
    (foremost : Foremost (fun r : StyleRule => r.condition.holds v) StyleRule.priority rules rule)
    (base : Style) : selectStyle (inEvaluationOrder rules) base v = rule.style := by
  rw [selectStyle, inEvaluationOrder, find?_sorted_iff.mpr foremost]

/-- The base style is chosen where no rule holds. -/
theorem selectStyle_of_none {v : Value} (none : ∀ rule ∈ rules, rule.condition.holds v = false)
    (base : Style) : selectStyle (inEvaluationOrder rules) base v = base := by
  have missing : (inEvaluationOrder rules).find? (·.condition.holds v) = Option.none := by
    refine List.find?_eq_none.mpr fun rule member => ?_
    rw [none rule (List.mem_mergeSort.mp member)]
    exact Bool.false_ne_true
  rw [selectStyle, missing]

variable {v : Value}

/-- The deciding declaration chooses the style that is kept for its class. -/
theorem selectStyle_of_decides (made : List.Forall₂ (MadeFrom c) specs rules) {spec : RuleSpec}
    (decides : Decides specs v spec) : ∃ s, c.styles.get? spec.style.key = some s ∧
      ∀ base, selectStyle (inEvaluationOrder rules) base v = s := by
  obtain ⟨rule, isMade, foremost⟩ := decides.of_forall₂ made
    fun spec rule isMade => ⟨isMade.holdsOn v, isMade.priority.symm⟩
  exact ⟨rule.style, isMade.style, selectStyle_of_foremost foremost⟩

/-- Where no declaration holds, no rule does. -/
theorem selectStyle_of_noneHolds (made : List.Forall₂ (MadeFrom c) specs rules)
    (none : ∀ spec ∈ specs, spec.holdsOn v = false) (base : Style) :
    selectStyle (inEvaluationOrder rules) base v = base := by
  refine selectStyle_of_none (fun rule member => ?_) base
  obtain ⟨spec, isSpec, isMade⟩ := exists_of_mem_right made member
  rw [← isMade.holdsOn v, none spec isSpec]

/-- No style is the base style of all. -/
theorem exists_ne_style (s : Style) : ∃ base : Style, s ≠ base := by
  refine ⟨{ s with stamp := s.stamp + 1 }, fun same => ?_⟩
  exact absurd (congrArg Style.stamp same) (Nat.ne_of_lt (Nat.lt_succ_self _))

/-- Declarations of one list that matter for another: those that do not hold on the value were
added, removed or moved, or declarations of different priorities were moved. -/
def Reordered (v : Value) (specs specs' : List RuleSpec) : Prop :=
  specs.filter (·.holdsOn v) = specs'.filter (·.holdsOn v) ∨
    (specs.Perm specs' ∧ (specs.map RuleSpec.priority).Nodup)

theorem Reordered.decides_iff {specs' : List RuleSpec} (reordered : Reordered v specs specs')
    (spec : RuleSpec) : Decides specs v spec ↔ Decides specs' v spec := by
  rcases reordered with same | ⟨perm, apart⟩
  · exact foremost_congr (ties_of_filter same)
  · exact foremost_congr (ties_of_perm perm apart)

theorem existsUnique_decides (someHolds : ∃ spec ∈ specs, spec.holdsOn v = true) :
    ∃! spec, Decides specs v spec := by
  obtain ⟨spec, decides⟩ := exists_foremost_iff.mpr someHolds
  exact ⟨spec, decides, fun spec' decides' => Foremost.unique decides' decides⟩

/-- A declaration that held would have one that decides, in both lists. -/
theorem Reordered.noneHolds {specs' : List RuleSpec} (reordered : Reordered v specs specs')
    (none : ∀ spec ∈ specs, spec.holdsOn v = false) : ∀ spec ∈ specs', spec.holdsOn v = false := by
  intro spec member
  by_contra holds
  obtain ⟨decider, decides', -⟩ :=
    existsUnique_decides ⟨spec, member, Bool.eq_true_of_not_eq_false holds⟩
  have decides := (reordered.decides_iff decider).mpr decides'
  exact Bool.false_ne_true ((none decider decides.mem).symm.trans decides.isTrue)

/-- **The first of the declarations of greatest priority that hold on a value chooses the style.**
The base style is chosen just when none holds, and declarations that do not hold or are reordered
without ties do not change the choice. -/
theorem selectStyle_of_compileRules (reachable : Reachable c) (isCompiler : IsCompiler compiler)
    (compiled : Yields (compileRules compiler specs) c rules c') (v : Value) :
    ((∃ spec ∈ specs, spec.holdsOn v = true) → ∃! spec, Decides specs v spec) ∧
    (∀ spec, Decides specs v spec → ∃ s, c'.styles.get? spec.style.key = some s ∧
      ∀ base, selectStyle rules base v = s) ∧
    ((∀ spec ∈ specs, spec.holdsOn v = false) ↔ ∀ base, selectStyle rules base v = base) ∧
    ∀ specs', Reordered v specs specs' →
      (∀ spec, Decides specs v spec ↔ Decides specs' v spec) ∧
      ∀ compiler' d rules' d', IsCompiler compiler' → KeepsChecked d → Grows c' d →
        Yields (compileRules compiler' specs') d rules' d' →
        ∀ base, selectStyle rules' base v = selectStyle rules base v := by
  obtain ⟨-, -, sorted, rfl, made⟩ :=
    of_compileRules isCompiler (checked_of_reachable reachable) compiled
  refine ⟨existsUnique_decides, fun spec decides => selectStyle_of_decides made decides, ?_, ?_⟩
  · refine ⟨fun none => selectStyle_of_noneHolds made none, fun isBase spec member => ?_⟩
    by_contra someHolds
    obtain ⟨decider, decides, -⟩ :=
      existsUnique_decides ⟨spec, member, Bool.eq_true_of_not_eq_false someHolds⟩
    obtain ⟨s, -, chosen⟩ := selectStyle_of_decides made decides
    obtain ⟨base, other⟩ := exists_ne_style s
    exact other ((chosen base).symm.trans (isBase base))
  · intro specs' reordered
    refine ⟨reordered.decides_iff, fun compiler' d rules' d' isCompiler' keeps grows compiled' => ?_⟩
    intro base
    obtain ⟨-, grows', sorted', rfl, made'⟩ := of_compileRules isCompiler' keeps compiled'
    by_cases someHolds : ∃ spec ∈ specs, spec.holdsOn v = true
    · obtain ⟨spec, decides, -⟩ := existsUnique_decides someHolds
      obtain ⟨s, kept, chosen⟩ := selectStyle_of_decides made decides
      obtain ⟨s', kept', chosen'⟩ :=
        selectStyle_of_decides made' ((reordered.decides_iff spec).mp decides)
      have same := (grows' _ _ (grows _ _ kept)).symm.trans kept'
      rw [chosen, chosen', Option.some.inj same]
    · have none : ∀ spec ∈ specs, spec.holdsOn v = false := fun spec member =>
        Bool.eq_false_of_not_eq_true fun holds => someHolds ⟨spec, member, holds⟩
      rw [selectStyle_of_noneHolds made none,
        selectStyle_of_noneHolds made' (reordered.noneHolds none)]

end Compiled

/-! ### Declarations of equal and of negative priority -/

/-- A declaration whose condition is a property. -/
def propertyRule (property : Condition.Property) (k : StyleClass) (priority : Int) : RuleSpec :=
  ⟨.text (Condition.Tree.test (.has property)).text, k, priority⟩

theorem ofValue_propertyRule (property : Condition.Property) (k : StyleClass) (priority : Int) :
    Condition.ofValue (propertyRule property k priority).condition =
      .ok ⟨(Condition.Tree.test (.has property)).text, .test (.has property)⟩ :=
  (ofValue_eq_ok_iff rfl).mpr (Condition.parse_text_of_noNumbers trivial rfl)

theorem holdsOn_propertyRule (property : Condition.Property) (k : StyleClass) (priority : Int)
    (v : Value) : (propertyRule property k priority).holdsOn v = property.holds v := by
  rw [RuleSpec.holdsOn, ofValue_propertyRule]
  rfl

/-- The first declaration does not hold on a number; the next two do, and tie. -/
def tiedRules : List RuleSpec :=
  [propertyRule .isEmpty .header 9, propertyRule .isPositive .column 5,
    propertyRule .isNotNull .number 5, propertyRule .isNotEmpty .plain (-1)]

/-- The earlier of two tied declarations chooses the style. -/
theorem selectStyle_of_compileRules_sample :
    ∃ rules c', Yields (compileRules compile tiedRules) .empty rules c' ∧
      Decides tiedRules (.int 3) (propertyRule .isPositive .column 5) ∧
      ∃ s, c'.styles.get? StyleClass.column.key = some s ∧
        ∀ base, selectStyle rules base (.int 3) = s := by
  have written : ∀ spec ∈ tiedRules, ∃ k, Condition.ofValue spec.condition = .ok k := by
    simp only [tiedRules, List.forall_mem_cons, ofValue_propertyRule]
    exact ⟨⟨_, rfl⟩, ⟨_, rfl⟩, ⟨_, rfl⟩, ⟨_, rfl⟩, List.forall_mem_nil _⟩
  have configured : ∀ spec ∈ tiedRules, ∀ attempt, ∃ s, spec.style.configure attempt = .ok s := by
    simp only [tiedRules, List.forall_mem_cons]
    exact ⟨fun _ => ⟨_, rfl⟩, fun _ => ⟨_, rfl⟩, fun _ => ⟨_, rfl⟩, fun _ => ⟨_, rfl⟩,
      List.forall_mem_nil _⟩
  obtain ⟨rules, c', compiled⟩ := exists_yields_compileRules written configured .empty
  have decides : Decides tiedRules (.int 3) (propertyRule .isPositive .column 5) := by
    refine ⟨?_, [propertyRule .isEmpty .header 9], _, rfl, ?_, ?_⟩
    · rw [holdsOn_propertyRule]
      decide +kernel
    · simp only [List.forall_mem_singleton, holdsOn_propertyRule]
      decide +kernel
    · simp [propertyRule]
  exact ⟨rules, c', compiled, decides,
    (selectStyle_of_compileRules .empty (Or.inl rfl) compiled (.int 3)).2.1 _ decides⟩

end Catalog

end SheetExport
