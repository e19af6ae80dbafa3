/-
**Grouping by a key, in the order of first encounter.**

* `distinct_nodup`, `mem_distinct`: the distinct keys are those of the list, each once.
-/

namespace SheetExport

/-- The different elements of a list, in the order of their first occurrence. -/
def distinct {κ : Type} [DecidableEq κ] : List κ → List κ
  | [] => []
  | k :: rest => k :: (distinct rest).filter (· ≠ k)

/-- The elements of a list by key, in the order of first encounter of the keys. -/
def groupBy {α κ : Type} [DecidableEq κ] (key : α → κ) (xs : List α) : List (κ × List α) :=
  (distinct (xs.map key)).map fun k => (k, xs.filter (key · = k))

theorem mem_distinct {κ : Type} [DecidableEq κ] {k : κ} {ks : List κ} :
    k ∈ distinct ks ↔ k ∈ ks := by
  induction ks with
  | nil => rfl
  | cons first rest ih =>
    by_cases same : k = first
    · simp [distinct, same]
    · simp [distinct, ih, same]

theorem distinct_nodup {κ : Type} [DecidableEq κ] (ks : List κ) : (distinct ks).Nodup := by
  induction ks with
  | nil => exact List.nodup_nil
  | cons first rest ih =>
    exact List.nodup_cons.mpr ⟨by simp, ih.filter _⟩

end SheetExport
