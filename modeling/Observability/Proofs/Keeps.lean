import Observability.Collector

/-!
# What an action leaves alone

`Act.Keeps view action` says that a view of the collector is after the action what it was before, also if
the action crashed.  What is built of such actions is one itself.
-/

namespace Observability.Act

variable {α γ κ : Type}

/-- The action leaves this view of the collector as it is. -/
def Keeps (view : Collector → κ) (action : Act α) : Prop :=
  ∀ c, view (runOn action c).2 = view c

variable {view : Collector → κ}

theorem Keeps.after {action : Act α} (h : Keeps view action) {c after : Collector}
    {result : Except Crash α} (hrun : runOn action c = (result, after)) : view after = view c := by
  rw [← h c, hrun]

theorem Keeps.pure (a : α) : Keeps view (Pure.pure a) := fun _ => rfl

/-- Actions in sequence. -/
theorem Keeps.bind {action : Act α} {next : α → Act γ} (h : Keeps view action)
    (hnext : ∀ a, Keeps view (next a)) : Keeps view (action >>= next) := by
  intro c
  have hfirst := h c
  rw [runOn_bind]
  rcases hrun : runOn action c with ⟨crash | a, after⟩ <;> rw [hrun] at hfirst
  · exact hfirst
  · exact (hnext a after).trans hfirst

theorem Keeps.forM {call : γ → Act Unit} (h : ∀ a, Keeps view (call a)) (as : List γ) :
    Keeps view (ForM.forM as call) := by
  induction as with
  | nil => exact .pure _
  | cons a rest ih => exact .bind (h a) fun _ => ih

theorem Keeps.allM {query : γ → Act Bool} (h : ∀ a, Keeps view (query a)) (as : List γ) :
    Keeps view (as.allM query) := by
  induction as with
  | nil => exact .pure _
  | cons a rest ih =>
    refine .bind (h a) fun answer => ?_
    cases answer with
    | false => exact .pure _
    | true => exact ih

/-- A single step. -/
theorem Keeps.step {f : Collector → α × Collector} (h : ∀ c, view (f c).2 = view c) :
    Keeps view (Act.step f) := h

end Observability.Act
