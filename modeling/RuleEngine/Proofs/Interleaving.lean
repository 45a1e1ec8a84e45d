import Mathlib.Data.List.Induction

set_option autoImplicit false

/-! # Interleavings

Threads that share a state take turns in it. What one of them does without being interrupted is an
event, and an interleaving is a row of events. A machine says which events are possible in a state
and what they make of it; a run is a row of events that are possible one after the other.
-/

namespace RuleEngine

/-- The runs of a machine from a state: the events in order, and the state behind them. -/
inductive Run {σ ε : Type} (Step : σ → ε → σ → Prop) (s : σ) : List ε → σ → Prop
  | nil : Run Step s [] s
  | snoc {es : List ε} {m t : σ} {e : ε} :
      Run Step s es m → Step m e t → Run Step s (es ++ [e]) t

namespace Run

variable {σ ε : Type} {Step : σ → ε → σ → Prop} {s m t : σ} {es : List ε} {e : ε}

theorem eq_of_nil (h : Run Step s [] t) : t = s := by
  generalize hes : ([] : List ε) = es at h
  cases h with
  | nil => rfl
  | snoc => exact absurd hes (by simp)

theorem cases_snoc (h : Run Step s (es ++ [e]) t) : ∃ m, Run Step s es m ∧ Step m e t := by
  generalize hes : es ++ [e] = fs at h
  cases h with
  | nil => exact absurd hes (by simp)
  | snoc hrun hstep =>
      obtain ⟨rfl, hlast⟩ := List.append_inj' hes rfl
      obtain rfl : e = _ := by simpa using hlast
      exact ⟨_, hrun, hstep⟩

/-- Every event of a run is a step, from the state behind the events before it. -/
theorem split {front back : List ε} (h : Run Step s (front ++ e :: back) t) :
    ∃ m m', Run Step s front m ∧ Step m e m' := by
  induction back using List.reverseRecOn generalizing t with
  | nil =>
      obtain ⟨m, hrun, hstep⟩ := h.cases_snoc
      exact ⟨m, t, hrun, hstep⟩
  | append_singleton back _ ih =>
      rw [← List.cons_append, ← List.append_assoc] at h
      obtain ⟨_, hrun, -⟩ := h.cases_snoc
      exact ih hrun

/-- A run can be cut in two between any two of its events. -/
theorem cut {front back : List ε} (h : Run Step s (front ++ back) t) :
    ∃ m, Run Step s front m ∧ Run Step m back t := by
  induction back using List.reverseRecOn generalizing t with
  | nil =>
      rw [List.append_nil] at h
      exact ⟨t, h, .nil⟩
  | append_singleton back _ ih =>
      rw [← List.append_assoc] at h
      obtain ⟨_, hrun, hstep⟩ := h.cases_snoc
      obtain ⟨m, hfront, hback⟩ := ih hrun
      exact ⟨m, hfront, hback.snoc hstep⟩

theorem cases_cons (h : Run Step s (e :: es) t) : ∃ m, Step s e m ∧ Run Step m es t := by
  rw [← List.singleton_append] at h
  obtain ⟨m, hfirst, hrest⟩ := h.cut
  rw [← List.nil_append [e]] at hfirst
  obtain ⟨_, hnil, hstep⟩ := hfirst.cases_snoc
  obtain rfl := hnil.eq_of_nil
  exact ⟨m, hstep, hrest⟩

/-- What a run begins with can be chosen anew: runs go on from one another. -/
theorem append {fs : List ε} (h : Run Step s es m) (h' : Run Step m fs t) :
    Run Step s (es ++ fs) t := by
  induction h' with
  | nil => rwa [List.append_nil]
  | snoc _ hstep ih =>
      rw [← List.append_assoc]
      exact ih.snoc hstep

end Run

/-- There is a way on to a goal, with events of one kind only. -/
def CanReach {σ ε : Type} (Step : σ → ε → σ → Prop) (kind : ε → Prop) (goal : σ → Prop) (s : σ) :
    Prop :=
  ∃ es t, Run Step s es t ∧ (∀ e ∈ es, kind e) ∧ goal t

namespace CanReach

variable {σ ε : Type} {Step : σ → ε → σ → Prop} {kind : ε → Prop} {goal : σ → Prop} {s m : σ}
  {es : List ε} {e : ε}

theorem here (h : goal s) : CanReach Step kind goal s := ⟨[], s, .nil, nofun, h⟩

theorem of_run (h : Run Step s es m) (hes : ∀ e ∈ es, kind e) (hm : CanReach Step kind goal m) :
    CanReach Step kind goal s := by
  obtain ⟨fs, t, hrun, hfs, ht⟩ := hm
  refine ⟨es ++ fs, t, h.append hrun, fun e he => ?_, ht⟩
  exact (List.mem_append.1 he).elim (hes e) (hfs e)

theorem of_step (h : Step s e m) (he : kind e) (hm : CanReach Step kind goal m) :
    CanReach Step kind goal s :=
  of_run (Run.nil.snoc h) (fun _ hmem => List.mem_singleton.1 hmem ▸ he) hm

end CanReach

end RuleEngine
