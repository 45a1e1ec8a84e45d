import RuleEngine.Proofs.Lane.Order

set_option autoImplicit false

/-! # Which shutdowns wait

A call that shuts the lane down and waits asks for the worker, and only the first one that asks gets
it. This one returns when the worker has left, and then everything that was accepted has run. All
others return as soon as they have asked, whatever is left to do: waiting for a shutdown is safe for
one caller only (`returned_drained_or_at_once`).
-/

namespace RuleEngine

variable {ω α : Type}

/-- The worker has left, and every accepted task has run. -/
def IsDrained (es : List (LaneEvent ω α)) (s : LaneThreads ω α) : Prop :=
  s.lane.worker = .gone ∧ ∀ job ∈ sent es, ∃ ending, LaneEvent.finish job ending ∈ es

theorem isDrained_of_gone {es : List (LaneEvent ω α)} {s : LaneThreads ω α}
    (h : Run LaneStep {} es s) (hworker : s.lane.worker = .gone) : IsDrained es s := by
  obtain ⟨done, hdone⟩ := runsInOrder h
  have hqueue : s.lane.queue = [] := ((countersFit h).gone hworker).1
  exact ⟨hworker, hdone.drained hworker hqueue⟩

/-! ## Who gets the worker -/

/-- Nobody has asked while the worker can be joined, a call that waits for its end was the first one
that asked, and a call asks once. -/
structure WaitsFit (asked : List (Nat × Bool)) (w : Waiting) : Prop where
  joinable : w.joinable = true ↔ asked = []
  joining : ∀ caller, w.waits caller = .joining → asked.head? = some (caller, false)
  unasked : ∀ caller, w.waits caller = .absent ∨ w.waits caller = .asking →
    ∀ own, (caller, own) ∉ asked

namespace WaitsFit

variable {asked : List (Nat × Bool)} {w : Waiting} {caller : Nat}

/-- A call may go on in any way, unless it gets the worker or asks again. -/
theorem update {stage : WaitStage} (h : WaitsFit asked w) (caller : Nat)
    (hstage : stage ≠ .joining) (hearly : stage = .returned ∨ ∀ own, (caller, own) ∉ asked) :
    WaitsFit asked { w with waits := Function.update w.waits caller stage } := by
  refine ⟨h.joinable, fun other hother => ?_, fun other hother => ?_⟩
  · simp only [Function.update_apply] at hother
    by_cases heq : other = caller
    · exact absurd (by simpa [heq] using hother) hstage
    · exact h.joining other (by simpa [heq] using hother)
  · simp only [Function.update_apply] at hother
    by_cases heq : other = caller
    · rcases hearly with rfl | hunasked
      · simp [heq] at hother
      · exact heq ▸ hunasked
    · exact h.unasked other (by simpa [heq] using hother)

theorem ask {own : Bool} (h : WaitsFit asked w) (hasking : w.waits caller = .asking) :
    WaitsFit (asked ++ [(caller, own)])
      { joinable := false
        waits := Function.update w.waits caller
          (if w.joinable && !own then .joining else .returned) } := by
  refine ⟨by simp, fun other hother => ?_, fun other hother own' => ?_⟩
  · simp only [Function.update_apply] at hother
    by_cases heq : other = caller
    · -- it gets the worker if nobody has asked before
      have hgets : (w.joinable && !own) = true := by
        by_contra hnot
        simp [heq, hnot] at hother
      obtain ⟨hfirst, rfl⟩ : w.joinable = true ∧ own = false := by simpa using hgets
      rw [h.joinable.mp hfirst, heq]
      rfl
    · have hhead := h.joining other (by simpa [heq] using hother)
      rw [List.head?_append, hhead]
      rfl
  · simp only [Function.update_apply] at hother
    have hne : other ≠ caller := by
      rintro rfl
      by_cases hgets : (w.joinable && !own) = true <;> simp [hgets] at hother
    have hold := h.unasked other (by simpa [hne] using hother) own'
    simpa [hne] using hold

end WaitsFit

theorem waitsFit {es : List (LaneEvent ω α)} {s : LaneThreads ω α} (h : Run LaneStep {} es s) :
    WaitsFit (asked es) s.waiting := by
  induction h with
  | nil => constructor <;> simp [asked, LaneThreads.waiting]
  | @snoc es m t e hrun hstep ih =>
      have hwaits := hstep.waiting
      generalize m.waiting = w at ih hwaits
      generalize t.waiting = w' at hwaits
      rw [asked_snoc]
      cases hwaits with
      | @close caller habsent =>
          have hunasked := ih.unasked caller (.inl habsent)
          have hasks : WaitStage.asking ≠ .joining := by simp
          simpa [LaneEvent.asked?] using ih.update caller hasks (.inr hunasked)
      | ask hasking => exact ih.ask hasking
      | @join caller =>
          have hreturns : WaitStage.returned ≠ .joining := by simp
          simpa [LaneEvent.asked?] using ih.update caller hreturns (.inl rfl)
      | other hcaller => simpa [LaneEvent.asked?_eq_none hcaller] using ih

/-! ## Who waits -/

/-- A call that does not get the worker was not the first one, or runs on the worker's thread. -/
theorem WaitsFit.not_first {asked : List (Nat × Bool)} {w : Waiting} {caller : Nat} {own : Bool}
    (h : WaitsFit asked w) (hasking : w.waits caller = .asking)
    (hnot : ¬ (w.joinable && !own) = true) :
    (asked ++ [(caller, own)]).head? ≠ some (caller, false) := by
  intro hhead
  cases hasked : asked with
  | nil =>
      have hown : own = false := by simpa [hasked] using hhead
      exact hnot (by simp [h.joinable.mpr hasked, hown])
  | cons first rest =>
      have hfirst : first = (caller, false) := by simpa [hasked] using hhead
      exact h.unasked caller (.inr hasking) false (by simp [hasked, hfirst])

/-- The call that asked first, from another thread than the worker's, returns when everything that
was accepted has run; **every other call returns as soon as it asks**, and leaves the worker to
itself. -/
theorem returned_drained_or_at_once {es : List (LaneEvent ω α)} {s t : LaneThreads ω α}
    {e : LaneEvent ω α} (caller : Nat) (h : Run LaneStep {} es s) (hstep : LaneStep s e t)
    (hbefore : s.waits caller ≠ .returned) (hafter : t.waits caller = .returned) :
    if (asked (es ++ [e])).head? = some (caller, false) then IsDrained (es ++ [e]) t
    else ∃ own, e = .ask caller own ∧ t.lane = s.lane.takeWorker.2 := by
  have hfit := waitsFit h
  have hrun := h.snoc hstep
  cases hstep with
  | closeToWait other =>
      by_cases heq : caller = other
      · simp [heq] at hafter
      · exact absurd (by simpa [heq] using hafter) hbefore
  | ask other own hasking =>
      by_cases heq : caller = other
      · subst heq
        have hnot : ¬ (s.lane.joinable && !own) = true := by
          intro hgets
          simp [Lane.takeWorker, hgets] at hafter
        have hhead := hfit.not_first hasking hnot
        rw [if_neg (by simpa [LaneEvent.asked?] using hhead)]
        exact ⟨own, rfl, rfl⟩
      · exact absurd (by simpa [heq] using hafter) hbefore
  | join other hjoining hworker =>
      by_cases heq : caller = other
      · subst heq
        have hhead := hfit.joining caller hjoining
        rw [if_pos (by simpa [LaneEvent.asked?] using hhead)]
        exact isDrained_of_gone hrun hworker
      · exact absurd (by simpa [heq] using hafter) hbefore
  | _ => exact absurd hafter hbefore

/-- Two calls wait for a lane. The second one returns while the task in hand runs, the first one when
it has run. -/
theorem returned_of_two : ∃ (es : List (LaneEvent Nat Nat)) (s t : LaneThreads Nat Nat),
    Run LaneStep {} es s ∧ asked es = [(1, false), (2, false)] ∧ s.waits 2 = .returned ∧
      LaneStep s (.join 1) t ∧ IsDrained (es ++ [.join 1]) t := by
  have h1 : Run LaneStep ({} : LaneThreads Nat Nat) [] {} := .nil
  have h2 := (h1.snoc (.issue "a" 0)).snoc (.send (List.mem_singleton_self _) rfl)
  have h3 := (h2.snoc (.start rfl rfl)).snoc (.closeToWait 1 rfl)
  have h4 := (h3.snoc (.ask 1 false rfl)).snoc (.closeToWait 2 rfl)
  have h5 := h4.snoc (.ask 2 false rfl)
  have h6 := (h5.snoc (.finish (.value 7) rfl)).snoc (.count rfl)
  have h7 := (h6.snoc (.report .returned rfl)).snoc (.exit rfl rfl rfl)
  refine ⟨_, _, _, h7, rfl, rfl, .join 1 rfl rfl, ?_⟩
  exact returned_drained_or_at_once 1 h7 (.join 1 rfl rfl) (by decide) rfl

/-- The second of two calls returns while the task in hand still runs. -/
theorem not_isDrained_of_second : ¬ ∀ (es : List (LaneEvent Nat Nat)) (s : LaneThreads Nat Nat)
    (caller : Nat), Run LaneStep {} es s → (∀ call ∈ asked es, call.2 = false) →
      s.waits caller = .returned → IsDrained es s := by
  intro hall
  have h1 : Run LaneStep ({} : LaneThreads Nat Nat) [] {} := .nil
  have h2 := (h1.snoc (.issue "a" 0)).snoc (.send (List.mem_singleton_self _) rfl)
  have h3 := (h2.snoc (.start rfl rfl)).snoc (.closeToWait 1 rfl)
  have h4 := (h3.snoc (.ask 1 false rfl)).snoc (.closeToWait 2 rfl)
  have h5 := h4.snoc (.ask 2 false rfl)
  have hdrained := hall _ _ 2 h5 (by decide) rfl
  exact absurd hdrained.1 (by decide)

end RuleEngine
