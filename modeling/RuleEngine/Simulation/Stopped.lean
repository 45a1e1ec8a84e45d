import RuleEngine.Simulation.Execution

set_option autoImplicit false

/-! # A stop is for good

Whatever happens in a simulated world, an operator that has been stopped stays so. -/

namespace RuleEngine

namespace Operator

theorem isStopped_foldl_signal (entries : List (Nat × Tracked)) (o : Operator) :
    (entries.foldl (fun o e => o.signal e.1) o).isStopped = o.isStopped := by
  induction entries generalizing o with
  | nil => rfl
  | cons e es ih => exact ih (o.signal e.1)

/-- After a stop the operator is stopped. -/
theorem isStopped_stop (o : Operator) : o.stop.2.isStopped = true := by
  unfold stop markStopped
  by_cases h : o.isStopped = true
  · rw [if_pos h]
    exact h
  · rw [if_neg h]
    show (Operator.signalAll { o with lifecycle := .stopped }).2.isStopped = true
    unfold signalAll
    rw [isStopped_foldl_signal]
    rfl

end Operator

namespace World

def isStopped (w : World) : Bool := w.operator.isStopped

variable {w : World}

/-! ## What happens at once -/

theorem operator_emitAll (w : World) (ns : List Notice) : (w.emitAll ns).operator = w.operator := by
  unfold emitAll
  induction ns generalizing w with
  | nil => rfl
  | cons n ns ih => exact ih (w.emit n)

theorem isStopped_stopOperator (w : World) : w.stopOperator.isStopped = true := by
  unfold isStopped stopOperator
  rw [operator_emitAll]
  exact w.operator.isStopped_stop

theorem operator_foldl_setFact (writes : List (String × Json)) (w : World) :
    (writes.foldl (fun w (key, value) => w.setFact key value) w).operator = w.operator := by
  induction writes generalizing w with
  | nil => rfl
  | cons e es ih => exact ih (w.setFact e.1 e.2)

theorem isStopped_react (r : Reaction) (h : w.isStopped = true) : (w.react r).isStopped = true := by
  unfold react isStopped
  dsimp only
  rw [operator_foldl_setFact]
  by_cases hstop : r.stop = true
  · rw [if_pos hstop]
    split <;> exact w.isStopped_stopOperator
  · rw [if_neg hstop]
    split <;> exact h

theorem isStopped_conclude (e : Execution) (c : Completion) (h : w.isStopped = true) :
    (w.conclude e c).isStopped = true := by
  unfold conclude
  split
  · exact h
  · unfold isStopped
    rw [operator_emitAll]
    exact h

/-! ## What goes on -/

theorem isStopped_endTask (target : String) (h : w.isStopped = true) :
    (w.endTask target).isStopped = true := by
  unfold endTask
  dsimp only
  unfold isStopped
  rw [operator_emitAll]
  exact isStopped_react _ h

theorem isStopped_runLaneFor (steps : Nat) (h : w.isStopped = true) :
    (w.runLaneFor steps).isStopped = true := by
  induction steps generalizing w with
  | zero => exact h
  | succ steps ih =>
      unfold runLaneFor
      split
      · dsimp only
        split
        · exact ih (isStopped_endTask _ h)
        · exact h
      · exact h

theorem isStopped_runLane (h : w.isStopped = true) : w.runLane.isStopped = true :=
  isStopped_runLaneFor _ h

theorem isStopped_resume (e : Execution) (task : Nat) (key : String) (h : w.isStopped = true) :
    (w.resume e task key).isStopped = true := by
  unfold resume
  dsimp only
  split
  · exact h
  · exact isStopped_conclude _ _ h
  · exact isStopped_conclude _ _ h
  · exact isStopped_conclude _ _ h

theorem isStopped_goOn (a : Activity) (h : w.isStopped = true) : (w.goOn a).isStopped = true := by
  unfold goOn
  dsimp only
  split
  · exact isStopped_conclude _ _ (isStopped_react _ h)
  · exact isStopped_conclude _ _ h
  · exact isStopped_resume _ _ _ h

theorem isStopped_act (a : Actor) (h : w.isStopped = true) : (w.act a).isStopped = true := by
  cases a with
  | activity a => exact isStopped_goOn a h
  | lane target => exact isStopped_runLane (isStopped_endTask target h)

theorem isStopped_runFor (limit : Option Nat) (done : World → Bool) (steps : Nat)
    (h : w.isStopped = true) : (w.runFor limit done steps).isStopped = true := by
  induction steps generalizing w with
  | zero => exact h
  | succ steps ih =>
      unfold runFor
      split
      · exact h
      split
      · exact h
      split
      · exact h
      · exact ih (isStopped_act _ h)

/-! ## Executions -/

theorem isStopped_giveCommand (e : Execution) (c : Command) (h : w.isStopped = true) :
    (w.giveCommand e c).isStopped = true := by
  unfold giveCommand
  dsimp only
  split
  · exact isStopped_conclude _ _ (isStopped_react _ h)
  · exact h

theorem isStopped_submitTask (e : Execution) (target key : String) (h : w.isStopped = true) :
    (w.submitTask e target key).isStopped = true := by
  unfold submitTask
  split
  · exact isStopped_conclude _ _ h
  · exact isStopped_runFor _ _ _ (isStopped_runLane h)

theorem isStopped_begin (e : Execution) (effect : Effect) (h : w.isStopped = true) :
    (w.begin e effect).isStopped = true := by
  unfold World.begin
  split
  · exact isStopped_conclude _ _ h
  · exact isStopped_giveCommand _ _ h
  · split
    · exact isStopped_conclude _ _ h
    · exact h
  · exact isStopped_conclude _ _ h
  · exact isStopped_submitTask _ _ _ h

theorem isStopped_launch (dispatch : Nat) (c : Compiled) (caller : Caller)
    (h : w.isStopped = true) : (w.launch dispatch c caller).2.isStopped = true :=
  isStopped_begin _ _ h

theorem isStopped_execute (dispatch : Nat) (c : Compiled) (h : w.isStopped = true) :
    (w.execute dispatch c).2.isStopped = true :=
  isStopped_runFor _ _ _ (isStopped_launch dispatch c .waiting h)

end World

end RuleEngine
