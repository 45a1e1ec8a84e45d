import RuleEngine.Proofs.Operator.Threads

set_option autoImplicit false

/-! # No operation escapes a stop

A stop marks the operator, goes through the table and clears it, and dispatches enter the table, look
for the mark, and leave, in any order. An operation whose dispatch looks before the mark is set has
an entry that the stopping thread will come to, unless the dispatch takes it out behind the execution
(`IsCovered`); one whose dispatch looks later is told to stop by the dispatch itself. So everything
that is in the table at some time is told to stop, or is done before it could be
(`isReached`).

What is certain about one dispatch depends on the stage that it has come to (`DispatchFits`), and
only its own events and those of the stopping thread matter.
-/

namespace RuleEngine

/-! ## The table -/

/-- Nobody has begun to clear the table. -/
def StopStage.isBeforeClearing : StopStage → Bool
  | .idle | .marked | .telling _ | .through => true
  | .clearing _ | .cleared | .finished => false

/-- The table and the dispatches fit together. -/
structure TableFits (s : OperatorThreads) : Prop where
  number_lt : ∀ d, s.stage d ≠ .unborn → d < s.operator.nextDispatch
  live : ∀ d ∈ s.operator.dispatches, (s.stage d).isLive = true
  nodup : s.operator.dispatches.Nodup
  stopped : s.stopper ≠ .idle → s.operator.isStopped = true
  entered : ∀ d, s.stage d = .entered → s.stopper.isBeforeClearing = true →
    d ∈ s.operator.dispatches

theorem TableFits.idle_of_not_stopped {s : OperatorThreads} (h : TableFits s)
    (hstopped : s.operator.isStopped = false) : s.stopper = .idle := by
  by_contra hne
  exact absurd (h.stopped hne) (by simp [hstopped])

/-- A dispatch goes on, and leaves the entries of the others as they are. -/
theorem TableFits.advance {s : OperatorThreads} (h : TableFits s) {d : Nat} {stage : DispatchStage}
    {o : Operator} (hnumber : d < o.nextDispatch) (hnext : s.operator.nextDispatch ≤ o.nextDispatch)
    (hstopped : o.isStopped = s.operator.isStopped)
    (hothers : ∀ other, other ≠ d → (other ∈ o.dispatches ↔ other ∈ s.operator.dispatches))
    (hnodup : o.dispatches.Nodup) (hlive : d ∈ o.dispatches → stage.isLive = true)
    (hentered : stage = .entered → d ∈ o.dispatches) : TableFits (s.advance d stage o) := by
  refine ⟨fun other hother => ?_, fun other hother => ?_, hnodup, fun hidle => ?_,
    fun other hother hbefore => ?_⟩
  · by_cases heq : other = d
    · exact heq ▸ hnumber
    · have hborn : s.stage other ≠ .unborn := by
        simpa [heq] using hother
      exact Nat.lt_of_lt_of_le (h.number_lt other hborn) hnext
  · by_cases heq : other = d
    · subst heq
      simpa using hlive hother
    · simpa [heq] using h.live other ((hothers other heq).mp hother)
  · exact hstopped ▸ h.stopped hidle
  · by_cases heq : other = d
    · subst heq
      exact hentered (by simpa using hother)
    · have hold : s.stage other = .entered := by
        simpa [heq] using hother
      exact (hothers other heq).mpr (h.entered other hold hbefore)

/-- A dispatch takes its entry out of the table, or has none. -/
theorem TableFits.leave {s : OperatorThreads} (h : TableFits s) {d : Nat} {stage : DispatchStage}
    (hborn : s.stage d ≠ .unborn) (hstage : stage ≠ .entered) :
    TableFits (s.advance d stage (s.operator.leave d)) := by
  have hgone : d ∉ (s.operator.leave d).dispatches := by simp
  refine h.advance (h.number_lt d hborn) (Nat.le_refl _) rfl (fun other heq => ?_) ?_
    (fun hmem => absurd hmem hgone) (fun heq => absurd heq hstage)
  · simp [heq]
  · rw [Operator.dispatches_leave]
    exact h.nodup.filter _

/-- A dispatch goes on without touching the table. -/
theorem TableFits.go {s : OperatorThreads} (h : TableFits s) {d : Nat} {stage : DispatchStage}
    (hborn : s.stage d ≠ .unborn) (hlive : stage.isLive = true) (hstage : stage ≠ .entered) :
    TableFits (s.advance d stage s.operator) :=
  h.advance (h.number_lt d hborn) (Nat.le_refl _) rfl (fun _ _ => Iff.rfl) h.nodup (fun _ => hlive)
    (fun heq => absurd heq hstage)

/-- The stopping thread goes on, and keeps the entries as long as it does not clear the table. -/
theorem TableFits.goStop {s : OperatorThreads} (h : TableFits s) {o : Operator} {stopper : StopStage}
    (hnext : o.nextDispatch = s.operator.nextDispatch)
    (hsub : o.dispatches.Sublist s.operator.dispatches)
    (hstopped : stopper ≠ .idle → o.isStopped = true)
    (hkept : stopper.isBeforeClearing = true →
      s.stopper.isBeforeClearing = true ∧ o.dispatches = s.operator.dispatches) :
    TableFits { s with operator := o, stopper := stopper } := by
  refine ⟨fun d hd => ?_, fun d hd => h.live d (hsub.subset hd), h.nodup.sublist hsub, hstopped,
    fun d hd hbefore => ?_⟩
  · rw [hnext]
    exact h.number_lt d hd
  · obtain ⟨hold, hsame⟩ := hkept hbefore
    rw [hsame]
    exact h.entered d hd hold

theorem TableFits.step {s t : OperatorThreads} {e : OperatorEvent} (h : TableFits s)
    (hstep : OperatorStep s e t) : TableFits t := by
  cases hstep with
  | take =>
      have hnew : s.operator.nextDispatch ∉ s.operator.dispatches := by
        intro hmem
        have hlive := h.live _ hmem
        have hborn : s.stage s.operator.nextDispatch ≠ .unborn := by
          intro hunborn
          simp [hunborn, DispatchStage.isLive] at hlive
        exact absurd (h.number_lt _ hborn) (Nat.lt_irrefl _)
      exact h.advance (Nat.lt_succ_self _) (Nat.le_succ _) rfl (fun _ _ => Iff.rfl) h.nodup
        (fun hmem => absurd hmem hnew) nofun
  | enter d tracked hstage =>
      have hnew : d ∉ s.operator.dispatches := by
        intro hmem
        have hlive := h.live d hmem
        simp [hstage, DispatchStage.isLive] at hlive
      have hborn : s.stage d ≠ .unborn := by simp [hstage]
      refine h.advance (h.number_lt d hborn) (Nat.le_refl _) rfl (fun other heq => ?_) ?_
        (fun _ => rfl) (fun _ => by simp)
      · simp [heq]
      · simpa [List.nodup_append] using ⟨h.nodup, fun other hmem heq => hnew (heq ▸ hmem)⟩
  | check d hstage =>
      refine h.go (by simp [hstage]) ?_ ?_ <;> split <;> simp [DispatchStage.isLive]
  | tell d hstage =>
      have hborn : s.stage d ≠ .unborn := by simp [hstage]
      exact h.advance (h.number_lt d hborn) (Nat.le_refl _) rfl (fun _ _ => Iff.rfl) h.nodup
        (fun _ => rfl) nofun
  | withdraw d hstage => exact h.leave (by simp [hstage]) nofun
  | start d hstage => exact h.go (by simp [hstage]) rfl nofun
  | finish d hstage => exact h.go (by simp [hstage]) rfl nofun
  | leave d hstage => exact h.leave (by simp [hstage]) nofun
  | abandon d hstage => exact h.leave (by simp [hstage]) nofun
  | stop =>
      have hsame := s.operator.dispatches_markStopped
      refine h.goStop (by simp) (hsame ▸ List.Sublist.refl _)
        (fun _ => s.operator.isStopped_markStopped) fun hbefore => ⟨?_, hsame⟩
      cases hstopped : s.operator.isStopped with
      | true => simpa [Operator.markStopped_eq_none _ hstopped] using hbefore
      | false =>
          -- nobody has stopped the operator, so nobody clears the table
          simp [h.idle_of_not_stopped hstopped, StopStage.isBeforeClearing]
  | look hstopper =>
      have hstopped := h.stopped (by simp [hstopper])
      exact h.goStop rfl (List.Sublist.refl _) (fun _ => hstopped)
        fun _ => ⟨by simp [hstopper, StopStage.isBeforeClearing], rfl⟩
  | reach d hstopper =>
      have hstopped := h.stopped (by simp [hstopper])
      exact h.goStop rfl (List.Sublist.refl _) (fun _ => hstopped)
        fun _ => ⟨by simp [hstopper, StopStage.isBeforeClearing], rfl⟩
  | looked hstopper =>
      have hstopped := h.stopped (by simp [hstopper])
      exact h.goStop rfl (List.Sublist.refl _) (fun _ => hstopped)
        fun _ => ⟨by simp [hstopper, StopStage.isBeforeClearing], rfl⟩
  | wipe hstopper =>
      have hstopped := h.stopped (by simp [hstopper])
      exact h.goStop rfl (List.Sublist.refl _) (fun _ => hstopped) nofun
  | drop d hstopper =>
      have hstopped := h.stopped (by simp [hstopper])
      refine h.goStop rfl ?_ (fun _ => hstopped) ?_
      · simp
      · simp [hstopper, StopStage.isBeforeClearing]
  | wiped hstopper =>
      have hstopped := h.stopped (by simp [hstopper])
      exact h.goStop rfl (List.Sublist.refl _) (fun _ => hstopped) nofun
  | release hstopper =>
      have hstopped := h.stopped (by simp [hstopper])
      exact h.goStop rfl (List.Sublist.refl _) (fun _ => hstopped) nofun

/-! ## The stopping thread -/

/-- The stopping thread is sure to come to an entry that is there. -/
def StopStage.awaits (d : Nat) : StopStage → Prop
  | .idle | .marked => True
  | .telling todo => d ∈ todo
  | .through | .clearing _ | .cleared | .finished => False

/-- The stopping thread has been to all entries. -/
def StopStage.isThrough : StopStage → Bool
  | .through | .clearing _ | .cleared | .finished => true
  | .idle | .marked | .telling _ => false

/-- What the stopping thread has done. -/
structure StopFits (es : List OperatorEvent) (s : OperatorThreads) : Prop where
  looked : OperatorEvent.looked ∈ es ↔ s.stopper.isThrough = true
  reached : ∀ d, OperatorEvent.reach d ∈ es → s.operator.isSignalled d = true

theorem StopFits.step {es : List OperatorEvent} {s t : OperatorThreads} {e : OperatorEvent}
    (h : StopFits es s) (htable : TableFits s) (hstep : OperatorStep s e t) :
    StopFits (es ++ [e]) t := by
  refine ⟨?_, fun d hd => ?_⟩
  · have hlooked := h.looked
    cases hstep with
    | stop =>
        cases hstopped : s.operator.isStopped with
        | true => simpa [Operator.markStopped_eq_none _ hstopped] using hlooked
        | false =>
            have hidle := htable.idle_of_not_stopped hstopped
            simpa [Operator.markStopped_eq_some _ hstopped, hidle, StopStage.isThrough]
              using hlooked
    | looked => simp [StopStage.isThrough]
    | look hstopper | reach _ hstopper | wipe hstopper | drop _ hstopper | wiped hstopper
    | release hstopper =>
        simpa [hstopper, StopStage.isThrough] using hlooked
    | _ => simpa using hlooked
  · rcases List.mem_append.mp hd with hold | hlast
    · exact hstep.isSignalled (h.reached d hold)
    · obtain rfl := List.mem_singleton.mp hlast
      cases hstep with
      | reach => simp

/-! ## One dispatch -/

/-- The operation was told to stop, by the stopping thread, or by its own dispatch before its
execution began. -/
def IsTold (d : Nat) (es : List OperatorEvent) (o : Operator) : Prop :=
  o.isSignalled d = true ∧
    (OperatorEvent.reach d ∈ es ∨
      ∃ front back, es = front ++ .tell d :: back ∧ OperatorEvent.start d ∉ front)

/-- The dispatch left the table behind the execution, before the stopping thread came to its entry or
had been to all. -/
def LeftInTime (d : Nat) (es : List OperatorEvent) : Prop :=
  ∃ front back, es = front ++ .leave d :: back ∧ OperatorEvent.finish d ∈ front ∧
    OperatorEvent.reach d ∉ front ∧ OperatorEvent.looked ∉ front

/-- No thread was found for the operation, and it is not executed. -/
def IsAbandoned (d : Nat) (es : List OperatorEvent) : Prop :=
  OperatorEvent.abandon d ∈ es ∧ OperatorEvent.start d ∉ es

/-- The operation was told to stop, or the stopping thread will come to it. -/
def IsCovered (d : Nat) (es : List OperatorEvent) (s : OperatorThreads) : Prop :=
  IsTold d es s.operator ∨ d ∈ s.operator.dispatches ∧ s.stopper.awaits d

/-- What is certain about a dispatch at each of its stages. -/
def DispatchFits (d : Nat) (es : List OperatorEvent) (s : OperatorThreads) : Prop :=
  match s.stage d with
  | .unborn | .numbered | .entered | .late => OperatorEvent.start d ∉ es
  | .told => OperatorEvent.start d ∉ es ∧ IsTold d es s.operator
  | .ready => OperatorEvent.start d ∉ es ∧ IsCovered d es s
  | .executing => IsCovered d es s
  | .executed => OperatorEvent.finish d ∈ es ∧ IsCovered d es s
  | .ended => LeftInTime d es ∨ IsTold d es s.operator ∨ IsAbandoned d es

/-- The dispatch that takes its entry out of the table. -/
def OperatorEvent.leaving? : OperatorEvent → Option Nat
  | .withdraw d | .leave d | .abandon d => some d
  | _ => none

theorem IsTold.step {d : Nat} {es : List OperatorEvent} {s t : OperatorThreads} {e : OperatorEvent}
    (h : IsTold d es s.operator) (hstep : OperatorStep s e t) :
    IsTold d (es ++ [e]) t.operator := by
  obtain ⟨hsignalled, hhow⟩ := h
  refine ⟨hstep.isSignalled hsignalled, ?_⟩
  rcases hhow with hreach | ⟨front, back, rfl, hstart⟩
  · exact .inl (List.mem_append_left [e] hreach)
  · exact .inr ⟨front, back ++ [e], by simp, hstart⟩

theorem LeftInTime.snoc {d : Nat} {es : List OperatorEvent} (h : LeftInTime d es)
    (e : OperatorEvent) : LeftInTime d (es ++ [e]) := by
  obtain ⟨front, back, rfl, hfront⟩ := h
  exact ⟨front, back ++ [e], by simp, hfront⟩

/-- Only the dispatch itself can uncover its operation, by taking it out of the table. -/
theorem IsCovered.step {d : Nat} {es : List OperatorEvent} {s t : OperatorThreads}
    {e : OperatorEvent} (h : IsCovered d es s) (hstep : OperatorStep s e t)
    (hstays : e.leaving? ≠ some d) : IsCovered d (es ++ [e]) t := by
  rcases h with htold | ⟨hmem, hawaits⟩
  · exact .inl (htold.step hstep)
  cases hstep with
  | take => exact .inr ⟨hmem, hawaits⟩
  | enter => exact .inr ⟨by simp [hmem], hawaits⟩
  | check => exact .inr ⟨hmem, hawaits⟩
  | tell => exact .inr ⟨hmem, hawaits⟩
  | start => exact .inr ⟨hmem, hawaits⟩
  | finish => exact .inr ⟨hmem, hawaits⟩
  | withdraw | leave | abandon =>
      have hne : d ≠ _ := fun heq => hstays (congrArg some (Eq.symm heq))
      exact .inr ⟨by simp [hmem, hne], hawaits⟩
  | stop =>
      refine .inr ⟨by simpa using hmem, ?_⟩
      cases hstopped : s.operator.isStopped with
      | true => simpa [Operator.markStopped_eq_none _ hstopped] using hawaits
      | false => simp [Operator.markStopped_eq_some _ hstopped, StopStage.awaits]
  | look => exact .inr ⟨hmem, hmem⟩
  | @reach todo other hstopper =>
      by_cases heq : d = other
      · subst heq
        exact .inl ⟨by simp, .inl (by simp)⟩
      · have htodo : d ∈ todo := by simpa [hstopper, StopStage.awaits] using hawaits
        exact .inr ⟨hmem, by simpa [StopStage.awaits, heq] using htodo⟩
  | @looked todo hstopper hgone =>
      have htodo : d ∈ todo := by simpa [hstopper, StopStage.awaits] using hawaits
      exact absurd hmem (hgone d htodo)
  | wipe hstopper | drop _ hstopper | wiped hstopper | release hstopper =>
      simp [hstopper, StopStage.awaits] at hawaits

theorem DispatchFits.of_same_stage {d : Nat} {es : List OperatorEvent} {s t : OperatorThreads}
    {e : OperatorEvent} (h : DispatchFits d es s) (hstep : OperatorStep s e t)
    (hstage : t.stage d = s.stage d) : DispatchFits d (es ++ [e]) t := by
  have hstays : e.leaving? ≠ some d := by
    intro hleaving
    cases hstep with
    | withdraw other hother | leave other hother | abandon other hother =>
        obtain rfl : other = d := by simpa [OperatorEvent.leaving?] using hleaving
        simp [hother] at hstage
    | _ => simp [OperatorEvent.leaving?] at hleaving
  have hnostart : e ≠ .start d := by
    rintro rfl
    cases hstep with
    | start _ hready => simp [hready] at hstage
  unfold DispatchFits at h ⊢
  rw [hstage]
  have hunstarted : OperatorEvent.start d ∉ es → OperatorEvent.start d ∉ es ++ [e] := by
    intro hstart
    simpa [Ne.symm hnostart] using hstart
  cases hs : s.stage d <;> simp only [hs] at h ⊢
  case unborn | numbered | entered | late => exact hunstarted h
  case told => exact ⟨hunstarted h.1, h.2.step hstep⟩
  case ready => exact ⟨hunstarted h.1, h.2.step hstep hstays⟩
  case executing => exact h.step hstep hstays
  case executed => exact ⟨List.mem_append_left [e] h.1, h.2.step hstep hstays⟩
  case ended =>
    rcases h with hleft | htold | ⟨habandon, hstart⟩
    · exact .inl (hleft.snoc e)
    · exact .inr (.inl (htold.step hstep))
    · exact .inr (.inr ⟨List.mem_append_left [e] habandon, hunstarted hstart⟩)

/-- A dispatch whose entry is still there, and was not reached, leaves in time. -/
theorem IsCovered.leave {d : Nat} {es : List OperatorEvent} {s : OperatorThreads}
    (h : IsCovered d es s) (hstop : StopFits es s) (hfinish : OperatorEvent.finish d ∈ es) :
    IsTold d es s.operator ∨ LeftInTime d (es ++ [.leave d]) := by
  rcases h with htold | ⟨-, hawaits⟩
  · exact .inl htold
  · by_cases hreach : OperatorEvent.reach d ∈ es
    · exact .inl ⟨hstop.reached d hreach, .inl hreach⟩
    · have hlooked : OperatorEvent.looked ∉ es := by
        rw [hstop.looked]
        cases hs : s.stopper <;> simp_all [StopStage.awaits, StopStage.isThrough]
      exact .inr ⟨es, [], rfl, hfinish, hreach, hlooked⟩

theorem DispatchFits.step {d : Nat} {es : List OperatorEvent} {s t : OperatorThreads}
    {e : OperatorEvent} (h : DispatchFits d es s) (htable : TableFits s) (hstop : StopFits es s)
    (hstep : OperatorStep s e t) : DispatchFits d (es ++ [e]) t := by
  by_cases hstage : t.stage d = s.stage d
  · exact h.of_same_stage hstep hstage
  -- the event is one of the dispatch itself
  have hown : ∀ {other stage o}, (s.advance other stage o).stage d ≠ s.stage d → d = other :=
    fun hne => by
      by_contra heq
      exact hne (OperatorThreads.advance_stage_of_ne s _ _ _ heq)
  cases hstep with
  | take =>
      obtain rfl := hown hstage
      have hunborn : s.stage s.operator.nextDispatch = .unborn := by
        by_contra hborn
        exact absurd (htable.number_lt _ hborn) (Nat.lt_irrefl _)
      simp only [DispatchFits, Operator.takeDispatch, hunborn] at h
      simpa [DispatchFits, Operator.takeDispatch] using h
  | enter other _ hnumbered =>
      obtain rfl := hown hstage
      simp only [DispatchFits, hnumbered] at h
      simpa [DispatchFits] using h
  | check other hentered =>
      obtain rfl := hown hstage
      simp only [DispatchFits, hentered] at h
      simp only [DispatchFits, OperatorThreads.advance_stage_self]
      cases hstopped : s.operator.isStopped with
      | true => simpa using h
      | false =>
          -- the stopping thread has not begun, so it will come to the entry
          have hidle := htable.idle_of_not_stopped hstopped
          have hmem := htable.entered d hentered (by simp [hidle, StopStage.isBeforeClearing])
          exact ⟨by simpa using h, .inr ⟨hmem, by simp [hidle, StopStage.awaits]⟩⟩
  | tell other hlate =>
      obtain rfl := hown hstage
      simp only [DispatchFits, hlate] at h
      simp only [DispatchFits, OperatorThreads.advance_stage_self]
      exact ⟨by simpa using h, by simp, .inr ⟨es, [], rfl, h⟩⟩
  | withdraw other htold =>
      obtain rfl := hown hstage
      simp only [DispatchFits, htold] at h
      simp only [DispatchFits, OperatorThreads.advance_stage_self]
      exact ⟨by simpa using h.1, .inl (h.2.step (.withdraw d htold))⟩
  | start other hready =>
      obtain rfl := hown hstage
      simp only [DispatchFits, hready] at h
      simp only [DispatchFits, OperatorThreads.advance_stage_self]
      exact h.2.step (.start d hready) nofun
  | finish other hexecuting =>
      obtain rfl := hown hstage
      simp only [DispatchFits, hexecuting] at h
      simp only [DispatchFits, OperatorThreads.advance_stage_self]
      exact ⟨by simp, h.step (.finish d hexecuting) nofun⟩
  | leave other hexecuted =>
      obtain rfl := hown hstage
      simp only [DispatchFits, hexecuted] at h
      simp only [DispatchFits, OperatorThreads.advance_stage_self]
      rcases h.2.leave hstop h.1 with htold | hleft
      · exact .inr (.inl (htold.step (.leave d hexecuted)))
      · exact .inl hleft
  | abandon other hready =>
      obtain rfl := hown hstage
      simp only [DispatchFits, hready] at h
      simp only [DispatchFits, OperatorThreads.advance_stage_self]
      exact .inr (.inr ⟨by simp, by simpa using h.1⟩)
  | _ => exact absurd rfl hstage

/-! ## Runs -/

/-- An operator with an empty table, before anybody dispatches an operation or stops it. -/
def OperatorThreads.begin (o : Operator) : OperatorThreads := { operator := o }

section Runs

variable {o : Operator} {es : List OperatorEvent} {s : OperatorThreads}

theorem tableFits (ho : o.inFlight = []) (h : Run OperatorStep (.begin o) es s) : TableFits s := by
  induction h with
  | nil =>
      constructor <;> simp [OperatorThreads.begin, Operator.dispatches, ho]
  | snoc _ hstep ih => exact ih.step hstep

theorem stopFits (ho : o.inFlight = []) (h : Run OperatorStep (.begin o) es s) : StopFits es s := by
  induction h with
  | nil => constructor <;> simp [OperatorThreads.begin, StopStage.isThrough]
  | snoc hrun hstep ih => exact ih.step (tableFits ho hrun) hstep

theorem dispatchFits (ho : o.inFlight = []) (h : Run OperatorStep (.begin o) es s) (d : Nat) :
    DispatchFits d es s := by
  induction h with
  | nil => simp [DispatchFits, OperatorThreads.begin]
  | snoc hrun hstep ih => exact ih.step (tableFits ho hrun) (stopFits ho hrun) hstep

end Runs

/-- The operations that are dispatched are told to stop when the operator is, and the table is kept
in order. -/
structure IsReached (es : List OperatorEvent) (s : OperatorThreads) : Prop where
  /-- When the stopping thread has been to all entries, every operation whose dispatch has looked for
  a stop has left the table in time, or was told to stop. An operation that is not executed because
  no thread was found for it need not be told. -/
  reached : OperatorEvent.looked ∈ es → ∀ d, (s.stage d).isTracked = true → ¬ IsAbandoned d es →
    LeftInTime d es ∨ IsTold d es s.operator
  /-- An entry is made under a number that has none. -/
  fresh : ∀ d tracked t, OperatorStep s (.enter d tracked) t → d ∉ s.operator.dispatches
  /-- No two entries have one number. -/
  nodup : s.operator.dispatches.Nodup
  /-- When no dispatch is under way, the table is empty. -/
  empty : (∀ d, s.stage d = .unborn ∨ s.stage d = .ended) → s.operator.inFlight = []

/-- **No operation escapes a stop**, however dispatches and the stopping thread take turns. -/
theorem isReached {o : Operator} {es : List OperatorEvent} {s : OperatorThreads}
    (ho : o.inFlight = []) (h : Run OperatorStep (.begin o) es s) : IsReached es s := by
  have htable := tableFits ho h
  have hstop := stopFits ho h
  refine ⟨fun hlooked d htracked habandoned => ?_, fun d tracked t hstep hmem => ?_, htable.nodup,
    fun hover => ?_⟩
  · have hthrough := hstop.looked.mp hlooked
    have hcovered : IsCovered d es s → IsTold d es s.operator := by
      rintro (htold | ⟨-, hawaits⟩)
      · exact htold
      · cases hs : s.stopper <;> simp_all [StopStage.awaits, StopStage.isThrough]
    have hdispatch := dispatchFits ho h d
    unfold DispatchFits at hdispatch
    cases hs : s.stage d <;> simp only [hs] at hdispatch htracked
    case unborn | numbered | entered | late | told => cases htracked
    case ready => exact .inr (hcovered hdispatch.2)
    case executing => exact .inr (hcovered hdispatch)
    case executed => exact .inr (hcovered hdispatch.2)
    case ended =>
      rcases hdispatch with hleft | htold | habandon
      · exact .inl hleft
      · exact .inr htold
      · exact absurd habandon habandoned
  · have hlive := htable.live d hmem
    cases hstep with
    | enter _ _ hnumbered => simp [hnumbered, DispatchStage.isLive] at hlive
  · by_contra hne
    obtain ⟨entry, hentry⟩ := List.exists_mem_of_ne_nil _ hne
    have hlive := htable.live entry.1 (List.mem_map_of_mem hentry)
    rcases hover entry.1 with hunborn | hdone
    · simp [hunborn, DispatchStage.isLive] at hlive
    · simp [hdone, DispatchStage.isLive] at hlive

/-- One operation is executed while the operator is stopped, another one comes late. -/
theorem isReached_of_two : ∃ (o : Operator) (es : List OperatorEvent) (s : OperatorThreads),
    o.inFlight = [] ∧ OperatorEvent.looked ∈ es ∧ s.stage 1 = .ended ∧ s.stage 2 = .ended ∧
      s.stopper = .finished ∧ IsReached es s := by
  let o : Operator :=
    { store := ⟨⟨"rules", ["rules"]⟩⟩, registry := {}, subDir := "main", name := "demo",
      lifecycle := .running }
  have h1 : Run OperatorStep (.begin o) [] (.begin o) := .nil
  have h2 := (h1.snoc .take).snoc (.enter 1 ⟨"r", "wait"⟩ rfl)
  have h3 := (h2.snoc (.check 1 rfl)).snoc (.start 1 rfl)
  have h4 := (h3.snoc .stop).snoc (.look rfl)
  have h5 := (h4.snoc .take).snoc (.enter 2 ⟨"r", "press"⟩ rfl)
  have h6 := (h5.snoc (.reach 1 rfl (by decide))).snoc (.looked rfl (by decide))
  have h7 := (h6.snoc (.wipe rfl)).snoc (.drop 1 rfl (by decide))
  have h8 := (h7.snoc (.check 2 rfl)).snoc (.tell 2 rfl)
  have h9 := (h8.snoc (.withdraw 2 rfl)).snoc (.wiped rfl (by decide))
  have h10 := (h9.snoc (.release rfl)).snoc (.start 2 rfl)
  have h11 := (h10.snoc (.finish 2 rfl)).snoc (.leave 2 rfl)
  have h12 := (h11.snoc (.finish 1 rfl)).snoc (.leave 1 rfl)
  exact ⟨o, _, _, rfl, by decide, rfl, rfl, rfl, isReached rfl h12⟩

end RuleEngine
