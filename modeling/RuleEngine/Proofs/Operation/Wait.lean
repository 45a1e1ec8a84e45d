import RuleEngine.Proofs.Double.Duration
import RuleEngine.Proofs.Operation.Builtin
import RuleEngine.Proofs.Operator.TickThreads

set_option autoImplicit false

/-! # Waits

The execution of an operation, the clock, and others that tell the operation to stop
(`ClockedStep`). A wait finds its deadline first of all, and panics if the clock cannot represent it,
whatever the stop signal says. All other waits end as they should: at their deadline, or with the
answer to a stop, and at once if the stop came first (`keepsDeadline`). A number of milliseconds is
accepted up to 2^64 seconds, which is twice the range of the clock.
-/

namespace RuleEngine

/-! ## An execution, its stop signal and the clock -/

/-- An execution whose operation others can tell to stop. -/
structure ClockedExec where
  /-- The operation was told to stop. -/
  signalled : Bool
  /-- Nanoseconds since some moment. -/
  clock : Nat
  stage : ExecStage := .fresh

/-- What can happen while an operation is executed. -/
inductive ClockedEvent
  /-- Somebody tells the operation to stop. -/
  | stop
  | pass (now : Nat)
  | exec (e : ExecEvent)

/-- What one event makes of an execution. -/
inductive ClockedStep (c : Compiled) : ClockedExec → ClockedEvent → ClockedExec → Prop
  | stop {s : ClockedExec} : ClockedStep c s .stop { s with signalled := true }
  | pass {s : ClockedExec} {now : Nat} :
      s.clock ≤ now → ClockedStep c s (.pass now) { s with clock := now }
  | exec {s : ClockedExec} {e : ExecEvent} {stage : ExecStage} :
      ExecStep c s.signalled s.clock s.stage e stage →
      ClockedStep c s (.exec e) { s with stage := stage }

/-- The operation was told to stop before or in the course of a row of events. -/
def ClockedExec.WasTold (start : ClockedExec) (es : List ClockedEvent) : Prop :=
  start.signalled = true ∨ .stop ∈ es

theorem ClockedExec.WasTold.append {start : ClockedExec} {es : List ClockedEvent}
    (h : start.WasTold es) (fs : List ClockedEvent) : start.WasTold (es ++ fs) :=
  h.imp_right fun hmem => List.mem_append_left _ hmem

/-- The stop signal says whether somebody told the operation to stop. -/
theorem signalled_iff {c : Compiled} {start s : ClockedExec} {es : List ClockedEvent}
    (h : Run (ClockedStep c) start es s) : s.signalled = true ↔ start.WasTold es := by
  induction h with
  | nil => simp [ClockedExec.WasTold]
  | snoc _ hstep ih =>
      cases hstep with
      | stop => simp [ClockedExec.WasTold]
      | pass => simpa [ClockedExec.WasTold] using ih
      | exec => simpa [ClockedExec.WasTold] using ih

/-! ## How far a wait has come -/

/-- What has become of a wait after a row of events. Events `front` came before it was begun at the
moment `now`. -/
inductive SleepStage (operation : String) (duration : Duration) (start : ClockedExec)
    (front : List ClockedEvent) (now : Nat) (es : List ClockedEvent) (s : ClockedExec) : Prop
  /-- The clock cannot represent the deadline. -/
  | panicked :
      clockEnd ≤ now + duration.nanos → s.stage = .ended (.panicked deadlinePanic) →
      SleepStage operation duration start front now es s
  /-- The stop came first. -/
  | refused :
      now + duration.nanos < clockEnd → start.WasTold front →
      s.stage = .ended (.failed (.stopped operation)) →
      SleepStage operation duration start front now es s
  | sleeping :
      now + duration.nanos < clockEnd → ¬start.WasTold front →
      s.stage = .sleeping (now + duration.nanos) →
      SleepStage operation duration start front now es s
  /-- A stop cut it short. -/
  | cut :
      now + duration.nanos < clockEnd → ¬start.WasTold front → start.WasTold es →
      s.stage = .ended (.failed (.stopped operation)) →
      SleepStage operation duration start front now es s
  /-- It went on to its deadline. -/
  | slept :
      now + duration.nanos < clockEnd → ¬start.WasTold front → now + duration.nanos ≤ s.clock →
      s.stage = .ended .done →
      SleepStage operation duration start front now es s

/-- A wait has not been begun, or it was, once, and has come to one of its stages. -/
inductive SleepFits (operation : String) (duration : Duration) (start : ClockedExec)
    (es : List ClockedEvent) (s : ClockedExec) : Prop
  | fresh : s.stage = .fresh → SleepFits operation duration start es s
  | begun {front : List ClockedEvent} {now : Nat} {back : List ClockedEvent} :
      es = front ++ .exec (.begin now) :: back →
      SleepStage operation duration start front now es s →
      SleepFits operation duration start es s

section Runs

variable {d : Descriptor} {t : Duration} {start s m : ClockedExec} {es front : List ClockedEvent}
  {e : ClockedEvent} {now : Nat}

theorem sleepStage_begin (hsignalled : m.signalled = true ↔ start.WasTold es) :
    SleepStage d.name t start es m.clock (es ++ [.exec (.begin m.clock)])
      { m with stage := .ofBeginning ((Effect.wait t).begin d.name m.signalled m.clock) } := by
  by_cases hclock : clockEnd ≤ m.clock + t.nanos
  · refine .panicked hclock ?_
    simp [Effect.begin, hclock, ExecStage.ofBeginning]
  · have hlt : m.clock + t.nanos < clockEnd := Nat.lt_of_not_le hclock
    by_cases htold : m.signalled = true
    · refine .refused hlt (hsignalled.1 htold) ?_
      simp [Effect.begin, hclock, htold, ExecStage.ofBeginning]
    · refine .sleeping hlt (fun h => htold (hsignalled.2 h)) ?_
      simp [Effect.begin, hclock, htold, ExecStage.ofBeginning]

/-- What has ended stays as it has ended, and a sleeping wait wakes up at its deadline or for a stop. -/
theorem SleepStage.step (h : SleepStage d.name t start front now es m)
    (hsignalled : m.signalled = true ↔ start.WasTold es)
    (hstep : ClockedStep ⟨d, .wait t⟩ m e s) :
    SleepStage d.name t start front now (es ++ [e]) s := by
  cases hstep with
  | stop =>
      cases h with
      | panicked hclock hstage => exact .panicked hclock hstage
      | refused hclock htold hstage => exact .refused hclock htold hstage
      | sleeping hclock hnot hstage => exact .sleeping hclock hnot hstage
      | cut hclock hnot htold hstage => exact .cut hclock hnot (htold.append _) hstage
      | slept hclock hnot hdue hstage => exact .slept hclock hnot hdue hstage
  | pass hle =>
      cases h with
      | panicked hclock hstage => exact .panicked hclock hstage
      | refused hclock htold hstage => exact .refused hclock htold hstage
      | sleeping hclock hnot hstage => exact .sleeping hclock hnot hstage
      | cut hclock hnot htold hstage => exact .cut hclock hnot (htold.append _) hstage
      | slept hclock hnot hdue hstage => exact .slept hclock hnot (hdue.trans hle) hstage
  | @exec e stage hexec =>
      cases h with
      | panicked hclock hstage | refused hclock htold hstage | cut hclock hnot htold hstage
      | slept hclock hnot hdue hstage =>
          rw [hstage] at hexec
          cases hexec
      | sleeping hclock hnot hstage =>
          rw [hstage] at hexec
          cases hexec with
          | wake hwake =>
              by_cases htold : m.signalled = true
              · refine .cut hclock hnot ((hsignalled.1 htold).append _) ?_
                simp [Completion.ofSleep, htold, Compiled.name]
              · refine .slept hclock hnot (hwake.resolve_left htold) ?_
                simp [Completion.ofSleep, htold]

/-- **Every execution of a wait keeps to its stages.** -/
theorem sleepFits (hstart : start.stage = .fresh)
    (h : Run (ClockedStep ⟨d, .wait t⟩) start es s) : SleepFits d.name t start es s := by
  induction h with
  | nil => exact .fresh hstart
  | @snoc es m s e hrun hstep ih =>
      have hsignalled := signalled_iff hrun
      cases ih with
      | begun hes hstage =>
          refine .begun (by rw [hes, List.append_assoc, List.cons_append]) ?_
          exact hstage.step hsignalled hstep
      | fresh hfresh =>
          cases hstep with
          | stop => exact .fresh hfresh
          | pass => exact .fresh hfresh
          | exec hexec =>
              rw [hfresh] at hexec
              cases hexec with
              | begin => exact .begun rfl (sleepStage_begin hsignalled)

def ClockedExec.HasEnded (s : ClockedExec) : Prop := ∃ c, s.stage = .ended c

theorem canEnd_of_stage (h : SleepStage d.name t start front now es s) :
    CanReach (ClockedStep ⟨d, .wait t⟩) (· ≠ .stop) ClockedExec.HasEnded s := by
  cases h with
  | panicked _ hstage | refused _ _ hstage | cut _ _ _ hstage | slept _ _ _ hstage =>
      exact .here ⟨_, hstage⟩
  | sleeping hclock hnot hstage =>
      -- the deadline passes, and the execution wakes up
      have hpass : ClockedStep ⟨d, .wait t⟩ s (.pass (max s.clock (now + t.nanos)))
          { s with clock := max s.clock (now + t.nanos) } := .pass (Nat.le_max_left _ _)
      have hwake : ClockedStep ⟨d, .wait t⟩ { s with clock := max s.clock (now + t.nanos) }
          (.exec .wake) ⟨s.signalled, max s.clock (now + t.nanos),
            .ended (.ofSleep d.name s.signalled)⟩ := by
        refine .exec ?_
        rw [hstage]
        exact .wake (.inr (Nat.le_max_right _ _))
      exact .of_step hpass nofun (.of_step hwake nofun (.here ⟨_, rfl⟩))

/-- A wait can always come to its end, without a stop. -/
theorem sleepCanEnd (h : SleepFits d.name t start es s) :
    CanReach (ClockedStep ⟨d, .wait t⟩) (· ≠ .stop) ClockedExec.HasEnded s := by
  cases h with
  | begun _ hstage => exact canEnd_of_stage hstage
  | fresh hfresh =>
      have hbegin : ClockedStep ⟨d, .wait t⟩ s (.exec (.begin s.clock))
          { s with stage := .ofBeginning ((Effect.wait t).begin d.name s.signalled s.clock) } := by
        refine .exec ?_
        rw [hfresh]
        exact .begin
      have hstage : SleepStage d.name t s [] s.clock [.exec (.begin s.clock)]
          { s with stage := .ofBeginning ((Effect.wait t).begin d.name s.signalled s.clock) } :=
        sleepStage_begin (by simp [ClockedExec.WasTold])
      exact .of_step hbegin nofun (canEnd_of_stage hstage)

end Runs

/-! ## What is accepted -/

section Compile

variable {r : Registry} {d : Descriptor}

theorem compile_wait (hr : r.variants.get? "wait" = some .wait) (hname : d.name = "wait") :
    (∃ m, r.compile d = .error (.configuration m)) ∨
      ∃ t, d.millis? "ms" = .ok (some t) ∧ r.compile d = .ok ⟨d, .wait t⟩ := by
  unfold Registry.compile
  rw [hname, hr]
  dsimp only
  cases hcheck : Field.check "wait" Variant.wait.fields d.params with
  | error e =>
      obtain ⟨m, rfl⟩ := Field.error_of_check hcheck
      exact .inl ⟨m, rfl⟩
  | ok _ =>
      show (∃ m, (Variant.wait.effect d).map _ = _) ∨ ∃ t, _ ∧ (Variant.wait.effect d).map _ = _
      unfold Variant.wait
      dsimp only
      cases hmillis : d.millis? "ms" with
      | error e =>
          obtain ⟨m, rfl⟩ := Descriptor.error_of_millis? hmillis
          exact .inl ⟨m, rfl⟩
      | ok given =>
          cases given with
          | none => exact .inl ⟨_, rfl⟩
          | some t => exact .inr ⟨t, rfl, rfl⟩

/-- **A wait keeps to its deadline, if the clock can represent it.** A descriptor of a wait is compiled
or refused with a configuration error, and refused if it asks for 2^64 seconds or more. Every
execution of a compiled one keeps to the stages of a wait: it panics exactly if its deadline lies
beyond the clock, even when the stop came first; all others end with a done or with the answer to a
stop, the latter at once if the stop came first. And it can always end without a stop. -/
theorem keepsDeadline (hr : r.variants.get? "wait" = some .wait) (hname : d.name = "wait") :
    (∀ e, r.compile d = .error e → ∃ m, e = .configuration m) ∧
    (∀ ms, d.number? "ms" = .ok (some ms) → 2 ^ 64 ≤ (Duration.secondsOfMillis ms).value →
      ∃ m, r.compile d = .error (.configuration m)) ∧
    ∀ c, r.compile d = .ok c → ∃ t, c = ⟨d, .wait t⟩ ∧ d.millis? "ms" = .ok (some t) ∧
      ∀ (start s : ClockedExec) (es : List ClockedEvent), start.stage = .fresh →
        Run (ClockedStep c) start es s →
          SleepFits d.name t start es s ∧
            CanReach (ClockedStep c) (· ≠ .stop) ClockedExec.HasEnded s := by
  have hcompile := compile_wait hr hname
  refine ⟨fun e he => ?_, fun ms hms hlarge => ?_, fun c hc => ?_⟩
  · rcases hcompile with ⟨m, hm⟩ | ⟨t, -, ht⟩
    · rw [hm] at he
      exact ⟨m, (Except.error.inj he).symm⟩
    · rw [ht] at he
      cases he
  · rcases hcompile with hm | ⟨t, hmillis, -⟩
    · exact hm
    -- a number of seconds that is out of range gives no duration
    · unfold Descriptor.millis? at hmillis
      rw [hms] at hmillis
      dsimp only at hmillis
      rw [Duration.ofSeconds?_of_le hlarge] at hmillis
      split at hmillis <;> cases hmillis
  · rcases hcompile with ⟨m, hm⟩ | ⟨t, hmillis, ht⟩
    · rw [hm] at hc
      cases hc
    · rw [ht] at hc
      obtain rfl := Except.ok.inj hc
      refine ⟨t, rfl, hmillis, fun start s es hstart hrun => ?_⟩
      have hfits := sleepFits hstart hrun
      exact ⟨hfits, sleepCanEnd hfits⟩

end Compile

/-! ## A wait beyond the clock -/

/-- A wait of 10^19 seconds, which is less than 2^64 seconds. -/
def hugeWait : Descriptor := { name := "wait", params := [("ms", .str "1e22")] }

theorem compile_hugeWait :
    Registry.builtin.compile hugeWait = .ok ⟨hugeWait, .wait ⟨10 ^ 28⟩⟩ := by decide +kernel

theorem keepsDeadline_huge :
    Registry.builtin.variants.get? "wait" = some .wait ∧ hugeWait.name = "wait" ∧
    (∀ e, Registry.builtin.compile hugeWait = .error e → ∃ m, e = .configuration m) ∧
    (∀ ms, hugeWait.number? "ms" = .ok (some ms) →
      2 ^ 64 ≤ (Duration.secondsOfMillis ms).value →
      ∃ m, Registry.builtin.compile hugeWait = .error (.configuration m)) ∧
    ∀ c, Registry.builtin.compile hugeWait = .ok c →
      ∃ t, c = ⟨hugeWait, .wait t⟩ ∧ hugeWait.millis? "ms" = .ok (some t) ∧
      ∀ (start s : ClockedExec) (es : List ClockedEvent), start.stage = .fresh →
        Run (ClockedStep c) start es s →
          SleepFits hugeWait.name t start es s ∧
            CanReach (ClockedStep c) (· ≠ .stop) ClockedExec.HasEnded s :=
  ⟨rfl, rfl, keepsDeadline rfl rfl⟩

/-- Not every compiled wait ends with a done or with the answer to a stop: this one panics, though the
stop came first. -/
theorem not_keepsDeadline_of_huge :
    ¬ ∀ (d : Descriptor) (c : Compiled) (start s : ClockedExec) (es : List ClockedEvent)
      (e : Completion), d.name = "wait" → Registry.builtin.compile d = .ok c →
      start.stage = .fresh → Run (ClockedStep c) start es s → s.stage = .ended e →
      (e = .done ∨ e = .failed (.stopped "wait")) ∧
        (∀ front now back, es = front ++ .exec (.begin now) :: back → .stop ∈ front →
          e = .failed (.stopped "wait")) := by
  intro hall
  have hrun : Run (ClockedStep ⟨hugeWait, .wait ⟨10 ^ 28⟩⟩) ⟨false, 0, .fresh⟩
      [.stop, .exec (.begin 0)]
      ⟨true, 0, .ofBeginning ((Effect.wait ⟨10 ^ 28⟩).begin "wait" true 0)⟩ :=
    (Run.nil.snoc .stop).snoc (.exec .begin)
  have hpanic : ExecStage.ofBeginning ((Effect.wait ⟨10 ^ 28⟩).begin "wait" true 0) =
      .ended (.panicked deadlinePanic) := by
    have hclock : clockEnd ≤ 0 + 10 ^ 28 := by decide +kernel
    unfold Effect.begin
    dsimp only
    rw [if_pos hclock]
    rfl
  have hends := (hall hugeWait _ _ _ _ _ rfl compile_hugeWait rfl hrun hpanic).1
  exact absurd hends (by decide)

end RuleEngine
