import RuleEngine.Proofs.Operator.Stop
import RuleEngine.Proofs.Operator.TickThreads

set_option autoImplicit false

/-! # The dispatches of a tick

What is certain about a dispatch of a tick depends on its own events only (`TickStep.quiet`). While it
waits for its execution, its operation has done nothing (`WorkFits`). If it came when the operator had
been stopped, the operation never does anything but answer the stop (`LateFits`). Only operations
that were told to stop answer a stop, and they are told only when the operator is stopped
(`SignalFits`).
-/

namespace RuleEngine

/-! ## Stop signals -/

theorem OperatorStep.isStopped {s t : OperatorThreads} {e : OperatorEvent} (h : OperatorStep s e t)
    (hs : s.operator.isStopped = true) : t.operator.isStopped = true := by
  cases h with
  | stop => exact s.operator.isStopped_markStopped
  | _ => exact hs

/-- Only the steps of a dispatch change its stage. -/
theorem OperatorStep.stage_of_ne {s t : OperatorThreads} {e : OperatorEvent} {d : Nat}
    (h : OperatorStep s e t) (hd : e.dispatch? ≠ some d) : t.stage d = s.stage d := by
  have hne : ∀ {other : Nat}, some other ≠ some d → d ≠ other := fun hsome heq => hsome (heq ▸ rfl)
  cases h with
  | take | enter | check | tell | withdraw | start | finish | leave | abandon =>
      exact OperatorThreads.advance_stage_of_ne _ _ _ _ (hne hd)
  | _ => rfl

/-- Operations are told to stop only when the operator is stopped. -/
structure SignalFits (s : OperatorThreads) : Prop where
  late : ∀ d, s.stage d = .late → s.operator.isStopped = true
  told : ∀ d, s.stage d = .told → s.operator.isSignalled d = true
  signalled : ∀ d, s.operator.isSignalled d = true → s.operator.isStopped = true

theorem SignalFits.advance {s : OperatorThreads} (h : SignalFits s) {d : Nat}
    {stage : DispatchStage} {o : Operator} (hstopped : o.isStopped = s.operator.isStopped)
    (hkept : ∀ other, s.operator.isSignalled other = true → o.isSignalled other = true)
    (hnew : ∀ other, o.isSignalled other = true → o.isStopped = true)
    (hlate : stage = .late → o.isStopped = true) (htold : stage = .told → o.isSignalled d = true) :
    SignalFits (s.advance d stage o) := by
  refine ⟨fun other hother => ?_, fun other hother => ?_, hnew⟩
  · by_cases heq : other = d
    · subst heq
      exact hlate (by simpa using hother)
    · rw [OperatorThreads.advance_stage_of_ne _ _ _ _ heq] at hother
      exact hstopped.trans (h.late other hother)
  · by_cases heq : other = d
    · subst heq
      exact htold (by simpa using hother)
    · rw [OperatorThreads.advance_stage_of_ne _ _ _ _ heq] at hother
      exact hkept other (h.told other hother)

theorem SignalFits.go {s : OperatorThreads} (h : SignalFits s) {d : Nat} {stage : DispatchStage}
    {o : Operator} (hstopped : o.isStopped = s.operator.isStopped)
    (hsame : ∀ other, o.isSignalled other = s.operator.isSignalled other)
    (hlate : stage = .late → s.operator.isStopped = true) (htold : stage ≠ .told) :
    SignalFits (s.advance d stage o) := by
  refine h.advance hstopped (fun other hother => (hsame other).trans hother) (fun other hother => ?_)
    (fun heq => hstopped.trans (hlate heq)) (fun heq => absurd heq htold)
  exact hstopped.trans (h.signalled other ((hsame other).symm.trans hother))

theorem SignalFits.step {s t : OperatorThreads} {e : OperatorEvent} (h : SignalFits s)
    (htable : TableFits s) (hstep : OperatorStep s e t) : SignalFits t := by
  cases hstep with
  | check =>
      refine h.go rfl (fun _ => rfl) (fun hlate => ?_) ?_
      · by_contra hopen
        rw [if_neg hopen] at hlate
        cases hlate
      · split <;> simp
  | tell d hstage =>
      have hstopped := h.late d hstage
      exact h.advance rfl (fun other hother => by simp [hother]) (fun _ _ => hstopped) nofun
        (fun _ => by simp)
  | take | enter | withdraw | start | finish | leave | abandon =>
      exact h.go rfl (fun _ => rfl) nofun nofun
  | stop =>
      refine ⟨fun _ _ => by simp, fun d hd => ?_, fun _ _ => by simp⟩
      simpa using h.told d hd
  | @reach todo d hstopper =>
      have hstopped : s.operator.isStopped = true := htable.stopped (by simp [hstopper])
      refine ⟨h.late, fun other hother => ?_, fun _ _ => hstopped⟩
      simp [h.told other hother]
  | look | looked | wipe | drop | wiped => exact ⟨h.late, h.told, h.signalled⟩
  | release hstopper =>
      have hstopped : s.operator.isStopped = true := htable.stopped (by simp [hstopper])
      exact ⟨fun _ _ => hstopped, h.told, fun _ _ => hstopped⟩

theorem signalFits {o : Operator} {es : List OperatorEvent} {s : OperatorThreads}
    (ho : o.inFlight = []) (hsignalled : o.signalled = []) (h : Run OperatorStep (.begin o) es s) :
    SignalFits s := by
  induction h with
  | nil => constructor <;> simp [OperatorThreads.begin, Operator.isSignalled, hsignalled]
  | snoc hrun hstep ih => exact ih.step (tableFits ho hrun) hstep

/-! ## Executions -/

/-- Only an execution that was told to stop answers a stop. -/
theorem ExecStep.signalled_of_stopped {c : Compiled} {signalled : Bool} {now : Nat}
    {before after : ExecStage} {e : ExecEvent} {f : ActionFailure}
    (h : ExecStep c signalled now before e after) (hafter : after = .ended (.failed f))
    (hf : f.isStopped = true) : signalled = true := by
  by_contra hopen
  obtain rfl := Bool.eq_false_iff.2 hopen
  cases h with
  | begin =>
      unfold Effect.begin at hafter
      split at hafter
      · split at hafter <;> cases hafter
      all_goals cases hafter
  | answer ending =>
      cases ending <;> cases hafter
      cases hf
  | refuse =>
      cases hafter
      cases hf
  | poll resultKey outcome =>
      unfold Verdict.of at hafter
      rw [if_neg hopen] at hafter
      split at hafter
      · cases hafter
      · cases hafter
        cases hf
      · cases hafter
      · cases hafter
  | _ => cases hafter

/-- An execution that was told to stop before it began does nothing. -/
theorem ExecStep.late {c : Compiled} {now : Nat} {before after : ExecStage} {e : ExecEvent}
    (h : ExecStep c true now before e after)
    (hbefore : before = .fresh ∨ before = .ended (.failed (.stopped c.name)))
    (hshort : e = .begin now → ∀ t, c.effect = .wait t → now + t.nanos < clockEnd) :
    e = .begin now ∧ after = .ended (.failed (.stopped c.name)) := by
  rcases hbefore with rfl | rfl
  · cases h with
    | begin =>
        have hbegin : c.effect.begin c.name true now = .finish (.failed (.stopped c.name)) := by
          cases heffect : c.effect with
          | wait t =>
              have hrepresented : ¬ clockEnd ≤ now + t.nanos := Nat.not_le.2 (hshort rfl t heffect)
              unfold Effect.begin
              dsimp only
              rw [if_neg hrepresented]
              rfl
          | _ => rfl
        exact ⟨rfl, by rw [hbegin]; rfl⟩
  · cases h

/-! ## Dispatches of the tick -/

def TickEvent.dispatch? : TickEvent → Option Nat
  | .own e => e.dispatch?
  | .take d _ | .exec d _ _ | .spawn d | .abandon d _ _ _ => some d
  | .answer a | .conclude a => some a.dispatch
  | .others _ | .context _ | .pass _ | .look _ | .record _ | .emit _ => none

theorem TickStep.threads {s t : TickThreads} {e : TickEvent} (h : TickStep s e t) :
    t.threads = s.threads ∨ ∃ e', OperatorStep s.threads e' t.threads := by
  cases h with
  | others _ hstep | take _ _ hstep | own _ _ hstep | answer _ _ _ _ hstep
  | abandon _ _ _ _ hstep | conclude _ _ _ hstep => exact Or.inr ⟨_, hstep⟩
  | _ => exact Or.inl rfl

theorem TickStep.isStopped {s t : TickThreads} {e : TickEvent} (h : TickStep s e t)
    (hs : s.operator.isStopped = true) : t.operator.isStopped = true := by
  rcases h.threads with hsame | ⟨_, hstep⟩
  · unfold TickThreads.operator
    rw [hsame]
    exact hs
  · exact hstep.isStopped hs

theorem TickStep.isSignalled {s t : TickThreads} {e : TickEvent} (h : TickStep s e t) {d : Nat}
    (hs : s.operator.isSignalled d = true) : t.operator.isSignalled d = true := by
  rcases h.threads with hsame | ⟨_, hstep⟩
  · unfold TickThreads.operator
    rw [hsame]
    exact hs
  · exact hstep.isSignalled hs

/-- Events that are not about a dispatch of the tick leave it as it is. -/
theorem TickStep.quiet {s t : TickThreads} {e : TickEvent} (h : TickStep s e t) {d : Nat}
    (he : e.dispatch? ≠ some d) :
    t.work d = s.work d ∧ (s.work d ≠ none → t.threads.stage d = s.threads.stage d) := by
  have hne : ∀ {other : Nat}, some other ≠ some d → d ≠ other := fun hsome heq => hsome (heq ▸ rfl)
  cases h with
  | others hforeign hstep =>
      exact ⟨rfl, fun hwork => hstep.stage_of_ne fun heq => hwork (hforeign d heq)⟩
  | take _ _ hstep => exact ⟨Function.update_of_ne (hne he) .., fun _ => hstep.stage_of_ne he⟩
  | own _ _ hstep => exact ⟨rfl, fun _ => hstep.stage_of_ne he⟩
  | exec => exact ⟨Function.update_of_ne (hne he) .., fun _ => rfl⟩
  | answer _ _ _ _ hstep => exact ⟨rfl, fun _ => hstep.stage_of_ne he⟩
  | abandon _ _ _ _ hstep => exact ⟨rfl, fun _ => hstep.stage_of_ne he⟩
  | conclude _ _ _ hstep => exact ⟨rfl, fun _ => hstep.stage_of_ne he⟩
  | _ => exact ⟨rfl, fun _ => rfl⟩

theorem TickWork.Takes.dispatch? {w : TickWork} {d : Nat} {e : OperatorEvent} (h : w.Takes d e) :
    e.dispatch? = some d := by
  cases h <;> rfl

/-- A dispatch of the tick has work from its first event on. -/
theorem TickStep.work_ne_none {s t : TickThreads} {e : TickEvent} (h : TickStep s e t) {d : Nat}
    (hd : s.work d ≠ none ∨ e.dispatch? = some d) : t.work d ≠ none := by
  by_cases he : e.dispatch? = some d
  · cases h with
    | take | exec =>
        obtain rfl := Option.some.inj he
        simp
    | own hwork htakes =>
        obtain rfl := Option.some.inj (htakes.dispatch?.symm.trans he)
        simp [hwork]
    | answer _ _ hwork | spawn _ _ hwork | abandon _ _ _ hwork | conclude hwork =>
        obtain rfl := Option.some.inj he
        simp [hwork]
    | _ => cases he
  · rw [(h.quiet he).1]
    exact hd.resolve_right he

/-- The execution of the operation has not begun. -/
def DispatchStage.isWaiting : DispatchStage → Bool
  | .numbered | .entered | .late | .told | .ready => true
  | .unborn | .executing | .executed | .ended => false

theorem DispatchStage.isWaiting_of_not_isTracked {stage : DispatchStage} (hborn : stage ≠ .unborn)
    (h : ¬ stage.isTracked = true) : stage.isWaiting = true := by
  cases stage with
  | unborn => exact absurd rfl hborn
  | numbered | entered | late | told => rfl
  | ready | executing | executed | ended => exact absurd rfl h

/-- Where a step takes a dispatch that is on its way to the end of its execution. -/
theorem TickWork.Takes.stages {w : TickWork} {d : Nat} {e : OperatorEvent} {s t : OperatorThreads}
    (h : w.Takes d e) (hstep : OperatorStep s e t) :
    ((s.stage d).isWaiting = true ∧ (t.stage d).isWaiting = true) ∨
      (s.stage d = .ready ∧ t.stage d = .executing) ∨
      (s.stage d = .executing ∧ t.stage d = .executed ∧ ∃ c, w.stage = .ended c) := by
  cases h with
  | enter | tell | withdraw =>
      cases hstep
      simp [*, DispatchStage.isWaiting]
  | check =>
      cases hstep with
      | check _ hstage =>
          refine Or.inl ⟨by rw [hstage]; rfl, ?_⟩
          rw [OperatorThreads.advance_stage_self]
          split <;> rfl
  | start =>
      cases hstep
      simp [*]
  | finish hended =>
      cases hstep
      simp [*]

/-- A dispatch leaves the table behind its execution. -/
theorem OperatorStep.leave_stages {d : Nat} {s t : OperatorThreads}
    (h : OperatorStep s (.leave d) t) : s.stage d = .executed ∧ t.stage d = .ended := by
  cases h with
  | leave _ hstage => exact ⟨hstage, OperatorThreads.advance_stage_self ..⟩

theorem OperatorStep.abandon_stages {d : Nat} {s t : OperatorThreads}
    (h : OperatorStep s (.abandon d) t) : s.stage d = .ready ∧ t.stage d = .ended := by
  cases h with
  | abandon _ hstage => exact ⟨hstage, OperatorThreads.advance_stage_self ..⟩

theorem OperatorStep.stage_of_take {d : Nat} {s t : OperatorThreads}
    (h : OperatorStep s (.take d) t) : t.stage d = .numbered := by
  cases h with
  | take => exact OperatorThreads.advance_stage_self ..

/-- A number that is taken has not been taken before. -/
theorem OperatorStep.unborn_of_take {d : Nat} {s t : OperatorThreads}
    (h : OperatorStep s (.take d) t) (htable : TableFits s) : s.stage d = .unborn := by
  by_contra hborn
  cases h with
  | take => exact absurd (htable.number_lt _ hborn) (Nat.lt_irrefl _)

/-- What is certain about a dispatch of the tick. -/
structure WorkFits (es : List TickEvent) (s : TickThreads) (d : Nat) (w : TickWork) : Prop where
  born : s.threads.stage d ≠ .unborn
  fresh : (s.threads.stage d).isWaiting = true → w.stage = .fresh
  silent : (s.threads.stage d).isWaiting = true → ∀ c e, TickEvent.exec d c e ∉ es
  ended : s.threads.stage d = .executed → ∃ c, w.stage = .ended c
  genuine : ∀ f, w.stage = .ended (.failed f) → f.isStopped = true → s.operator.isSignalled d = true

theorem WorkFits.go {es : List TickEvent} {s t : TickThreads} {e : TickEvent} {d : Nat}
    {w : TickWork} (h : WorkFits es s d w) (hstep : TickStep s e t)
    (he : ∀ c x, e ≠ .exec d c x) {stage : DispatchStage} (hstage : t.threads.stage d = stage)
    (hborn : stage ≠ .unborn)
    (hwaiting : stage.isWaiting = true → (s.threads.stage d).isWaiting = true)
    (hended : stage = .executed → s.threads.stage d = .executed ∨ ∃ c, w.stage = .ended c) :
    WorkFits (es ++ [e]) t d w := by
  subst hstage
  refine ⟨hborn, fun hw => h.fresh (hwaiting hw), fun hw c x hmem => ?_, fun hx => ?_,
    fun f hf hstop => hstep.isSignalled (h.genuine f hf hstop)⟩
  · rcases List.mem_append.1 hmem with hold | hlast
    · exact h.silent (hwaiting hw) c x hold
    · exact he c x (List.mem_singleton.1 hlast).symm
  · rcases hended hx with hold | hold
    · exact h.ended hold
    · exact hold

theorem TickProgram.work?_eq_some {α : Type} {p : TickProgram α} {w : TickWork}
    (h : p.work? = some w) : w.stage = .fresh ∧
      ((∃ next, p = .execute w.rule w.operation next ∧ w.detached = false) ∨
        ∃ next, p = .dispatch w.rule w.operation next ∧ w.detached = true) := by
  cases p with
  | execute rule c next =>
      cases h
      exact ⟨rfl, Or.inl ⟨next, rfl, rfl⟩⟩
  | dispatch rule c next =>
      cases h
      exact ⟨rfl, Or.inr ⟨next, rfl, rfl⟩⟩
  | _ => cases h

theorem WorkFits.step {es : List TickEvent} {s t : TickThreads} {e : TickEvent} {d : Nat}
    (h : ∀ w, s.work d = some w → WorkFits es s d w)
    (hidle : s.work d = none → ∀ e ∈ es, e.dispatch? ≠ some d) (htable : TableFits s.threads)
    (hstep : TickStep s e t) {w : TickWork} (hw : t.work d = some w) :
    WorkFits (es ++ [e]) t d w := by
  have hgo := hstep
  by_cases he : e.dispatch? = some d
  · cases hstep with
    | @take d' w' t' hcurrent hnext hop =>
        obtain rfl := Option.some.inj he
        have hstage := hop.stage_of_take
        have hsame : w' = w := by simpa using hw
        subst hsame
        have hfresh := (TickProgram.work?_eq_some hnext).1
        have hunused : s.work d' = none := by
          by_contra hne
          obtain ⟨w, hw⟩ := Option.ne_none_iff_exists'.1 hne
          exact absurd (hop.unborn_of_take htable) (h w hw).born
        refine ⟨?_, fun _ => hfresh, fun _ c x hmem => ?_, ?_, fun f hf => ?_⟩
        · show t'.stage d' ≠ .unborn
          rw [hstage]
          nofun
        · rcases List.mem_append.1 hmem with hold | hlast
          · exact hidle hunused _ hold rfl
          · cases List.mem_singleton.1 hlast
        · show t'.stage d' = .executed → _
          rw [hstage]
          nofun
        · rw [hfresh] at hf
          cases hf
    | @own d' w' e' t' hwork htakes hop =>
        have hd : d' = d := Option.some.inj (htakes.dispatch?.symm.trans he)
        subst hd
        have hfits := h w hw
        rcases htakes.stages hop with ⟨hs, ht⟩ | ⟨-, ht⟩ | ⟨-, ht, hended⟩
        · refine hfits.go hgo (by simp) rfl ?_ (fun _ => hs) ?_
          · intro hunborn
            rw [show t'.stage d' = .unborn from hunborn] at ht
            cases ht
          · intro hexecuted
            rw [show t'.stage d' = .executed from hexecuted] at ht
            cases ht
        · exact hfits.go hgo (by simp) ht (by decide) (fun h => absurd h (by decide)) (by simp)
        · obtain rfl : w' = w := Option.some.inj (hwork.symm.trans hw)
          exact hfits.go hgo (by simp) ht (by decide) (fun h => absurd h (by decide))
            (fun _ => Or.inr hended)
    | @exec d' w' x stage hstage hwork hexec =>
        obtain rfl := Option.some.inj he
        have hsame : { w' with stage := stage } = w := by simpa using hw
        subst hsame
        have hexecuting : s.threads.stage d' = .executing := hstage
        refine ⟨?_, ?_, ?_, ?_, fun f hf hstop => hexec.signalled_of_stopped hf hstop⟩
        · show s.threads.stage d' ≠ .unborn
          rw [hexecuting]
          nofun
        · show (s.threads.stage d').isWaiting = true → _
          rw [hexecuting]
          nofun
        · show (s.threads.stage d').isWaiting = true → _
          rw [hexecuting]
          nofun
        · show s.threads.stage d' = .executed → _
          rw [hexecuting]
          nofun
    | answer _ _ _ _ hop | conclude _ _ _ hop =>
        obtain rfl := Option.some.inj he
        exact (h w hw).go hgo (by simp) hop.leave_stages.2 (by decide) (fun h => absurd h (by decide))
          (by simp)
    | abandon _ _ _ _ hop =>
        obtain rfl := Option.some.inj he
        exact (h w hw).go hgo (by simp) hop.abandon_stages.2 (by decide)
          (fun h => absurd h (by decide)) (by simp)
    | spawn => exact (h w hw).go hgo (by simp) rfl (h w hw).born id Or.inl
    | _ => cases he
  · obtain ⟨hwork, hstage⟩ := hgo.quiet he
    rw [hwork] at hw
    have hsame : t.threads.stage d = s.threads.stage d := hstage (by simp [hw])
    refine (h w hw).go hgo ?_ hsame (h w hw).born id Or.inl
    rintro c x rfl
    exact he rfl

/-! ## Dispatches that come late -/

/-- The steps in which a dispatch of the tick comes to the table. -/
inductive TickEvent.Tracks (d : Nat) : TickEvent → Prop
  | take (w : TickWork) : TickEvent.Tracks d (.take d w)
  | enter (tracked : Tracked) : TickEvent.Tracks d (.own (.enter d tracked))
  | check : TickEvent.Tracks d (.own (.check d))

theorem TickEvent.Tracks.dispatch? {d : Nat} {e : TickEvent} (h : e.Tracks d) :
    e.dispatch? = some d := by
  cases h <;> rfl

/-- The operator had been stopped before the dispatch was in the table and had looked for a stop.
The operator is the one on which the tick began. -/
def CameLate (o : Operator) (d : Nat) (es : List TickEvent) : Prop :=
  ∃ n e, es[n]? = some e ∧ e.Tracks d ∧ (o.isStopped = true ∨ TickEvent.others .stop ∈ es.take n)

theorem cameLate_snoc {o : Operator} {d : Nat} {es : List TickEvent} {e : TickEvent} :
    CameLate o d (es ++ [e]) ↔ CameLate o d es ∨
      (e.Tracks d ∧ (o.isStopped = true ∨ TickEvent.others .stop ∈ es)) := by
  constructor
  · rintro ⟨n, e', hget, htracks, hstopped⟩
    have hn : n < (es ++ [e]).length := (List.getElem?_eq_some_iff.1 hget).1
    rw [List.length_append, List.length_singleton] at hn
    rcases Nat.lt_succ_iff_lt_or_eq.1 hn with hbefore | rfl
    · rw [List.getElem?_append_left hbefore] at hget
      rw [List.take_append_of_le_length (Nat.le_of_lt hbefore)] at hstopped
      exact Or.inl ⟨n, e', hget, htracks, hstopped⟩
    · rw [List.getElem?_concat_length] at hget
      rw [List.take_left] at hstopped
      exact Or.inr ⟨Option.some.inj hget ▸ htracks, hstopped⟩
  · rintro (⟨n, e', hget, htracks, hstopped⟩ | ⟨htracks, hstopped⟩)
    · have hn : n < es.length := (List.getElem?_eq_some_iff.1 hget).1
      refine ⟨n, e', ?_, htracks, ?_⟩
      · rw [List.getElem?_append_left hn, hget]
      · rw [List.take_append_of_le_length (Nat.le_of_lt hn)]
        exact hstopped
    · refine ⟨es.length, e, List.getElem?_concat_length, htracks, ?_⟩
      rw [List.take_left]
      exact hstopped

theorem CameLate.stopped {o : Operator} {d : Nat} {es : List TickEvent} (h : CameLate o d es) :
    o.isStopped = true ∨ TickEvent.others .stop ∈ es := by
  obtain ⟨n, e, -, -, hstopped⟩ := h
  exact hstopped.imp_right List.mem_of_mem_take

/-- The dispatch has not told its operation to stop, and still can. -/
def DispatchStage.isUntold : DispatchStage → Bool
  | .numbered | .entered | .late => true
  | .unborn | .told | .ready | .executing | .executed | .ended => false

theorem DispatchStage.isWaiting_of_isUntold {stage : DispatchStage} (h : stage.isUntold = true) :
    stage.isWaiting = true := by
  cases stage with
  | numbered | entered | late => rfl
  | unborn | told | ready | executing | executed | ended => cases h

/-- What is certain about a dispatch that came late: its operation does nothing but answer the
stop. -/
structure LateFits (es : List TickEvent) (s : TickThreads) (d : Nat) (w : TickWork) : Prop where
  told : (s.threads.stage d).isUntold = true ∨ s.operator.isSignalled d = true
  stage : w.stage = .fresh ∨ w.stage = .ended (.failed (.stopped w.operation.name))
  silent : ∀ c e, TickEvent.exec d c e ∈ es → ∃ now, e = .begin now

/-- Past these stages the operation has been told to stop. -/
theorem LateFits.isSignalled {es : List TickEvent} {s : TickThreads} {d : Nat} {w : TickWork}
    (h : LateFits es s d w) (hstage : (s.threads.stage d).isUntold = false) :
    s.operator.isSignalled d = true := by
  refine h.told.resolve_left fun huntold => ?_
  rw [hstage] at huntold
  cases huntold

theorem LateFits.go {es : List TickEvent} {s t : TickThreads} {e : TickEvent} {d : Nat}
    {w : TickWork} (h : LateFits es s d w) (he : ∀ c x, e ≠ .exec d c x)
    (htold : (t.threads.stage d).isUntold = true ∨ t.operator.isSignalled d = true) :
    LateFits (es ++ [e]) t d w := by
  refine ⟨htold, h.stage, fun c x hmem => ?_⟩
  rcases List.mem_append.1 hmem with hold | hlast
  · exact h.silent c x hold
  · exact absurd (List.mem_singleton.1 hlast).symm (he c x)

/-- A dispatch at a stopped operator tells its operation to stop. -/
theorem TickWork.Takes.isUntold {w : TickWork} {d : Nat} {e : OperatorEvent}
    {s t : OperatorThreads} (h : w.Takes d e) (hstep : OperatorStep s e t)
    (hstopped : s.operator.isStopped = true) (huntold : (s.stage d).isUntold = true) :
    (t.stage d).isUntold = true ∨ t.operator.isSignalled d = true := by
  cases h with
  | enter =>
      cases hstep
      exact Or.inl (by simp [DispatchStage.isUntold])
  | check =>
      cases hstep
      exact Or.inl (by simp [hstopped, DispatchStage.isUntold])
  | tell =>
      cases hstep
      exact Or.inr (by simp)
  | withdraw | start | finish =>
      cases hstep
      simp_all [DispatchStage.isUntold]

/-- Waits are short enough for the clock to represent their deadlines. -/
def ShortWaits (es : List TickEvent) : Prop :=
  ∀ d c now t, TickEvent.exec d c (.begin now) ∈ es → c.effect = .wait t → now + t.nanos < clockEnd

theorem LateFits.step {o : Operator} {es : List TickEvent} {s t : TickThreads} {e : TickEvent}
    {d : Nat} (h : ∀ w, s.work d = some w → CameLate o d es → LateFits es s d w)
    (hwork : ∀ w, s.work d = some w → WorkFits es s d w)
    (hidle : s.work d = none → ∀ e ∈ es, e.dispatch? ≠ some d) (htable : TableFits s.threads)
    (hstopped : o.isStopped = true ∨ TickEvent.others .stop ∈ es → s.operator.isStopped = true)
    (hshort : ShortWaits (es ++ [e])) (hstep : TickStep s e t) {w : TickWork}
    (hw : t.work d = some w) (hlate : CameLate o d (es ++ [e])) : LateFits (es ++ [e]) t d w := by
  have hgo := hstep
  rcases cameLate_snoc.1 hlate with hcame | ⟨htracks, hstop⟩
  · -- the dispatch was late before
    have hsome : s.work d ≠ none := by
      intro hnone
      obtain ⟨n, e', hget, htracks, -⟩ := hcame
      exact hidle hnone e' (List.mem_of_getElem? hget) htracks.dispatch?
    by_cases he : e.dispatch? = some d
    · cases hstep with
      | @take d' w' t' hcurrent hnext hop =>
          obtain rfl := Option.some.inj he
          obtain ⟨w, hw⟩ := Option.ne_none_iff_exists'.1 hsome
          exact absurd (hop.unborn_of_take htable) (hwork w hw).born
      | @own d' w' e' t' hwork' htakes hop =>
          have hd : d' = d := Option.some.inj (htakes.dispatch?.symm.trans he)
          subst hd
          have hold := h w hw hcame
          refine hold.go (by simp) ?_
          rcases hold.told with huntold | hsignalled
          · exact htakes.isUntold hop (hstopped hcame.stopped) huntold
          · exact Or.inr (hgo.isSignalled hsignalled)
      | @exec d' w' x stage hstage hwork' hexec =>
          obtain rfl := Option.some.inj he
          have hold := h w' hwork' hcame
          have hsame : { w' with stage := stage } = w := by simpa using hw
          subst hsame
          have hsignalled : s.operator.isSignalled d' = true :=
            hold.isSignalled (by rw [hstage]; rfl)
          rw [hsignalled] at hexec
          obtain ⟨hbegin, hafter⟩ := hexec.late hold.stage fun hx t ht =>
            hshort d' w'.operation s.clock t (by rw [← hx]; simp) ht
          refine ⟨Or.inr hsignalled, Or.inr hafter, fun c y hmem => ?_⟩
          rcases List.mem_append.1 hmem with hmem | hlast
          · exact hold.silent c y hmem
          · cases List.mem_singleton.1 hlast
            exact ⟨_, hbegin⟩
      | answer _ _ _ _ hop | conclude _ _ _ hop =>
          obtain rfl := Option.some.inj he
          have hold := h w hw hcame
          have hsignalled := hold.isSignalled (by rw [hop.leave_stages.1]; rfl)
          exact hold.go (by simp) (Or.inr (hgo.isSignalled hsignalled))
      | abandon _ _ _ _ hop =>
          obtain rfl := Option.some.inj he
          have hold := h w hw hcame
          have hsignalled := hold.isSignalled (by rw [hop.abandon_stages.1]; rfl)
          exact hold.go (by simp) (Or.inr (hgo.isSignalled hsignalled))
      | spawn => exact (h w hw hcame).go (by simp) (h w hw hcame).told
      | _ => cases he
    · obtain ⟨hsame, hstage⟩ := hgo.quiet he
      have hold := h w (hsame.symm.trans hw) hcame
      refine hold.go ?_ ?_
      · rintro c x rfl
        exact he rfl
      · rw [hstage hsome]
        exact hold.told.imp_right hgo.isSignalled
  · -- the dispatch is late from now on
    have hfits := WorkFits.step hwork hidle htable hgo hw
    have huntold : (t.threads.stage d).isUntold = true := by
      cases htracks with
      | take =>
          cases hstep with
          | take _ _ hop =>
              show (DispatchStage.isUntold _) = true
              rw [hop.stage_of_take]
              rfl
      | enter =>
          cases hstep with
          | own _ _ hop =>
              cases hop
              simp [DispatchStage.isUntold]
      | check =>
          cases hstep with
          | own _ _ hop =>
              cases hop
              have hseen : s.threads.operator.isStopped = true := hstopped hstop
              simp [hseen, DispatchStage.isUntold]
    have hwaiting : (t.threads.stage d).isWaiting = true :=
      DispatchStage.isWaiting_of_isUntold huntold
    exact ⟨Or.inl huntold, Or.inl (hfits.fresh hwaiting),
      fun c x hmem => absurd hmem (hfits.silent hwaiting c x)⟩

/-! ## Answers -/

theorem TickStep.ended {s t : TickThreads} {e : TickEvent} (h : TickStep s e t) {d : Nat}
    (htable : TableFits s.threads) (hwork : s.work d ≠ none)
    (hstage : s.threads.stage d = .ended) :
    t.work d = s.work d ∧ t.threads.stage d = .ended := by
  have hgo := h
  by_cases he : e.dispatch? = some d
  · cases h with
    | take _ _ hop =>
        obtain rfl := Option.some.inj he
        have hunborn := hop.unborn_of_take htable
        rw [hstage] at hunborn
        cases hunborn
    | own _ htakes hop =>
        obtain rfl := Option.some.inj (htakes.dispatch?.symm.trans he)
        rcases htakes.stages hop with ⟨hs, -⟩ | ⟨hs, -⟩ | ⟨hs, -⟩
        all_goals
          rw [hstage] at hs
          cases hs
    | exec hexecuting =>
        obtain rfl := Option.some.inj he
        rw [hstage] at hexecuting
        cases hexecuting
    | answer _ _ _ _ hop | conclude _ _ _ hop =>
        obtain rfl := Option.some.inj he
        have hs := hop.leave_stages.1
        rw [hstage] at hs
        cases hs
    | abandon _ _ _ _ hop =>
        obtain rfl := Option.some.inj he
        have hs := hop.abandon_stages.1
        rw [hstage] at hs
        cases hs
    | spawn => exact ⟨rfl, hstage⟩
    | _ => cases he
  · exact ⟨(hgo.quiet he).1, ((hgo.quiet he).2 hwork).trans hstage⟩

/-- The answers that a tick has been given, in order. -/
def tickAnswers (es : List TickEvent) : List Answer :=
  es.filterMap fun
    | .answer a => some a
    | _ => none

theorem mem_tickAnswers {es : List TickEvent} {a : Answer} :
    a ∈ tickAnswers es ↔ .answer a ∈ es := by
  unfold tickAnswers
  rw [List.mem_filterMap]
  constructor
  · rintro ⟨e, he, hsome⟩
    cases e with
    | answer b =>
        obtain rfl := Option.some.inj hsome
        exact he
    | _ => cases hsome
  · intro ha
    exact ⟨_, ha, rfl⟩

theorem tickAnswers_snoc (es : List TickEvent) (a : Answer) :
    tickAnswers (es ++ [.answer a]) = tickAnswers es ++ [a] := List.filterMap_append

theorem tickAnswers_snoc_of_ne (es : List TickEvent) {e : TickEvent} (he : ∀ a, e ≠ .answer a) :
    tickAnswers (es ++ [e]) = tickAnswers es := by
  have hnone : tickAnswers [e] = [] := by
    cases e with
    | answer a => exact absurd rfl (he a)
    | _ => rfl
  rw [tickAnswers, List.filterMap_append]
  show tickAnswers es ++ tickAnswers [e] = tickAnswers es
  rw [hnone, List.append_nil]

/-- An answer is what the execution of a dispatch has ended with. -/
def AnswerFits (s : TickThreads) (a : Answer) : Prop :=
  s.threads.stage a.dispatch = .ended ∧ ∃ w c, s.work a.dispatch = some w ∧
    w.operation = a.operation ∧ w.stage = .ended c ∧ a.result = c.result a.operation.name

/-! ## Runs -/

/-- A tick that has just taken its plan. Others may have used the operator before. -/
structure TickThreads.IsNew (s : TickThreads) (plan : Plan) (context : Context) : Prop where
  begun : ∃ threads clock, s = .begin threads plan context clock
  reached : ∃ o es, o.inFlight = [] ∧ o.signalled = [] ∧ Run OperatorStep (.begin o) es s.threads

/-- The rules that were selected when the tick began. -/
def Tick.selected (plan : Plan) (context : Context) : List Rule :=
  Rule.select context.facts.get? plan.template.rules

section Runs

variable {plan : Plan} {context : Context} {start s : TickThreads} {es : List TickEvent}

theorem tickReached (hstart : start.IsNew plan context) (h : Run TickStep start es s) :
    ∃ o es, o.inFlight = [] ∧ o.signalled = [] ∧ Run OperatorStep (.begin o) es s.threads := by
  induction h with
  | nil => exact hstart.reached
  | snoc _ hstep ih =>
      obtain ⟨o, es, ho, hsignalled, hrun⟩ := ih
      rcases hstep.threads with hsame | ⟨e, hop⟩
      · rw [hsame]
        exact ⟨o, es, ho, hsignalled, hrun⟩
      · exact ⟨o, es ++ [e], ho, hsignalled, hrun.snoc hop⟩

theorem tickTableFits (hstart : start.IsNew plan context) (h : Run TickStep start es s) :
    TableFits s.threads := by
  obtain ⟨o, es, ho, -, hrun⟩ := tickReached hstart h
  exact tableFits ho hrun

theorem tickSignalFits (hstart : start.IsNew plan context) (h : Run TickStep start es s) :
    SignalFits s.threads := by
  obtain ⟨o, es, ho, hsignalled, hrun⟩ := tickReached hstart h
  exact signalFits ho hsignalled hrun

theorem isStopped_of_stop (h : Run TickStep start es s)
    (hstop : start.operator.isStopped = true ∨ TickEvent.others .stop ∈ es) :
    s.operator.isStopped = true := by
  induction h with
  | nil => exact hstop.resolve_right List.not_mem_nil
  | @snoc es m t e _ hstep ih =>
      by_cases hbefore : start.operator.isStopped = true ∨ TickEvent.others .stop ∈ es
      · exact hstep.isStopped (ih hbefore)
      · -- the operator is stopped by the last event
        have hlast : e = .others .stop := by
          rcases hstop with hstop | hstop
          · exact absurd (Or.inl hstop) hbefore
          · rcases List.mem_append.1 hstop with hstop | hstop
            · exact absurd (Or.inr hstop) hbefore
            · exact (List.mem_singleton.1 hstop).symm
        subst hlast
        cases hstep with
        | others _ hop =>
            cases hop
            exact m.threads.operator.isStopped_markStopped

theorem tickIdle (h : Run TickStep start es s) {d : Nat} (hd : s.work d = none) :
    ∀ e ∈ es, e.dispatch? ≠ some d := by
  induction h with
  | nil => exact fun e he => absurd he List.not_mem_nil
  | @snoc es m t last _ hstep ih =>
      have hbefore : m.work d = none := by
        by_contra hne
        exact hstep.work_ne_none (Or.inl hne) hd
      intro e he
      rcases List.mem_append.1 he with he | he
      · exact ih hbefore e he
      · obtain rfl := List.mem_singleton.1 he
        exact fun heq => hstep.work_ne_none (Or.inr heq) hd

theorem workFits (hstart : start.IsNew plan context) (h : Run TickStep start es s) {d : Nat}
    {w : TickWork} (hw : s.work d = some w) : WorkFits es s d w := by
  induction h generalizing w with
  | nil =>
      obtain ⟨threads, clock, rfl⟩ := hstart.begun
      cases hw
  | snoc hrun hstep ih =>
      exact WorkFits.step (fun _ => ih) (tickIdle hrun) (tickTableFits hstart hrun) hstep hw

theorem lateFits (hstart : start.IsNew plan context) (h : Run TickStep start es s)
    (hshort : ShortWaits es) {d : Nat} {w : TickWork} (hw : s.work d = some w)
    (hlate : CameLate start.operator d es) : LateFits es s d w := by
  induction h generalizing w with
  | nil =>
      obtain ⟨threads, clock, rfl⟩ := hstart.begun
      cases hw
  | snoc hrun hstep ih =>
      have hbefore : ShortWaits _ := fun d c now t hmem =>
        hshort d c now t (List.mem_append_left _ hmem)
      exact LateFits.step (fun _ hw hlate => ih hbefore hw hlate) (fun _ => workFits hstart hrun)
        (tickIdle hrun) (tickTableFits hstart hrun) (isStopped_of_stop hrun) hshort hstep hw hlate

theorem answerFits (hstart : start.IsNew plan context) (h : Run TickStep start es s) {a : Answer}
    (ha : .answer a ∈ es) : AnswerFits s a := by
  induction h with
  | nil => exact absurd ha List.not_mem_nil
  | @snoc es m t e hrun hstep ih =>
      rcases List.mem_append.1 ha with hold | hlast
      · obtain ⟨hstage, w, c, hw, hrest⟩ := ih hold
        obtain ⟨hsame, hended⟩ :=
          hstep.ended (tickTableFits hstart hrun) (by simp [hw]) hstage
        exact ⟨hended, w, c, hsame.trans hw, hrest⟩
      · obtain rfl := List.mem_singleton.1 hlast
        cases hstep with
        | answer _ _ hwork hended hop =>
            exact ⟨hop.leave_stages.2, _, _, hwork, rfl, hended, rfl⟩

/-- An operation whose dispatch came late has answered the stop. -/
theorem result_of_cameLate (hstart : start.IsNew plan context) (h : Run TickStep start es s)
    (hshort : ShortWaits es) {a : Answer} (ha : .answer a ∈ es)
    (hlate : CameLate start.operator a.dispatch es) :
    a.result = .error (.stopped a.operation.name) := by
  obtain ⟨-, w, c, hw, hoperation, hended, hresult⟩ := answerFits hstart h ha
  have hstage := (lateFits hstart h hshort hw hlate).stage
  rw [hended, hoperation] at hstage
  rcases hstage with hstage | hstage
  · cases hstage
  · cases hstage
    exact hresult

end Runs

end RuleEngine
