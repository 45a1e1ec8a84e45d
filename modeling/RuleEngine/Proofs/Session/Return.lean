import RuleEngine.Proofs.Session.Progress

set_option autoImplicit false

/-! # What a session has done when it returns

However a session ends, its totals are those of the ticks that have succeeded, and it leaves nothing
behind: no operation is executed, no thread of a detached execution is left, and the lane has run what it
has taken (`settlesUp`).
-/

namespace RuleEngine

section Runs

variable {ω α : Type} {config : SessionSettings} {o : Operator} {context : Context}
  {es : List (SessionEvent ω α)} {s : SessionThreads ω α}

/-- The template could not be loaded. -/
def LoadFailed (es : List (SessionEvent ω α)) : Prop :=
  ∃ files e, SessionEvent.load files (.error e) ∈ es

/-- Others dispatch an operation of their own, or wait for the lane to be shut down. -/
def SessionEvent.isForeign : SessionEvent ω α → Bool
  | .tick (.others (.take _)) | .lane (.ask _ _) => true
  | _ => false

theorem SessionEvent.isForeign_of_windsUp {e : SessionEvent ω α} (h : e.windsUp = true) :
    e.isForeign = false := by
  cases e with
  | tick f =>
      cases f with
      | others g => cases g <;> first | rfl | cases h
      | _ => rfl
  | lane f => cases f <;> first | rfl | cases h
  | _ => rfl

/-- The ticks and the totals of a session, and what it leaves behind when it returns. -/
structure SettlesUp (config : SessionSettings) (es : List (SessionEvent ω α))
    (s : SessionThreads ω α) : Prop where
  /-- When a call for a tick begins, all that have begun before have ended. -/
  apart : ∀ front answer back, es = front ++ .enterTick answer :: back →
    front.countP SessionEvent.beginsTick = front.countP SessionEvent.endsTick
  /-- No more ticks succeed than the session may run. -/
  limited : ∀ limit, config.maxTicks = some limit → (tickReports es).length ≤ limit
  /-- A session that ends well tells the totals of all ticks that have succeeded. -/
  summed : ∀ summary, s.stage = .returned (.ok summary) →
    summary.ticks = (tickReports es).length ∧
      summary.actions = ((tickReports es).map (·.actions)).sum ∧
        summary.failures = ((tickReports es).map (·.failures.length)).sum
  /-- However it ends, the operator is stopped, if its template could be loaded; -/
  stopped : ∀ outcome, s.stage = .returned outcome → ¬ LoadFailed es →
    s.operator.isStopped = true
  /-- nothing is being executed; -/
  emptied : ∀ outcome, s.stage = .returned outcome → s.operator.inFlight = []
  /-- the thread of every detached execution has ended, and was joined, or given up behind its end; -/
  joined : ∀ outcome, s.stage = .returned outcome → s.workers = [] ∧
    ∀ d, .tick (.spawn d) ∈ es →
      s.ticks.threads.stage d = .ended ∧ (.join d ∈ es ∨ .reap d ∈ es)
  /-- the lane takes no more tasks, and has run all that it has taken. -/
  drained : ∀ outcome, s.stage = .returned outcome →
    s.lane.lane.accepting = false ∧ IsDrained (laneEvents es) s.lane

/-- **A session adds up and cleans up**, however it ends, and whatever others do meanwhile but
dispatching operations of their own and waiting for the lane to be shut down. -/
theorem settlesUp (ho : o.inFlight = []) (hsignalled : o.signalled = [])
    (h : Run (SessionStep config) (.begin o context) es s)
    (halone : ∀ e ∈ es, e.isForeign = false) : SettlesUp config es s := by
  have hforeign : ∀ d, .tick (.others (.take d)) ∉ es := fun d hd => nomatch halone _ hd
  have hasks : ∀ caller own, .lane (.ask caller own) ∉ es :=
    fun caller own hask => nomatch halone _ hask
  have hended : ∀ outcome, s.stage = .returned outcome → ∀ d,
      s.ticks.threads.stage d ≠ .unborn → s.ticks.threads.stage d = .ended := by
    intro outcome hstage d
    exact ended_of_joined ho hsignalled h hforeign (by rw [hstage]; rfl) (by rw [hstage]; rfl)
  refine ⟨fun front answer back hes => ?_, fun limit => sessionLimit h, fun summary hstage => ?_,
    fun outcome hstage hloaded => ?_, fun outcome hstage => ?_, fun outcome hstage => ⟨?_, ?_⟩,
    fun outcome hstage => ?_⟩
  · subst hes
    obtain ⟨m, t, hfront, hstep⟩ := h.split
    have hcalls := sessionCalls hfront
    cases hstep with
    | enterTick hentering =>
        rw [hentering] at hcalls
        exact hcalls
  · have htotals := totals_of_returned h hstage
    rw [SessionSummary.foldl_add] at htotals
    simp [htotals]
  · exact (stopped_or_not_loaded h (by rw [hstage]; rfl)).resolve_right hloaded
  · have htable := sessionTableFits ho hsignalled h
    by_contra hne
    obtain ⟨entry, hentry⟩ := List.exists_mem_of_ne_nil _ hne
    have hlive := htable.live entry.1 (List.mem_map_of_mem hentry)
    -- a dispatch that has an entry has begun, and has not ended
    by_cases hborn : s.ticks.threads.stage entry.1 = .unborn
    · rw [hborn] at hlive
      cases hlive
    · rw [hended outcome hstage _ hborn] at hlive
      cases hlive
  · exact workers_eq_nil h (by rw [hstage]; rfl)
  · intro d hd
    rcases spawnedFits ho hsignalled h hd with hmem | hgone
    · unfold SessionThreads.listed at hmem
      rw [workers_eq_nil h (by rw [hstage]; rfl), hstage] at hmem
      cases hmem
    · exact hgone
  · have hgone := (shutdownFits h hasks).gone (waits_of_returned h hstage)
    exact ⟨((countersFit (laneReached h)).gone hgone).2, isDrained_of_gone (laneReached h) hgone⟩

/-- A session runs one tick, and ends. The execution that the tick has detached has not come to its end
by then, and neither has a task at the lane. -/
theorem settlesUp_of_detached : ∃ (config : SessionSettings) (o : Operator)
    (es : List (SessionEvent Nat Nat)) (s : SessionThreads Nat Nat),
    o.inFlight = [] ∧ o.signalled = [] ∧ Run (SessionStep config) (.begin o {}) es s ∧
      (∀ e ∈ es, e.isForeign = false) ∧ .tick (.spawn 1) ∈ es ∧
      .lane (.send ⟨1, "scan", 0⟩) ∈ es ∧ ¬ LoadFailed es ∧
      s.stage = .returned (.ok ⟨1, 1, 0⟩) ∧ SettlesUp config es s := by
  let press : Compiled := ⟨{ name := "press", async := true }, .press "space" .zero⟩
  let mark : Compiled := ⟨{ name := "set_fact" }, .setFact "shot" (.bool true)⟩
  let plan : Plan :=
    { template := { subDir := "main", name := "demo", rules := [{ id := "shoot" }] }
      operations := [("shoot", [press, mark])] }
  let o : Operator :=
    { store := ⟨⟨"rules", ["rules"]⟩⟩, registry := {}, subDir := "main", name := "demo",
      lifecycle := .loaded, plan := some plan }
  let config : SessionSettings := { maxTicks := some 1 }
  let first : TickWork := ⟨"shoot", press, true, .fresh⟩
  let second (stage : ExecStage) : TickWork := ⟨"shoot", mark, false, stage⟩
  have h1 : Run (SessionStep (α := Nat) (ω := Nat) config) (.begin o {}) [] (.begin o {}) := .nil
  have h2 := ((h1.snoc (.look rfl)).snoc (.tickDue rfl)).snoc (.enterTick rfl rfl)
  have h3 := h2.snoc (.takePlan rfl rfl)
  -- the first operation is detached
  have h4 := (h3.snoc (.tick (.look rfl))).snoc (.tick (.take (w := first) rfl rfl .take))
  have h5 := h4.snoc (.tick (.own (d := 1) (w := first) rfl .enter (.enter 1 _ rfl)))
  have h6 := h5.snoc (.tick (.own (d := 1) (w := first) rfl .check (.check 1 rfl)))
  have h7 := h6.snoc (.tick (.spawn (d := 1) (w := first) rfl rfl rfl rfl))
  -- the tick waits for the second one
  have h8 := h7.snoc (.tick (.take (w := second .fresh) rfl rfl .take))
  have h9 := h8.snoc (.tick (.own (d := 2) (w := second .fresh) rfl .enter (.enter 2 _ rfl)))
  have h10 := h9.snoc (.tick (.own (d := 2) (w := second .fresh) rfl .check (.check 2 rfl)))
  have h11 := h10.snoc (.tick (.own (d := 2) (w := second .fresh) rfl .start (.start 2 rfl)))
  have h12 := h11.snoc (.tick (.exec (d := 2) (w := second .fresh) rfl rfl .begin))
  have h13 := h12.snoc
    (.tick (.exec (d := 2) (w := second (.storing "shot" (.bool true))) rfl rfl (.write _ _)))
  have h14 := h13.snoc
    (.tick (.own (d := 2) (w := second (.ended .done)) rfl (.finish rfl) (.finish 2 rfl)))
  have h15 := h14.snoc
    (.tick (.answer (d := 2) (w := second (.ended .done)) rfl rfl rfl rfl (.leave 2 rfl)))
  have h16 := ((h15.snoc (.tick (.record rfl))).snoc (.tick (.emit rfl))).snoc (.answer rfl rfl)
  -- a task comes to the lane, and the session ends
  have h17 := h16.snoc (.lane (by simp [LaneEvent.caller?]) (.issue "scan" 0))
  have h18 := h17.snoc (.lane (by simp [LaneEvent.caller?]) (.send (List.mem_singleton_self _) rfl))
  have h19 := h18.snoc (.judge rfl)
  obtain ⟨front, m, hfront, hover, hspawn, hsend, halone, hloaded⟩ : ∃ front m,
      Run (SessionStep config) (.begin o {}) front m ∧ m.stage = .stopping (.ok ⟨1, 1, 0⟩) ∧
        .tick (.spawn 1) ∈ front ∧ .lane (.send ⟨1, "scan", 0⟩) ∈ front ∧
          (∀ e ∈ front, e.isForeign = false) ∧ ¬ LoadFailed front := by
    refine ⟨_, _, h19, rfl, ?_, List.mem_append_left _ (List.mem_append_right _ ?_), ?_, ?_⟩
    · simp only [List.mem_append, List.mem_singleton, true_or, or_true]
    · exact List.mem_singleton.2 rfl
    · simp only [List.forall_mem_append, List.forall_mem_singleton]
      and_intros
      · exact List.forall_mem_nil _
      all_goals rfl
    · rintro ⟨files, e, hload⟩
      simp only [List.mem_append, List.mem_singleton, List.not_mem_nil, reduceCtorEq,
        or_false] at hload
  -- the session and the threads that it waits for do what is left to do
  obtain ⟨fs, s, hend, hwinds, hreturned⟩ := canReturn_of_stopping hfront hover
  have hrun := hfront.append hend
  have halone' : ∀ e ∈ front ++ fs, e.isForeign = false := by
    intro e he
    rcases List.mem_append.1 he with he | he
    · exact halone e he
    · exact SessionEvent.isForeign_of_windsUp (hwinds e he)
  refine ⟨config, o, front ++ fs, s, rfl, rfl, hrun, halone', List.mem_append_left fs hspawn,
    List.mem_append_left fs hsend, ?_, hreturned, settlesUp rfl rfl hrun halone'⟩
  rintro ⟨files, e, hload⟩
  exact hloaded ⟨files, e, SessionEvent.mem_of_windsUp hwinds hload rfl⟩

end Runs

end RuleEngine
