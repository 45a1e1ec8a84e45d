import RuleEngine.Proofs.Operator.Program
import RuleEngine.Proofs.Operator.Tick

set_option autoImplicit false

/-! # What a tick calls, whatever it is answered

Between any two steps of a tick the operator may be stopped, and what an operation answers is open. So
the calls of a tick are read off its program, for all answers (`TickProgram.Makes`). Rule by rule, a tick
calls the operations that its plan has for the rule, in order and up to the first one that fails; a stop
that it is told of keeps it from further rules, and never from an operation of a rule that it goes
through (`Tick.program_made`). A tick that nobody interrupts is a case of this (`Tick.run_made`).
-/

namespace RuleEngine

/-! ## The calls of a program -/

/-- A call of an operation that the tick has waited for. -/
def Call.answered (rule : String) (c : Compiled) : Except ActionFailure Unit → Call
  | .ok _ => ⟨rule, c, some .done⟩
  | .error f => ⟨rule, c, some (.failed f)⟩

/-- With some answers the program makes these calls on its way to a result. The flag says that it was
told of a stop when it looked. -/
inductive TickProgram.Makes {α : Type} : TickProgram α → Bool → List Call → α → Prop
  | ret (a : α) : Makes (.ret a) false [] a
  | look {next : Bool → TickProgram α} {stopped : Bool} {calls : List Call} {a : α} (seen : Bool) :
      Makes (next seen) stopped calls a → Makes (.look next) (seen || stopped) calls a
  | execute {rule : String} {c : Compiled} {next : Except ActionFailure Unit → TickProgram α}
      {stopped : Bool} {calls : List Call} {a : α} (result : Except ActionFailure Unit) :
      Makes (next result) stopped calls a →
      Makes (.execute rule c next) stopped (.answered rule c result :: calls) a
  | dispatch {rule : String} {c : Compiled} {next : TickProgram α} {stopped : Bool}
      {calls : List Call} {a : α} :
      Makes next stopped calls a → Makes (.dispatch rule c next) stopped (⟨rule, c, none⟩ :: calls) a
  | record {rule : String} {next : TickProgram α} {stopped : Bool} {calls : List Call} {a : α} :
      Makes next stopped calls a → Makes (.record rule next) stopped calls a
  | emit {n : Notice} {next : TickProgram α} {stopped : Bool} {calls : List Call} {a : α} :
      Makes next stopped calls a → Makes (.emit n next) stopped calls a

namespace Tick

variable {α : Type} {rule : String} {c : Compiled} {cs : List Compiled} {stopped : Bool}
  {calls : List Call}

/-! ## The operations of a rule -/

/-- The calls of one rule, and how the rule has ended. The flag says that a stop was seen. -/
structure MadeRule (rule : String) (cs : List Compiled) (seen : Bool) (calls : List Call)
    (ending : RuleEnd) : Prop where
  follows : Call.Follows rule cs calls
  stopped : ending = .stopped → seen = true
  failure : ending ≠ .stopped → ending.failure? = calls.findSome? Call.failure?

theorem MadeRule.nil (rule : String) : MadeRule rule [] false [] .done :=
  ⟨.nil rule, nofun, fun _ => rfl⟩

/-- A call that does not fail leads on to the other operations. -/
theorem MadeRule.cons {seen : Bool} {ending : RuleEnd} (call : Call)
    (h : MadeRule rule cs seen calls ending) (hrule : call.rule = rule)
    (hasync : call.outcome = none ↔ call.operation.isAsync = true) (hok : call.failure? = none) :
    MadeRule rule (call.operation :: cs) seen (call :: calls) ending where
  follows := h.follows.cons hrule hasync hok
  stopped := h.stopped
  failure hne := by rw [h.failure hne, List.findSome?_cons, hok]

/-- A call that fails is the last one of its rule. -/
theorem MadeRule.failed (cs : List Compiled) (hsync : ¬c.isAsync = true) (f : ActionFailure)
    (seen : Bool) {ending : RuleEnd} (hstopped : ending = .stopped → seen = true)
    (hfailure : ending ≠ .stopped → ending.failure? = some f) :
    MadeRule rule (c :: cs) seen [.answered rule c (.error f)] ending where
  follows := Call.Follows.failed (c := .answered rule c (.error f)) cs rfl
    (by simpa [Call.answered] using hsync) nofun
  stopped := hstopped
  failure := hfailure

theorem operationsProgram_makes {next : RuleEnd → TickReport → TickProgram α} {report : TickReport}
    {a : α} (h : (operationsProgram rule next cs report).Makes stopped calls a) :
    ∃ front back ending later seen stopped', calls = front ++ back ∧ stopped = (seen || stopped') ∧
      MadeRule rule cs seen front ending ∧ (next ending later).Makes stopped' back a := by
  induction cs generalizing report calls with
  | nil => exact ⟨[], calls, .done, report, false, stopped, rfl, rfl, .nil rule, h⟩
  | cons c cs ih =>
      unfold operationsProgram at h
      by_cases hasync : c.isAsync = true
      · rw [if_pos hasync] at h
        cases h with
        | dispatch hrest =>
            obtain ⟨front, back, ending, later, seen, stopped', rfl, hstopped, hmade, hback⟩ := ih hrest
            refine ⟨⟨rule, c, none⟩ :: front, back, ending, later, seen, stopped', rfl, hstopped, ?_,
              hback⟩
            exact .cons ⟨rule, c, none⟩ hmade rfl (by simpa using hasync) rfl
      · rw [if_neg hasync] at h
        cases h with
        | execute result hrest =>
            cases result with
            | ok _ =>
                cases hrest with
                | record hrest =>
                    obtain ⟨front, back, ending, later, seen, stopped', rfl, hstopped, hmade, hback⟩ :=
                      ih hrest
                    refine ⟨_ :: front, back, ending, later, seen, stopped', rfl, hstopped, ?_, hback⟩
                    exact .cons (.answered rule c (.ok ())) hmade rfl
                      (by simpa [Call.answered] using hasync) rfl
            | error f =>
                dsimp only at hrest
                by_cases hstop : f.isStopped = true
                · -- the tick looks whether the operation has answered a stop
                  rw [if_pos hstop] at hrest
                  cases hrest with
                  | look seen hrest =>
                      cases seen with
                      | true =>
                          exact ⟨[_], _, .stopped, report, true, _, rfl, rfl,
                            .failed cs hasync f true (fun _ => rfl) (fun hne => absurd rfl hne), hrest⟩
                      | false =>
                          exact ⟨[_], _, .failed c.name f, report, false, _, rfl, rfl,
                            .failed cs hasync f false nofun (fun _ => rfl), hrest⟩
                · rw [if_neg hstop] at hrest
                  exact ⟨[_], _, .failed c.name f, report, false, _, rfl, rfl,
                    .failed cs hasync f false nofun (fun _ => rfl), hrest⟩

/-! ## The rules of a tick -/

/-- The calls of a tick belong to rules, in their order, and are for each of them those of its
operations. Without a stop and a critical failure no rule is left out. -/
structure Made (plan : Plan) (rules : List Rule) (stopped : Bool) (calls : List Call)
    (runs : List RuleRun) : Prop where
  calls : calls = runs.flatMap (·.calls)
  inOrder : runs.map (·.rule) <+: rules
  follows : ∀ run ∈ runs, Call.Follows run.rule.id (plan.operationsOf run.rule) run.calls
  all : stopped = false → (∀ run ∈ runs, ¬run.EndsTick) → runs.map (·.rule) = rules

section Rules

variable {plan : Plan} {r : Rule} {rs : List Rule} {report : TickReport} {runs : List RuleRun}
  {front back : List Call} {seen stopped' : Bool} {ending : RuleEnd}
  {result : Except EngineError TickReport}

theorem calls_of_completion (h : (completion report).Makes stopped calls result) : calls = [] := by
  cases h with
  | emit h =>
      cases h
      rfl

/-- The tick goes on behind a rule. -/
theorem Made.cons (h : Made plan rs stopped' back runs)
    (hrule : MadeRule r.id (plan.operationsOf r) seen front ending) :
    Made plan (r :: rs) (seen || stopped') (front ++ back) (⟨r, front⟩ :: runs) where
  calls := by rw [h.calls, List.flatMap_cons]
  inOrder := List.cons_prefix_cons.2 ⟨rfl, h.inOrder⟩
  follows := List.forall_mem_cons.2 ⟨hrule.follows, h.follows⟩
  all hquiet hnone := by
    rw [List.map_cons, h.all (Bool.or_eq_false_iff.1 hquiet).2 (List.forall_mem_cons.1 hnone).2]

/-- The tick ends in front of a rule, because of a stop. -/
theorem Made.noticed (plan : Plan) (rules : List Rule) (stopped : Bool) :
    Made plan rules (true || stopped) [] [] where
  calls := rfl
  inOrder := List.nil_prefix
  follows := by simp
  all := by simp

/-- The tick ends with a rule, because of a stop or of a critical failure. -/
theorem Made.last (hrule : MadeRule r.id (plan.operationsOf r) seen front ending)
    (hends : stopped = false → RuleRun.EndsTick ⟨r, front⟩) :
    Made plan (r :: rs) stopped front [⟨r, front⟩] where
  calls := by rw [List.flatMap_singleton]
  inOrder := by simp
  follows := by simpa using hrule.follows
  all hquiet hnone := absurd (hends hquiet) (hnone _ List.mem_cons_self)

theorem rulesProgram_makes (h : (rulesProgram plan rs report).Makes stopped calls result) :
    ∃ runs, Made plan rs stopped calls runs := by
  induction rs generalizing report stopped calls with
  | nil =>
      obtain rfl := calls_of_completion h
      exact ⟨[], rfl, List.nil_prefix, by simp, fun _ _ => rfl⟩
  | cons r rs ih =>
      unfold rulesProgram at h
      cases h with
      | look stop h =>
          cases stop with
          | true =>
              obtain rfl := calls_of_completion h
              exact ⟨[], .noticed plan (r :: rs) _⟩
          | false =>
              obtain ⟨front, back, ending, later, seen, stopped', rfl, rfl, hrule, hback⟩ :=
                operationsProgram_makes h
              rw [Bool.false_or]
              cases ending with
              | done =>
                  obtain ⟨runs, hruns⟩ := ih hback
                  exact ⟨_, hruns.cons hrule⟩
              | stopped =>
                  obtain rfl := calls_of_completion hback
                  rw [List.append_nil, hrule.stopped rfl]
                  exact ⟨_, .last hrule (by simp)⟩
              | failed operation f =>
                  cases hback with
                  | emit hback =>
                      by_cases hcritical : r.critical = true
                      · rw [if_pos hcritical] at hback
                        cases hback with
                        | emit hback =>
                            cases hback
                            have hfailed : RuleRun.failure? ⟨r, front⟩ = some f :=
                              (hrule.failure (by simp)).symm
                            rw [List.append_nil]
                            exact ⟨_, .last hrule fun _ => ⟨hcritical, by simp [hfailed]⟩⟩
                      · rw [if_neg hcritical] at hback
                        obtain ⟨runs, hruns⟩ := ih hback
                        exact ⟨_, hruns.cons hrule⟩

/-- **Whatever a tick is answered, it calls the operations of its rules in order.** -/
theorem program_made {tick : Nat} {facts : FactSource}
    (h : (program plan tick facts).Makes stopped calls result) :
    ∃ runs, Made plan (Rule.select facts plan.template.rules) stopped calls runs :=
  rulesProgram_makes h

end Rules

end Tick

/-! ## A tick that nobody interrupts -/

section Alone

variable {α σ : Type}

/-- Surroundings that also keep a list of the calls. -/
def TickEnv.calling (env : TickEnv σ) : TickEnv (σ × List Call) where
  isStopped s := env.isStopped s.1
  execute rule c s :=
    let (result, s') := env.execute rule c s.1
    (result, s', s.2 ++ [.answered rule c result])
  dispatch rule c s := (env.dispatch rule c s.1, s.2 ++ [⟨rule, c, none⟩])
  record rule s := (env.record rule s.1, s.2)
  emit n s := (env.emit n s.1, s.2)

/-- The calls of a program that nobody interrupts are calls of the program. -/
theorem TickProgram.run_makes (env : TickEnv σ) (p : TickProgram α) (s : σ) (log : List Call) :
    ∃ stopped calls, p.Makes stopped calls (p.run env.calling (s, log)).1 ∧
      (p.run env.calling (s, log)).2.2 = log ++ calls := by
  induction p generalizing s log with
  | ret a => exact ⟨false, [], .ret a, (List.append_nil log).symm⟩
  | look next ih =>
      obtain ⟨stopped, calls, hmakes, hlog⟩ := ih (env.isStopped s) s log
      exact ⟨_, calls, .look _ hmakes, hlog⟩
  | execute rule c next ih =>
      obtain ⟨stopped, calls, hmakes, hlog⟩ := ih (env.execute rule c s).1 (env.execute rule c s).2
        (log ++ [.answered rule c (env.execute rule c s).1])
      refine ⟨stopped, _ :: calls, .execute _ hmakes, ?_⟩
      rw [List.append_assoc] at hlog
      exact hlog
  | dispatch rule c next ih =>
      obtain ⟨stopped, calls, hmakes, hlog⟩ := ih (env.dispatch rule c s) (log ++ [⟨rule, c, none⟩])
      refine ⟨stopped, _ :: calls, .dispatch hmakes, ?_⟩
      rw [List.append_assoc] at hlog
      exact hlog
  | record rule next ih =>
      obtain ⟨stopped, calls, hmakes, hlog⟩ := ih (env.record rule s) log
      exact ⟨stopped, calls, .record hmakes, hlog⟩
  | emit n next ih =>
      obtain ⟨stopped, calls, hmakes, hlog⟩ := ih (env.emit n s) log
      exact ⟨stopped, calls, .emit hmakes, hlog⟩

/-- A tick that nobody interrupts calls the operations of its rules in order. -/
theorem Tick.run_made (env : TickEnv σ) (plan : Plan) (tick : Nat) (facts : FactSource) (s : σ) :
    ∃ stopped runs, Made plan (Rule.select facts plan.template.rules) stopped
      (Tick.run env.calling plan tick facts (s, [])).2.2 runs := by
  obtain ⟨stopped, calls, hmakes, hlog⟩ := (program plan tick facts).run_makes env s []
  rw [Tick.run_program] at hmakes hlog
  rw [hlog, List.nil_append]
  exact ⟨stopped, program_made hmakes⟩

end Alone

end RuleEngine
