import RuleEngine.Proofs.Operator.Load
import RuleEngine.Proofs.Operator.TickCalls
import RuleEngine.Proofs.Operator.TickOrigins

set_option autoImplicit false

/-! # The plan covers the template

The operations of a plan lie in a table beside the rules of its template, under the ids of the rules. A
template that was loaded has passed three checks: no id is blank, no id stands for two rules, and the
descriptors of every rule compile. Hence the table has an entry for every rule and no others, and each
entry has the operations of its rule, one for each descriptor and in order (`Plan.Covers`). So a tick
finds the operations of every rule that it fires, and whatever it is answered, the operations that it
calls for a rule are those of the rule.

An operator gets its plan from a load, and a tick gets it from the operator; nobody else has one
(`CallStep.holds`). So this is true of every plan at an operator (`covers_of_run`).
-/

namespace RuleEngine

variable {registry : Registry} {plan : Plan}

/-! ## The table of operations -/

theorem Registry.descriptor_of_compile {d : Descriptor} {c : Compiled}
    (h : registry.compile d = .ok c) : c.descriptor = d := by
  obtain ⟨_, _, -, -, -, rfl⟩ := Registry.compile_eq_ok.1 h
  rfl

namespace Plan

theorem Compiles.descriptors {ds : List Descriptor} {cs : List Compiled}
    (h : Compiles registry ds cs) : cs.map (·.descriptor) = ds := by
  induction h with
  | nil => rfl
  | cons hcompile _ ih => rw [List.map_cons, ih, Registry.descriptor_of_compile hcompile]

/-- The table of a compiled template has the ids of its rules. -/
theorem entered_of_compile {t : Template} (h : compile registry t = .ok plan) :
    Entered registry plan.operations t.rules := by
  have hspec := compileRules_spec (TemplateStore.shown t.subDir t.name) t.rules
    (.nil : Entered registry [] [])
  obtain ⟨operations, hrules, rfl⟩ := Except.map_eq_ok.1 h
  rw [List.nil_append] at hspec
  unfold TemplateStore.shown at hspec
  rwa [hrules] at hspec

/-- An id with an entry has the operations that a tick finds under it. -/
theorem get?_eq_operationsOf {r : Rule} (h : plan.operations.contains r.id = true) :
    plan.operations.get? r.id = some (plan.operationsOf r) := by
  obtain ⟨cs, hcs⟩ := Option.isSome_iff_exists.1 h
  unfold operationsOf
  rw [hcs]
  rfl

end Plan

/-- The calls of a rule are its own operations, in order, up to the first one that fails. -/
structure RuleRun.IsOwn (run : RuleRun) : Prop where
  rule : ∀ c ∈ run.calls, c.rule = run.rule.id
  inOrder : run.calls.map (·.operation.descriptor) <+: run.rule.operations
  failureEnds : ∀ front c back, run.calls = front ++ c :: back → c.failure? ≠ none → back = []
  complete : (∀ c ∈ run.calls, c.failure? = none) →
    run.calls.map (·.operation.descriptor) = run.rule.operations

theorem RuleRun.IsOwn.of_follows {run : RuleRun} {cs : List Compiled}
    (h : Call.Follows run.rule.id cs run.calls)
    (hcs : cs.map (·.descriptor) = run.rule.operations) : run.IsOwn where
  rule := h.ofRule
  inOrder := by
    have hprefix := h.inOrder.map (·.descriptor)
    rwa [List.map_map, hcs] at hprefix
  failureEnds := h.failureEnds
  complete hall := by
    have hsame := congrArg (List.map (·.descriptor)) (h.complete hall)
    rwa [List.map_map, hcs] at hsame

/-- The plan has the operations of every rule of its template, and a tick calls them for no other. -/
structure Plan.Covers (registry : Registry) (plan : Plan) : Prop where
  named : ∀ r ∈ plan.template.rules, Text.isBlankText r.id = false
  distinct : (plan.template.rules.map (·.id)).Nodup
  /-- Every rule has an entry: what the registry has made of its descriptors, one by one. -/
  entry : ∀ r ∈ plan.template.rules, ∃ cs, plan.operations.get? r.id = some cs ∧
    cs.map (·.descriptor) = r.operations ∧ Compiles registry r.operations cs
  /-- There are no other entries. -/
  only : ∀ key, plan.operations.contains key = true → key ∈ plan.template.rules.map (·.id)
  /-- A tick finds an entry for every rule that it fires. -/
  found : ∀ facts, ∀ r ∈ Rule.select facts plan.template.rules,
    plan.operations.get? r.id = some (plan.operationsOf r)
  /-- Whatever a tick is answered, and whenever it is told of a stop, it calls for the rules that it
  begins their own operations; and it begins all that fire, unless it is told of a stop or a critical
  one fails. -/
  calls : ∀ tick facts stopped calls result,
    (Tick.program plan tick facts).Makes stopped calls result →
    ∃ runs : List RuleRun, calls = runs.flatMap (·.calls) ∧
      runs.map (·.rule) <+: Rule.select facts plan.template.rules ∧ (∀ run ∈ runs, run.IsOwn) ∧
      (stopped = false → (∀ run ∈ runs, ¬run.EndsTick) →
        runs.map (·.rule) = Rule.select facts plan.template.rules)

/-- **A template that compiles is covered.** -/
theorem Plan.covers_of_compile (h : compile registry plan.template = .ok plan) :
    plan.Covers registry := by
  have hentered := entered_of_compile h
  have hcompiles := compiles_operationsOf h
  have hget : ∀ r ∈ plan.template.rules,
      plan.operations.get? r.id = some (plan.operationsOf r) := fun r hr =>
    get?_eq_operationsOf ((hentered.keys _).2 (List.mem_map_of_mem hr))
  constructor
  case named => exact hentered.identified.named
  case distinct => exact hentered.identified.distinct
  case entry => exact fun r hr => ⟨_, hget r hr, (hcompiles r hr).descriptors, hcompiles r hr⟩
  case only => exact fun key => (hentered.keys key).1
  case found => exact fun facts r hr => hget r ((Rule.select_sublist _ _).subset hr)
  case calls =>
    intro tick facts stopped calls result hmakes
    obtain ⟨runs, hmade⟩ := Tick.program_made hmakes
    refine ⟨runs, hmade.calls, hmade.inOrder, fun run hrun => ?_, hmade.all⟩
    have hfires := hmade.inOrder.subset (List.mem_map_of_mem hrun)
    have hrule := (Rule.select_sublist _ _).subset hfires
    exact .of_follows (hmade.follows run hrun) (hcompiles _ hrule).descriptors

/-! ## Who has a plan -/

/-- The operator has the plan, or a tick that has taken it. -/
def OperatorCalls.Holds (s : OperatorCalls) (plan : Plan) : Prop :=
  s.operator.plan = some plan ∨ ∃ caller, s.ticks caller = .planned plan

theorem Operator.loadPlan_of_load {o o' : Operator} {files : FileTree} {n : Notice}
    (h : o.load files = .ok (n, o')) : ∃ plan, o.loadPlan files = .ok plan ∧ o'.plan = some plan := by
  unfold load at h
  split at h
  · split at h
    · cases h
    · next plan hplan =>
      cases h
      exact ⟨plan, hplan, rfl⟩
  · cases h

/-- The template of a plan was in the store, and its operations were compiled. -/
theorem Operator.loadPlan_eq_ok {o : Operator} {files : FileTree} (h : o.loadPlan files = .ok plan) :
    o.store.load files o.subDir o.name o.fromArtifact = .ok plan.template ∧
      Plan.compile o.registry plan.template = .ok plan := by
  unfold loadPlan at h
  split at h
  · cases h
  · next t hstore =>
    obtain rfl := Plan.template_compile h
    exact ⟨hstore, h⟩

theorem Operator.loadPlan_of_sameSource {o o' : Operator} (h : o.SameSource o') (files : FileTree) :
    o'.loadPlan files = o.loadPlan files := by
  unfold loadPlan
  rw [h.store, h.registry, h.subDir, h.name, h.fromArtifact]

/-- A plan was there before, or it comes from a load. -/
theorem CallStep.holds {s t : OperatorCalls} {e : CallEvent} (h : CallStep s e t)
    (ht : t.Holds plan) : s.Holds plan ∨ ∃ files, s.operator.loadPlan files = .ok plan := by
  cases h with
  | @load files n o hload =>
      rcases ht with hplan | htick
      · obtain ⟨loaded, hloaded, hsame⟩ := Operator.loadPlan_of_load hload
        obtain rfl : loaded = plan := Option.some.inj (hsame.symm.trans hplan)
        exact .inr ⟨files, hloaded⟩
      · exact .inl (.inr htick)
  | @enterTick answer _ caller _ henter =>
      left
      rcases ht with hplan | ⟨other, htick⟩
      · rcases Operator.enterTick_cases henter with ⟨-, -, rfl⟩ | ⟨-, -, rfl⟩ <;> exact .inl hplan
      · refine .inr ⟨other, ?_⟩
        dsimp only at htick
        by_cases hcaller : other = caller
        · rw [hcaller, Function.update_self] at htick
          cases answer <;> cases htick
        · rwa [Function.update_of_ne hcaller] at htick
  | @takePlan answer caller _ hcurrent =>
      left
      rcases ht with hplan | ⟨other, htick⟩
      · exact .inl hplan
      · dsimp only at htick
        by_cases hcaller : other = caller
        · rw [hcaller, Function.update_self] at htick
          cases answer with
          | error e => cases htick
          | ok taken =>
              cases htick
              exact .inl (Operator.plan_of_currentPlan hcurrent)
        · rw [Function.update_of_ne hcaller] at htick
          exact .inr ⟨other, htick⟩
  | inner hinner =>
      left
      rcases ht with hplan | htick
      · rcases hinner.plan_cases with hsame | hnone
        · exact .inl (hsame.symm.trans hplan)
        · exact absurd (hnone.symm.trans hplan) nofun
      · exact .inr htick
  | _ => exact .inl ht

theorem loadPlan_of_run {o : Operator} {es : List CallEvent} {s : OperatorCalls} (ho : o.IsNew)
    (h : Run CallStep (.begin o) es s) (hplan : s.Holds plan) :
    ∃ files, o.loadPlan files = .ok plan := by
  induction h with
  | nil =>
      rcases hplan with hplan | ⟨caller, htick⟩
      · exact absurd (ho.planless.symm.trans hplan) nofun
      · cases htick
  | snoc hrun hstep ih =>
      rcases hstep.holds hplan with hbefore | ⟨files, hloaded⟩
      · exact ih hbefore
      · rw [Operator.loadPlan_of_sameSource (sameSource_of_run hrun)] at hloaded
        exact ⟨files, hloaded⟩

/-- **Every plan at an operator covers its template**, however the calls at the operator take turns, and
wherever the template was loaded from. -/
theorem covers_of_run {o : Operator} {es : List CallEvent} {s : OperatorCalls} (ho : o.IsNew)
    (h : Run CallStep (.begin o) es s) (hplan : s.Holds plan) : plan.Covers o.registry := by
  obtain ⟨files, hloaded⟩ := loadPlan_of_run ho h hplan
  exact Plan.covers_of_compile (Operator.loadPlan_eq_ok hloaded).2

/-- An artifact is loaded, and a tick takes the plan before the operator is stopped and gives it up. -/
theorem covers_of_run_artifact : ∃ (o : Operator) (es : List CallEvent) (s : OperatorCalls) (plan : Plan),
    o.IsNew ∧ o.fromArtifact = true ∧ Run CallStep (.begin o) es s ∧ s.operator.plan = none ∧
      s.Holds plan ∧ plan.template.rules.map (·.id) = ["look", "mark"] ∧ plan.Covers o.registry := by
  let o : Operator :=
    { store := ⟨⟨"rules", ["rules"]⟩⟩, registry := .builtin, subDir := "main", name := "demo",
      fromArtifact := true }
  let files : FileTree :=
    { files := [(["rules", "main", "demo.yaml"],
        "sub_dir: main\nname: demo\nrules:\n- id: look\n- id: mark\n  operations:\n" ++
          "  - name: set_fact\n    params:\n      key: seen\n      value: true\n" ++
          "  - name: set_fact\n    params:\n      key: left\n      value: 3\n")]
      dirs := [["rules"], ["rules", "main"]] }
  let seen : Descriptor :=
    { name := "set_fact", params := [("key", .str "seen"), ("value", .bool true)] }
  let left : Descriptor :=
    { name := "set_fact", params := [("key", .str "left"), ("value", .num (.int 3))] }
  let t : Template :=
    { subDir := "main", name := "demo",
      rules := [{ id := "look" }, { id := "mark", operations := [seen, left] }] }
  let plan : Plan := ⟨t, [("look", []), ("mark",
    [⟨seen, .setFact "seen" (.bool true)⟩, ⟨left, .setFact "left" (.num (.int 3))⟩])]⟩
  have hstore : o.store.load files o.subDir o.name o.fromArtifact = .ok t := by decide +kernel
  have hcompile : Plan.compile o.registry t = .ok plan := by decide +kernel
  have hload := Operator.load_of_compile (o := o) rfl hstore hcompile
  have h1 : Run CallStep (.begin o) [] (.begin o) := .nil
  have h2 := (h1.snoc (.load hload)).snoc (.enterTick 1 rfl rfl)
  have h3 := (h2.snoc (.takePlan 1 rfl rfl)).snoc (.inner .stop)
  have h4 := (h3.snoc (.inner (.look rfl))).snoc (.inner (.looked rfl (by decide)))
  have h5 := (h4.snoc (.inner (.wipe rfl))).snoc (.inner (.wiped rfl (by decide)))
  have h6 := h5.snoc (.inner (.release rfl))
  refine ⟨o, _, _, plan, ⟨rfl, rfl⟩, rfl, h6, rfl, .inr ⟨1, rfl⟩, rfl, ?_⟩
  exact covers_of_run ⟨rfl, rfl⟩ h6 (.inr ⟨1, rfl⟩)

end RuleEngine
