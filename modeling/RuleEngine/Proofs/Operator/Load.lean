import RuleEngine.Proofs.Operation.Builtin
import RuleEngine.Proofs.Operator.Lifecycle
import RuleEngine.Proofs.Template.Fault

set_option autoImplicit false

/-! # Loads

What can be wrong with the content of a store (`Operator.LoadFault`) are the files of a template, what
they say, the ids of the rules, and the operations that the rules list. A load succeeds exactly if
nothing of this is wrong, and then the operator has the template that was asked for, whole and
compiled. Otherwise the load fails with one of the faults, and nothing has happened: a later load is
like a first one, whatever was called in the meantime (`loadsWholly`).

A template that is missing is an error of the configuration. Of the errors that a variant has for an
operation only those of the configuration are changed, so one that says that something was not found is
passed on as it is (`Plan.VariantFault`); the built-in variants have none.
-/

namespace RuleEngine

/-! ## Rules -/

namespace Plan

variable {registry : Registry} {shown id : String} {rules : List Rule} {t : Template} {plan : Plan}

/-- What is wrong with the rules of a template that messages call `shown`. -/
inductive RuleFault (registry : Registry) (shown : String) (rules : List Rule) : EngineError → Prop
  | blank {r : Rule} :
      r ∈ rules → Text.isBlankText r.id = true →
      RuleFault registry shown rules
        (.configuration ("template " ++ shown ++ " has a rule without an id"))
  | repeated {front back : List Rule} {q r : Rule} :
      rules = front ++ r :: back → q ∈ front → q.id = r.id →
      RuleFault registry shown rules
        (.configuration ("duplicate rule id '" ++ r.id ++ "' in template " ++ shown))
  /-- The registry refuses an operation. -/
  | operation {r : Rule} {d : Descriptor} {e : EngineError} :
      r ∈ rules → d ∈ r.operations → registry.Refuses d e →
      RuleFault registry shown rules (inRule r.id e)

theorem Compiles.not_refuses {descriptors : List Descriptor} {operations : List Compiled}
    (h : Compiles registry descriptors operations) {d : Descriptor} (hd : d ∈ descriptors)
    (e : EngineError) : ¬registry.Refuses d e := by
  intro hrefused
  induction h with
  | nil => cases hd
  | cons hcompile _ ih =>
      rcases List.mem_cons.1 hd with rfl | hd
      · rw [Registry.compile_eq_error.2 hrefused] at hcompile
        cases hcompile
      · exact ih hd

/-- Nothing is wrong with rules that have ids of their own and operations that compile. -/
theorem not_ruleFault (hids : Rule.AreIdentified rules)
    (hcompiles : ∀ r ∈ rules, ∃ cs, Compiles registry r.operations cs) (x : EngineError) :
    ¬RuleFault registry shown rules x := by
  intro h
  cases h with
  | blank hr hblank =>
      rw [hids.named _ hr] at hblank
      cases hblank
  | repeated hrules hq hid =>
      have hdistinct := hids.distinct
      rw [hrules, List.map_append, List.nodup_append] at hdistinct
      exact hdistinct.2.2 _ (List.mem_map_of_mem hq) _ List.mem_cons_self hid
  | operation hr hd hrefused =>
      obtain ⟨cs, hcs⟩ := hcompiles _ hr
      exact hcs.not_refuses hd _ hrefused

theorem compileRule_eq_error {descriptors : List Descriptor} {x : EngineError}
    (h : compileRule registry id descriptors = .error x) :
    ∃ d ∈ descriptors, ∃ e, registry.Refuses d e ∧ x = inRule id e := by
  induction descriptors with
  | nil => cases h
  | cons d ds ih =>
      rw [compileRule] at h
      cases hd : registry.compile d with
      | error e =>
          rw [hd] at h
          cases h
          exact ⟨d, List.mem_cons_self, e, Registry.compile_eq_error.1 hd, rfl⟩
      | ok c =>
          rw [hd] at h
          obtain ⟨d', hd', e, hrefused, rfl⟩ := ih (Except.map_eq_error.1 h)
          exact ⟨d', List.mem_cons_of_mem _ hd', e, hrefused, rfl⟩

/-- The table of the operations has the ids of rules that nothing is wrong with. -/
structure Entered (registry : Registry) (operations : Table (List Compiled)) (rules : List Rule) :
    Prop where
  keys : ∀ key, operations.contains key = true ↔ key ∈ rules.map (·.id)
  identified : Rule.AreIdentified rules
  compiles : ∀ r ∈ rules, ∃ cs, Compiles registry r.operations cs

theorem Entered.nil : Entered registry [] [] :=
  ⟨by simp [Table.contains, Table.get?], .nil, by simp⟩

theorem Entered.insert {operations : Table (List Compiled)} {r : Rule} {cs : List Compiled}
    (h : Entered registry operations rules) (hblank : Text.isBlankText r.id = false)
    (hnew : operations.contains r.id = false) (hcs : Compiles registry r.operations cs) :
    Entered registry (operations.insert r.id cs) (rules ++ [r]) := by
  constructor
  case keys =>
    intro key
    rw [List.map_append, List.mem_append, List.map_singleton, List.mem_singleton, ← h.keys]
    unfold Table.contains
    rw [Table.get?_insert]
    by_cases hid : r.id = key
    · simp [hid]
    · simp [hid, Ne.symm hid]
  case identified =>
    refine Rule.areIdentified_snoc.2 ⟨h.identified, hblank, fun hmem => ?_⟩
    rw [(h.keys _).2 hmem] at hnew
    cases hnew
  case compiles =>
    intro q hq
    rcases List.mem_append.1 hq with hq | hq
    · exact h.compiles q hq
    · rw [List.mem_singleton.1 hq]
      exact ⟨cs, hcs⟩

/-- Rules are entered one after the other, up to the first one that is faulty. -/
theorem compileRules_spec (shown : String) (rest : List Rule)
    {operations : Table (List Compiled)} (h : Entered registry operations rules) :
    match compileRules registry shown operations rest with
    | .ok operations' => Entered registry operations' (rules ++ rest)
    | .error x => RuleFault registry shown (rules ++ rest) x := by
  induction rest generalizing operations rules with
  | nil =>
      rw [List.append_nil]
      exact h
  | cons r rs ih =>
      have hmem : r ∈ rules ++ r :: rs := List.mem_append_right _ List.mem_cons_self
      rw [compileRules]
      by_cases hblank : Text.isBlankText r.id = true
      · rw [if_pos hblank]
        exact .blank hmem hblank
      · rw [if_neg hblank]
        cases hr : compileRule registry r.id r.operations with
        | error e =>
            obtain ⟨d, hd, e, hrefused, rfl⟩ := compileRule_eq_error hr
            exact .operation hmem hd hrefused
        | ok cs =>
            dsimp only
            by_cases hold : operations.contains r.id = true
            · obtain ⟨q, hq, hid⟩ := List.mem_map.1 ((h.keys _).1 hold)
              rw [if_pos hold]
              exact .repeated rfl hq hid
            · rw [if_neg hold]
              rw [Bool.not_eq_true] at hblank hold
              have hrest := ih (h.insert hblank hold (compiles_compileRule hr))
              rwa [List.append_assoc, List.singleton_append] at hrest

theorem compile_spec (registry : Registry) (t : Template) :
    match compile registry t with
    | .ok _ =>
      Rule.AreIdentified t.rules ∧ ∀ r ∈ t.rules, ∃ cs, Compiles registry r.operations cs
    | .error x => RuleFault registry (TemplateStore.shown t.subDir t.name) t.rules x := by
  have hspec := compileRules_spec (TemplateStore.shown t.subDir t.name) t.rules
    (.nil : Entered registry [] [])
  rw [List.nil_append] at hspec
  have hcompile : compile registry t =
      (compileRules registry (TemplateStore.shown t.subDir t.name) [] t.rules).map
        fun operations => ⟨t, operations⟩ := rfl
  rw [hcompile]
  cases hrules : compileRules registry (TemplateStore.shown t.subDir t.name) [] t.rules with
  | ok operations =>
      rw [hrules] at hspec
      exact ⟨hspec.identified, hspec.compiles⟩
  | error x =>
      rw [hrules] at hspec
      exact hspec

/-- **The rules of a template are compiled, or one of their faults is found.** -/
theorem detects_compile (registry : Registry) (t : Template) :
    Detects (RuleFault registry (TemplateStore.shown t.subDir t.name) t.rules)
      (compile registry t) := by
  have hspec := compile_spec registry t
  cases hcompile : compile registry t with
  | ok plan =>
      rw [hcompile] at hspec
      exact not_ruleFault hspec.1 hspec.2
  | error x =>
      rw [hcompile] at hspec
      exact hspec

theorem areIdentified_of_compile (h : compile registry t = .ok plan) :
    Rule.AreIdentified t.rules := by
  have hspec := compile_spec registry t
  rw [h] at hspec
  exact hspec.1

/-- The variant of an operation that the rules list answers it with an error of another kind than
those of the configuration. -/
structure VariantFault (registry : Registry) (rules : List Rule) (x : EngineError) : Prop where
  foreign : ∀ m, x ≠ .configuration m
  answered : ∃ r ∈ rules, ∃ d ∈ r.operations, ∃ v, registry.variants.get? d.name = some v ∧
    Field.check d.name v.fields d.params = .ok () ∧ v.effect d = .error x

/-- No variant does so if all that the registry answers are errors of the configuration. -/
theorem VariantFault.not_refusesByConfiguration {x : EngineError}
    (h : VariantFault registry rules x) : ¬registry.RefusesByConfiguration := by
  intro hall
  obtain ⟨r, -, d, -, v, hv, hcheck, heffect⟩ := h.answered
  obtain ⟨m, hm⟩ := hall d x (Registry.compile_eq_error.2 (.effect hv hcheck heffect))
  exact h.foreign m hm

/-- The rules are wrong, or a variant has an error of its own for one of their operations. -/
theorem RuleFault.kind {x : EngineError} (h : RuleFault registry shown rules x) :
    (∃ m, x = .configuration m) ∨ VariantFault registry rules x := by
  cases h with
  | blank => exact .inl ⟨_, rfl⟩
  | repeated => exact .inl ⟨_, rfl⟩
  | @operation r d e hr hd hrefused =>
      cases hrefused with
      | unknown => exact .inl ⟨_, rfl⟩
      | parameters _ hcheck =>
          obtain ⟨m, rfl⟩ := Field.error_of_check hcheck
          exact .inl ⟨_, rfl⟩
      | @effect v _ hv hcheck heffect =>
          cases e with
          | configuration m => exact .inl ⟨_, rfl⟩
          -- an error of another kind is passed on as it is
          | _ => exact .inr ⟨nofun, r, hr, d, hd, v, hv, hcheck, heffect⟩

end Plan

/-! ## Loads -/

namespace Operator

variable {o o' : Operator} {disk : Disk} {files : FileTree} {x : EngineError} {plan : Plan}

/-- What is wrong with the content of the store of an operator. -/
inductive LoadFault (o : Operator) (disk : Disk) (files : FileTree) : EngineError → Prop
  | store {e : EngineError} :
      o.store.Fault disk files o.subDir o.name o.fromArtifact e →
      LoadFault o disk files (ofMissing e)
  | rules {t : Template} {e : EngineError} :
      o.store.loadOn disk files o.subDir o.name o.fromArtifact = .ok t →
      Plan.RuleFault o.registry (TemplateStore.shown t.subDir t.name) t.rules e →
      LoadFault o disk files e

theorem ofMissing_of_isContentError (h : TemplateStore.IsContentError x) : ofMissing x = x := by
  cases h <;> rfl

/-- The kinds of errors that a load can have. -/
inductive LoadKind (o : Operator) (disk : Disk) (files : FileTree) : EngineError → Prop
  /-- The content of the store is wrong or cannot be read. -/
  | content {e : EngineError} : TemplateStore.IsContentError e → LoadKind o disk files e
  /-- Two fragments have a rule in common, which an artifact cannot have. -/
  | conflict (id first second : String) :
      o.fromArtifact = false → LoadKind o disk files (.mergeConflict id first second)
  /-- The variant of an operation that the template lists has an error of its own. -/
  | variant {t : Template} {e : EngineError} :
      o.store.loadOn disk files o.subDir o.name o.fromArtifact = .ok t →
      Plan.VariantFault o.registry t.rules e → LoadKind o disk files e

theorem LoadFault.kind (h : o.LoadFault disk files x) : o.LoadKind disk files x := by
  cases h with
  | store hfault =>
      rcases hfault.kind with ⟨what, rfl⟩ | hcontent | ⟨hfrom, id, first, second, rfl⟩
      · exact .content (.configuration _)
      · rw [ofMissing_of_isContentError hcontent]
        exact .content hcontent
      · exact .conflict id first second hfrom
  | rules hload hfault =>
      rcases hfault.kind with ⟨m, rfl⟩ | hvariant
      · exact .content (.configuration m)
      · exact .variant hload hvariant

/-- Only the variant of an operation says that something was not found. -/
theorem LoadKind.of_notFound {what : String} (h : o.LoadKind disk files (.notFound what)) :
    ¬o.registry.RefusesByConfiguration ∧
      ∃ t, o.store.loadOn disk files o.subDir o.name o.fromArtifact = .ok t ∧
        Plan.VariantFault o.registry t.rules (.notFound what) := by
  cases h with
  | content hcontent => cases hcontent
  | variant hload hvariant => exact ⟨hvariant.not_refusesByConfiguration, _, hload, hvariant⟩

/-- How a load of an operator ends. -/
inductive LoadEnd (o : Operator) (disk : Disk) (files : FileTree) :
    Except EngineError (Notice × Operator) → Prop
  /-- The operator has the template that was asked for, and all its operations are compiled. -/
  | loaded {plan : Plan} :
      o.store.loadOn disk files o.subDir o.name o.fromArtifact = .ok plan.template →
      plan.template.subDir = o.subDir → plan.template.name = o.name →
      Rule.AreIdentified plan.template.rules →
      (∀ r ∈ plan.template.rules,
        Plan.Compiles o.registry r.operations (plan.operationsOf r)) →
      (∀ x, ¬o.LoadFault disk files x) →
      LoadEnd o disk files
        (.ok (o.loadedNotice plan.template,
          { o with lifecycle := .loaded, plan := some plan }))
  /-- There is neither a report nor another operator. -/
  | refused {x : EngineError} : o.LoadFault disk files x → LoadEnd o disk files (.error x)

/-- **A load succeeds if nothing is wrong, and otherwise fails with one of the faults.** -/
theorem loadEnd (hstate : o.lifecycle = .unloaded) (disk : Disk) (files : FileTree) :
    o.LoadEnd disk files (o.loadOn disk files) := by
  have hstore := o.store.detects_loadOn disk files o.subDir o.name o.fromArtifact
  unfold loadOn loadPlanOn
  rw [if_pos hstate]
  cases hload : o.store.loadOn disk files o.subDir o.name o.fromArtifact with
  | error e => exact .refused (.store (hstore.fault hload))
  | ok t =>
      have hrules := Plan.detects_compile o.registry t
      dsimp only
      cases hcompile : Plan.compile o.registry t with
      | error e => exact .refused (.rules hload (hrules.fault hcompile))
      | ok plan =>
          obtain rfl := Plan.template_compile hcompile
          obtain ⟨hsubDir, hname⟩ := TemplateStore.names_of_loadOn hload
          refine .loaded hload hsubDir hname (Plan.areIdentified_of_compile hcompile)
            (Plan.compiles_operationsOf hcompile) fun x h => ?_
          cases h with
          | store hfault => exact hstore.not_fault hload _ hfault
          | rules hload' hfault =>
              obtain rfl := Except.ok.inj (hload.symm.trans hload')
              exact hrules.not_fault hcompile _ hfault

/-- What a load answers if the template is not where it is looked for. -/
structure TellsMissing (o : Operator) (disk : Disk) (files : FileTree) : Prop where
  fragments : ∀ dir, o.fromArtifact = false → o.store.fragmentDir o.subDir o.name = .ok dir →
    files.entersDir dir.parts = false →
    o.loadOn disk files = .error (.configuration ("template does not exist: " ++
      ("fragments of template " ++ TemplateStore.shown o.subDir o.name ++ " at " ++
        Text.quoted dir.text)))
  artifact : ∀ path, o.fromArtifact = true → o.store.artifactPath o.subDir o.name = .ok path →
    files.read path.parts = .error .notFound →
    o.loadOn disk files = .error (.configuration ("template does not exist: " ++
      ("merged artifact of " ++ TemplateStore.shown o.subDir o.name ++ " at " ++
        Text.quoted path.text)))
  /-- Something else than an artifact is in its place, or in the way to it. -/
  unusable : ∀ path e, o.fromArtifact = true → o.store.artifactPath o.subDir o.name = .ok path →
    files.read path.parts = .error e → e ≠ .notFound →
    o.loadOn disk files = .error (.io path.text e.message)

theorem loadOn_of_store (hstate : o.lifecycle = .unloaded)
    (h : o.store.loadOn disk files o.subDir o.name o.fromArtifact = .error x) :
    o.loadOn disk files = .error (ofMissing x) := by
  unfold loadOn loadPlanOn
  rw [if_pos hstate, h]

theorem loadOn_of_readArtifact (hstate : o.lifecycle = .unloaded) (hfrom : o.fromArtifact = true)
    (h : o.store.readArtifact files o.subDir o.name = .error x) :
    o.loadOn disk files = .error (ofMissing x) := by
  refine loadOn_of_store hstate ?_
  rw [hfrom]
  show o.store.loadArtifactOn disk files o.subDir o.name = _
  unfold TemplateStore.loadArtifactOn
  rw [h]

theorem tellsMissing (hstate : o.lifecycle = .unloaded) (disk : Disk) (files : FileTree) :
    o.TellsMissing disk files := by
  constructor
  case fragments =>
    intro dir hfrom hdir habsent
    refine loadOn_of_store hstate (x := .notFound _) ?_
    rw [hfrom]
    show o.store.loadFragmentsOn disk files o.subDir o.name = _
    unfold TemplateStore.loadFragmentsOn TemplateStore.fragmentsOn
    rw [hdir]
    dsimp only
    rw [habsent]
    rfl
  case artifact =>
    intro path hfrom hpath hread
    refine loadOn_of_readArtifact hstate hfrom (x := .notFound _) ?_
    unfold TemplateStore.readArtifact
    rw [hpath]
    dsimp only
    rw [hread]
  case unusable =>
    intro path e hfrom hpath hread hother
    refine loadOn_of_readArtifact hstate hfrom (x := .io _ _) ?_
    unfold TemplateStore.readArtifact
    rw [hpath]
    dsimp only
    rw [hread]
    cases e with
    | notFound => exact absurd rfl hother
    | _ => rfl

/-! ## Disks -/

/-- Whatever is loaded from a disk that may fail is loaded from one that works. -/
theorem load_of_loadOn {a : Notice × Operator} (h : o.loadOn disk files = .ok a) :
    o.load files = .ok a := by
  unfold loadOn at h
  by_cases hstate : o.lifecycle = .unloaded
  · rw [if_pos hstate] at h
    unfold load
    rw [if_pos hstate]
    unfold loadPlanOn at h
    unfold loadPlan
    cases hload : o.store.loadOn disk files o.subDir o.name o.fromArtifact with
    | error e =>
        rw [hload] at h
        cases h
    | ok t =>
        rw [hload] at h
        rw [TemplateStore.load_of_loadOn hload]
        exact h
  · rw [if_neg hstate] at h
    cases h

theorem loadOn_of_works (h : disk.Works) (o : Operator) (files : FileTree) :
    o.loadOn disk files = o.load files := by
  unfold loadOn load loadPlanOn loadPlan
  rewrite [TemplateStore.loadOn_of_works h]
  rfl

/-- What an operator has that was loaded. -/
theorem loaded_of_load {n : Notice} (h : o.load files = .ok (n, o')) :
    o.lifecycle = .unloaded ∧ ∃ plan,
      o.store.load files o.subDir o.name o.fromArtifact = .ok plan.template ∧
      plan.template.subDir = o.subDir ∧ plan.template.name = o.name ∧
      n = o.loadedNotice plan.template ∧
      o' = { o with lifecycle := .loaded, plan := some plan } := by
  obtain ⟨hstate, -⟩ := load_eq_ok h
  have hworks : ({} : Disk).Works := ⟨fun _ => rfl, fun _ => rfl⟩
  have hend := loadEnd hstate {} files
  rw [loadOn_of_works hworks, h] at hend
  cases hend with
  | @loaded plan hstore hsubDir hname =>
      rw [TemplateStore.loadOn_of_works hworks] at hstore
      exact ⟨hstate, plan, hstore, hsubDir, hname, rfl, rfl⟩

/-! ## Sources -/

/-- Both operators load the same template from the same place. -/
structure SameSource (o o' : Operator) : Prop extends o.SameTemplate o' where
  fromArtifact : o'.fromArtifact = o.fromArtifact

theorem LoadKind.of_sameSource (h : o.SameSource o') (hkind : o'.LoadKind disk files x) :
    o.LoadKind disk files x := by
  cases hkind with
  | content hcontent => exact .content hcontent
  | conflict id first second hfrom => exact .conflict id first second (h.fromArtifact ▸ hfrom)
  | variant hload hvariant =>
      rw [h.store, h.subDir, h.name, h.fromArtifact] at hload
      rw [h.registry] at hvariant
      exact .variant hload hvariant

theorem SameSource.refl (o : Operator) : o.SameSource o := ⟨⟨rfl, rfl, rfl, rfl⟩, rfl⟩

theorem SameSource.trans {o₁ o₂ o₃ : Operator} (h : o₁.SameSource o₂) (h' : o₂.SameSource o₃) :
    o₁.SameSource o₃ :=
  ⟨⟨h'.store.trans h.store, h'.registry.trans h.registry, h'.subDir.trans h.subDir,
    h'.name.trans h.name⟩, h'.fromArtifact.trans h.fromArtifact⟩

theorem sameSource_markStopped (o : Operator) : o.SameSource o.markStopped.2 := by
  unfold markStopped
  split <;> exact ⟨⟨rfl, rfl, rfl, rfl⟩, rfl⟩

theorem loadedNotice_of_sameSource (h : o.SameSource o') (t : Template) :
    o'.loadedNotice t = o.loadedNotice t := by
  unfold loadedNotice
  rw [h.subDir, h.name, h.fromArtifact]

/-- Unloaded operators with the same source answer a load in the same way, and get the same plan. -/
theorem loadOn_of_sameSource (h : o.SameSource o') (ho : o.lifecycle = .unloaded)
    (ho' : o'.lifecycle = .unloaded) (disk : Disk) (files : FileTree) :
    o'.loadOn disk files = (o.loadOn disk files).map fun a =>
      (a.1, { o' with lifecycle := a.2.lifecycle, plan := a.2.plan }) := by
  have hplan : o'.loadPlanOn disk files = o.loadPlanOn disk files := by
    unfold loadPlanOn
    rw [h.store, h.registry, h.subDir, h.name, h.fromArtifact]
  unfold loadOn
  rw [if_pos ho, if_pos ho', hplan]
  cases o.loadPlanOn disk files with
  | error e => rfl
  | ok plan =>
      dsimp only
      rw [loadedNotice_of_sameSource h]
      rfl

end Operator

theorem OperatorStep.sameSource {s t : OperatorThreads} {e : OperatorEvent}
    (h : OperatorStep s e t) : s.operator.SameSource t.operator := by
  cases h with
  | stop => exact s.operator.sameSource_markStopped
  | _ => exact ⟨⟨rfl, rfl, rfl, rfl⟩, rfl⟩

theorem CallStep.sameSource {s t : OperatorCalls} {e : CallEvent} (h : CallStep s e t) :
    s.operator.SameSource t.operator := by
  cases h with
  | load hload =>
      obtain ⟨-, -, plan, rfl⟩ := Operator.load_eq_ok hload
      exact ⟨⟨rfl, rfl, rfl, rfl⟩, rfl⟩
  | enterTick _ _ henter =>
      rcases Operator.enterTick_cases henter with ⟨-, -, rfl⟩ | ⟨-, -, rfl⟩
      · exact ⟨⟨rfl, rfl, rfl, rfl⟩, rfl⟩
      · exact .refl _
  | inner hinner => exact hinner.sameSource
  | _ => exact .refl _

theorem sameSource_of_run {s t : OperatorCalls} {es : List CallEvent} (h : Run CallStep s es t) :
    s.operator.SameSource t.operator := by
  induction h with
  | nil => exact .refl _
  | snoc _ hstep ih => exact ih.trans hstep.sameSource

/-! ## Runs -/

theorem PhaseStep.planless {p q : Phase} {e : CallEvent} (h : PhaseStep p e q)
    (hp : p.lifecycle = .unloaded → p.plan = none) (hq : q.lifecycle = .unloaded) :
    q.plan = none := by
  cases h with
  | load => cases hq
  | enterTick => cases hq
  | stop => cases hq
  | release => rfl
  | _ => exact hp hq

theorem planless_of_run {o : Operator} {es : List CallEvent} {s : OperatorCalls} (ho : o.IsNew)
    (h : Run CallStep (.begin o) es s) (hstate : s.operator.lifecycle = .unloaded) :
    s.operator.plan = none := by
  induction h with
  | nil => exact ho.planless
  | snoc _ hstep ih => exact hstep.phase.planless ih hstate

/-- What holds of loads at every moment of the calls at an operator, which was `o` in the
beginning. -/
structure LoadsWholly (o : Operator) (s : OperatorCalls) : Prop where
  /-- As long as the operator is not loaded there is no plan, and no load was reported. -/
  blank : s.operator.lifecycle = .unloaded →
    s.operator.plan = none ∧ reports .templateLoaded s.notices = 0
  /-- A load then finds out what is wrong with the content of the store, -/
  ends : s.operator.lifecycle = .unloaded → ∀ disk files,
    s.operator.LoadEnd disk files (s.operator.loadOn disk files)
  /-- and answers what a load would have answered in the beginning. -/
  again : s.operator.lifecycle = .unloaded → ∀ disk files,
    s.operator.loadOn disk files = (o.loadOn disk files).map fun a =>
      (a.1, { s.operator with lifecycle := a.2.lifecycle, plan := a.2.plan })
  /-- Only content that is wrong or cannot be read is an error, or, among fragments, two rules with
  one id; unless the variant of an operation that the template lists has an error of its own. -/
  kinds : s.operator.lifecycle = .unloaded → ∀ disk files x,
    s.operator.loadOn disk files = .error x → o.LoadKind disk files x
  /-- A template that is not where it is looked for is an error of the configuration, -/
  missing : s.operator.lifecycle = .unloaded → ∀ disk files, s.operator.TellsMissing disk files
  /-- and nothing but such a variant says that something was not found, -/
  notFound : s.operator.lifecycle = .unloaded → ∀ disk files what,
    s.operator.loadOn disk files = .error (.notFound what) →
      ¬o.registry.RefusesByConfiguration ∧
        ∃ t, o.store.loadOn disk files o.subDir o.name o.fromArtifact = .ok t ∧
          Plan.VariantFault o.registry t.rules (.notFound what)
  /-- which the built-in ones never do. -/
  builtin : o.registry = .builtin → s.operator.lifecycle = .unloaded → ∀ disk files what,
    s.operator.loadOn disk files ≠ .error (.notFound what)
  /-- A load always comes to an end. -/
  returns : ∀ files, ∃ answer t, CallStep s (.load files answer) t
  /-- If it fails, nothing has changed. -/
  failed : ∀ files x t, CallStep s (.load files (.error x)) t → t = s
  /-- If it succeeds, the operator is loaded with what the store has, and this is reported once. -/
  loaded : ∀ files t, CallStep s (.load files (.ok ())) t →
    s.operator.lifecycle = .unloaded ∧ t.operator.lifecycle = .loaded ∧
      ∃ plan, t.operator.plan = some plan ∧
        o.store.load files o.subDir o.name o.fromArtifact = .ok plan.template ∧
        plan.template.subDir = o.subDir ∧ plan.template.name = o.name ∧
        t.notices = s.notices ++ [o.loadedNotice plan.template] ∧
        reports .templateLoaded t.notices = 1
  /-- Whatever is loaded from a disk that may fail is loaded from one that works. -/
  disks : ∀ disk files, (disk.Works → s.operator.loadOn disk files = s.operator.load files) ∧
    ∀ a, s.operator.loadOn disk files = .ok a → s.operator.load files = .ok a

/-- **A load is all or nothing.** However many calls take turns at an operator, a load of it gets
everything that was asked for, or an error that says what is wrong, and then nothing has changed. -/
theorem loadsWholly {o : Operator} {es : List CallEvent} {s : OperatorCalls} (ho : o.IsNew)
    (h : Run CallStep (.begin o) es s) : LoadsWholly o s := by
  have hfits := phaseFits ho h
  have hsource : o.SameSource s.operator := sameSource_of_run h
  have hkinds : s.operator.lifecycle = .unloaded → ∀ disk files x,
      s.operator.loadOn disk files = .error x → o.LoadKind disk files x := by
    intro hstate disk files x herror
    have hend := Operator.loadEnd hstate disk files
    rw [herror] at hend
    cases hend with
    | refused hfault => exact hfault.kind.of_sameSource hsource
  constructor
  case blank => exact fun hstate => ⟨planless_of_run ho h hstate, hfits.fresh hstate⟩
  case ends => exact fun hstate => Operator.loadEnd hstate
  case again => exact fun hstate => Operator.loadOn_of_sameSource hsource ho.unloaded hstate
  case kinds => exact hkinds
  case missing => exact fun hstate => Operator.tellsMissing hstate
  case notFound => exact fun hstate disk files what h => (hkinds hstate disk files _ h).of_notFound
  case builtin =>
    intro hregistry hstate disk files what h
    obtain ⟨hother, -⟩ := (hkinds hstate disk files _ h).of_notFound
    rw [hregistry] at hother
    exact hother Registry.refusesByConfiguration_builtin
  case returns =>
    intro files
    cases hload : s.operator.load files with
    | error e => exact ⟨_, s, .loadFailed files hload⟩
    | ok a => exact ⟨_, _, .load hload⟩
  case failed =>
    intro files x t hstep
    cases hstep
    rfl
  case loaded =>
    intro files t hstep
    cases hstep with
    | load hload =>
        obtain ⟨hstate, plan, hstore, hsubDir, hname, rfl, rfl⟩ := Operator.loaded_of_load hload
        have hnone : reports .templateLoaded s.notices = 0 := hfits.fresh hstate
        rw [hsource.store, hsource.subDir, hsource.name, hsource.fromArtifact] at hstore
        refine ⟨hstate, rfl, plan, rfl, hstore, hsubDir.trans hsource.subDir,
          hname.trans hsource.name, ?_, ?_⟩
        · rw [← Operator.loadedNotice_of_sameSource hsource]
        · rw [reports_snoc, hnone]
          rfl
  case disks =>
    exact fun disk files => ⟨fun hworks => Operator.loadOn_of_works hworks _ files,
      fun a => Operator.load_of_loadOn⟩

/-- The template is missing at first; then one of its operations is unknown; then it is loaded. -/
theorem loadsWholly_after_repair : ∃ (o : Operator) (bad good : FileTree) (s : OperatorCalls),
    o.IsNew ∧
      Run CallStep (.begin o)
        [.load {} (.error (.configuration
            "template does not exist: fragments of template 'main/demo' at \"rules/main/demo\"")),
          .load bad (.error (.configuration "rule 'mark': unknown operation 'hop'")),
          .load good (.ok ())] s ∧
      reports .templateLoaded s.notices = 1 ∧ LoadsWholly o s := by
  let o : Operator :=
    { store := ⟨⟨"rules", ["rules"]⟩⟩, registry := .builtin, subDir := "main", name := "demo" }
  let dirs : List (List String) := [["rules"], ["rules", "main"], ["rules", "main", "demo"]]
  let bad : FileTree :=
    { files :=
        [(["rules", "main", "demo", "base.yaml"],
          "rules:\n- id: mark\n  operations:\n  - name: hop\n")]
      dirs := dirs }
  let good : FileTree :=
    { files := [(["rules", "main", "demo", "base.yaml"], "rules:\n- id: mark\n")], dirs := dirs }
  let t : Template :=
    { subDir := "main", name := "demo", fragments := ["base"], rules := [{ id := "mark" }] }
  have hmissing : o.load {} = .error (.configuration
      "template does not exist: fragments of template 'main/demo' at \"rules/main/demo\"") := by
    have hstore : o.store.load {} o.subDir o.name o.fromArtifact = .error (.notFound
        "fragments of template 'main/demo' at \"rules/main/demo\"") := by decide +kernel
    unfold Operator.load Operator.loadPlan
    rw [if_pos rfl, hstore]
    rfl
  have hbad : o.load bad = .error (.configuration "rule 'mark': unknown operation 'hop'") := by
    have hplan : o.loadPlan bad =
        .error (.configuration "rule 'mark': unknown operation 'hop'") := by decide +kernel
    unfold Operator.load
    rw [if_pos rfl, hplan]
  have hgood : o.store.load good o.subDir o.name o.fromArtifact = .ok t := by decide +kernel
  have hload := @Operator.load_of_compile o good t ⟨t, [("mark", [])]⟩ rfl hgood rfl
  have h1 : Run CallStep (.begin o) [] (.begin o) := .nil
  have h2 := (h1.snoc (.loadFailed {} hmissing)).snoc (.loadFailed bad hbad)
  have h3 := h2.snoc (.load hload)
  exact ⟨o, bad, good, _, ⟨rfl, rfl⟩, h3, rfl, loadsWholly ⟨rfl, rfl⟩ h3⟩

/-- Not every template that is missing is told by an error of the configuration. A variant may say that
something was not found, and a file may be where the directory of an artifact should be. -/
theorem load_notFound_and_io :
    (∃ (o : Operator) (files : FileTree), o.IsNew ∧
      o.load files = .error (.notFound "icon of 'hop'")) ∧
    ∃ (o : Operator) (files : FileTree), o.IsNew ∧ o.registry = .builtin ∧ o.fromArtifact = true ∧
      (∀ text, files.read ["rules", "main", "demo.yaml"] ≠ .ok text) ∧
      o.load files = .error (.io "rules/main/demo.yaml" "not a directory") := by
  constructor
  · let hop : Variant := ⟨[], fun _ => .error (.notFound "icon of 'hop'")⟩
    let o : Operator :=
      { store := ⟨⟨"rules", ["rules"]⟩⟩, registry := ⟨[("hop", hop)]⟩, subDir := "main", name := "demo" }
    let files : FileTree :=
      { files :=
          [(["rules", "main", "demo", "base.yaml"],
            "rules:\n- id: mark\n  operations:\n  - name: hop\n")]
        dirs := [["rules"], ["rules", "main"], ["rules", "main", "demo"]] }
    have hplan : o.loadPlan files = .error (.notFound "icon of 'hop'") := by decide +kernel
    refine ⟨o, files, ⟨rfl, rfl⟩, ?_⟩
    unfold Operator.load
    rw [if_pos rfl, hplan]
  · let o : Operator :=
      { store := ⟨⟨"rules", ["rules"]⟩⟩, registry := .builtin, subDir := "main", name := "demo",
        fromArtifact := true }
    let files : FileTree := { files := [(["rules", "main"], "")], dirs := [["rules"]] }
    have hread : files.read ["rules", "main", "demo.yaml"] = .error .notDirectory := by decide
    have hplan : o.loadPlan files = .error (.io "rules/main/demo.yaml" "not a directory") := by
      decide +kernel
    refine ⟨o, files, ⟨rfl, rfl⟩, rfl, rfl, by simp [hread], ?_⟩
    unfold Operator.load
    rw [if_pos rfl, hplan]

end RuleEngine
