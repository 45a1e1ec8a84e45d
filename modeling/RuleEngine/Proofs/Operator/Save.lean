import RuleEngine.Operation.Builtin
import RuleEngine.Operator.Basic
import RuleEngine.Proofs.Operator.Plan
import RuleEngine.Proofs.Template.Store

set_option autoImplicit false

/-! # Saved templates

Once an operator has saved its template, fresh operators load the same template from the artifact and
from the fragments, and a second save writes the same text (`Operator.load_of_save`). It is assumed
that YAML gives back what was written.
-/

namespace RuleEngine

namespace Operator

variable {o o' : Operator} {files files' : FileTree} {t : Template} {plan : Plan}

/-- Both operators are there for the same template. -/
structure SameTemplate (o o' : Operator) : Prop where
  store : o'.store = o.store
  registry : o'.registry = o.registry
  subDir : o'.subDir = o.subDir
  name : o'.name = o.name

/-- A template is saved if its fragments make it up and its operations compile. -/
theorem mergedTemplate_eq_ok : o.mergedTemplate files = .ok t ↔
    o.lifecycle ≠ .unloaded ∧ o.store.loadFragments files o.subDir o.name = .ok t ∧
      ∃ plan, Plan.compile o.registry t = .ok plan := by
  unfold mergedTemplate
  by_cases hstate : o.lifecycle = .unloaded
  · rw [if_pos hstate]
    exact iff_of_false nofun fun h => h.1 hstate
  · rw [if_neg hstate]
    cases hload : o.store.loadFragments files o.subDir o.name with
    | error e => simp
    | ok t' =>
        dsimp only
        cases hcompile : Plan.compile o.registry t' with
        | error e =>
            refine iff_of_false nofun ?_
            rintro ⟨-, heq, plan, hplan⟩
            cases heq
            rw [hcompile] at hplan
            cases hplan
        | ok plan =>
            constructor
            · intro h
              cases h
              exact ⟨hstate, rfl, plan, hcompile⟩
            · rintro ⟨-, heq, -⟩
              cases heq
              rfl

theorem save_ok {notice : Notice} {path : FilePath}
    (h : o.save files = (.ok (notice, path), files')) :
    ∃ t, o.mergedTemplate files = .ok t ∧ notice = o.mergedNotice t path ∧
      o.store.writeArtifact files o.subDir o.name t.artifact = (.ok path, files') := by
  unfold save at h
  split at h
  · cases h
  · next t ht =>
    split at h
    · cases h
    · next path' files'' hwrite =>
      cases h
      exact ⟨t, ht, rfl, hwrite⟩

/-- An unloaded operator whose store gives it a template that compiles loads it. -/
theorem load_of_compile (hstate : o.lifecycle = .unloaded)
    (hload : o.store.load files o.subDir o.name o.fromArtifact = .ok t)
    (hcompile : Plan.compile o.registry t = .ok plan) :
    o.load files =
      .ok (o.loadedNotice t, { o with lifecycle := .loaded, plan := some plan }) := by
  unfold load loadPlan
  rw [if_pos hstate, hload]
  dsimp only
  rw [hcompile]
  dsimp only
  rw [Plan.template_compile hcompile]

/-- An artifact that can be read is written over. -/
theorem save_of_read (hmerged : o.mergedTemplate files = .ok t) {path : FilePath}
    (hpath : o.store.artifactPath o.subDir o.name = .ok path) {old : String}
    (hread : files.read path.parts = .ok old) (hsound : files.IsSound) :
    o.save files =
      (.ok (o.mergedNotice t path, path), files.put path.parts t.artifact) := by
  unfold save TemplateStore.writeArtifact
  rw [hmerged]
  dsimp only
  rw [hpath]
  dsimp only
  rw [FileTree.replace_of_read hsound hread t.artifact]

/-- **The artifact and the fragments are the same template.** After a save, as long as neither the
fragments nor the artifact are changed, every fresh operator for the template loads, from the
artifact or from the fragments, the one template that was saved, and another save writes the same
text again. For the latter the files have to be such that no path is a file and a directory. -/
theorem load_of_save {saved later : FileTree} {notice : Notice} {path : FilePath}
    (hsave : o.save files = (.ok (notice, path), saved))
    (hyaml : ∀ t, o.mergedTemplate files = .ok t → Yaml.ReadsBack t.toJson)
    (hfragments : o.store.SameFragments saved later o.subDir o.name)
    (hartifact : later.read path.parts = saved.read path.parts) :
    ∃ t plan, Plan.compile o.registry t = .ok plan ∧ plan.template = t ∧
      later.read path.parts = .ok t.artifact ∧
      (∀ o' : Operator, o.SameTemplate o' → o'.lifecycle = .unloaded →
        o'.load later =
          .ok (o'.loadedNotice t, { o' with lifecycle := .loaded, plan := some plan })) ∧
      (later.IsSound → ∀ o' : Operator, o.SameTemplate o' → o'.lifecycle ≠ .unloaded →
        ∃ again, o'.save later = (.ok (o'.mergedNotice t path, path), again) ∧
          again.read path.parts = .ok t.artifact) := by
  obtain ⟨t, hmerged, -, hwrite⟩ := save_ok hsave
  obtain ⟨-, hload, plan, hcompile⟩ := mergedTemplate_eq_ok.1 hmerged
  obtain ⟨hsubDir, hname, hcanonical⟩ := TemplateStore.isCanonical_of_loadFragments hload
  obtain ⟨hpath, hreplace⟩ := TemplateStore.writeArtifact_ok hwrite
  have hread : later.read path.parts = .ok t.artifact :=
    hartifact.trans (FileTree.read_replace hreplace)
  -- the fragments are still those that were merged
  have hsame := (TemplateStore.sameFragments_of_writeArtifact hload hwrite).trans hfragments
  have hraw : o.store.loadFragments later o.subDir o.name = .ok t :=
    (TemplateStore.loadFragments_congr hsame).trans hload
  have hmade : o.store.loadArtifact later o.subDir o.name = .ok t :=
    TemplateStore.loadArtifact_of_read hsubDir hname hcanonical (hyaml t hmerged) hpath hread
  refine ⟨t, plan, hcompile, Plan.template_compile hcompile, hread, ?_, ?_⟩
  · intro o' ho' hstate
    refine load_of_compile hstate ?_ (ho'.registry ▸ hcompile)
    rw [ho'.store, ho'.subDir, ho'.name]
    unfold TemplateStore.load
    by_cases hfrom : o'.fromArtifact = true
    · rw [if_pos hfrom]
      exact hmade
    · rw [if_neg hfrom]
      exact hraw
  · intro hsound o' ho' hstate
    have hmerged' : o'.mergedTemplate later = .ok t := by
      refine mergedTemplate_eq_ok.2 ⟨hstate, ?_, plan, ho'.registry ▸ hcompile⟩
      rw [ho'.store, ho'.subDir, ho'.name]
      exact hraw
    have hpath' : o'.store.artifactPath o'.subDir o'.name = .ok path := by
      rw [ho'.store, ho'.subDir, ho'.name]
      exact hpath
    have hreplace' := FileTree.replace_of_read hsound hread t.artifact
    exact ⟨later.put path.parts t.artifact, save_of_read hmerged' hpath' hread hsound,
      FileTree.read_replace hreplace'⟩

/-- A fresh operator loads the artifact that was written over an empty one. -/
theorem load_of_save_mark :
    ∃ (o : Operator) (files saved : FileTree) (notice : Notice) (path : FilePath),
      o.save files = (.ok (notice, path), saved) ∧
      (∀ t, o.mergedTemplate files = .ok t → Yaml.ReadsBack t.toJson) ∧
      ∃ t plan, { o with lifecycle := .unloaded, fromArtifact := true }.load saved =
        .ok ({ o with fromArtifact := true }.loadedNotice t,
          { o with fromArtifact := true, plan := some plan }) := by
  let o : Operator :=
    { store := ⟨⟨"rules", ["rules"]⟩⟩, registry := .builtin, subDir := "main", name := "demo",
      lifecycle := .loaded }
  let files : FileTree :=
    { files :=
        [(["rules", "main", "demo.yaml"], ""),
         (["rules", "main", "demo", "base.yaml"],
          "rules:\n- id: mark\n  operations:\n  - name: wait\n    params: \x7bms: 5\x7d\n")]
      dirs := [["rules"], ["rules", "main"], ["rules", "main", "demo"]] }
  let t : Template :=
    { subDir := "main", name := "demo", fragments := ["base"],
      rules :=
        [{ id := "mark", operations := [{ name := "wait", params := [("ms", .num (.int 5))] }] }] }
  let path : FilePath := ⟨"rules/main/demo.yaml", ["rules", "main", "demo.yaml"]⟩
  have hmerged : o.mergedTemplate files = .ok t := by decide +kernel
  have hread : files.read path.parts = .ok "" := by decide +kernel
  have hpath : o.store.artifactPath o.subDir o.name = .ok path := by decide +kernel
  have hold : files.IsSound := by decide
  have hsave := save_of_read hmerged hpath hread hold
  have hyaml : ∀ t, o.mergedTemplate files = .ok t → Yaml.ReadsBack t.toJson := by
    intro t' ht'
    obtain rfl : t = t' := Except.ok.inj (hmerged.symm.trans ht')
    decide +kernel
  obtain ⟨t', plan, -, -, -, hload, -⟩ :=
    load_of_save hsave hyaml (fun _ _ => ⟨rfl, rfl⟩) rfl
  exact ⟨o, files, _, _, path, hsave, hyaml, t', plan, hload _ ⟨rfl, rfl, rfl, rfl⟩ rfl⟩

end Operator

end RuleEngine
