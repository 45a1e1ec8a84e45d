import RuleEngine.Proofs.Files.Tree
import RuleEngine.Proofs.Template.Codec
import RuleEngine.Proofs.Template.Merge
import RuleEngine.Proofs.Yaml.Shows
import RuleEngine.Template.Store

set_option autoImplicit false

/-! # Fragments and artifacts

What a store reads from fragments is canonical, so that its artifact is read back as the same
template. The artifact does not lie among the fragments: writing it changes nothing of what the
fragments make up.
-/

namespace RuleEngine

/-! ## Texts -/

theorem Fragment.isCanonical_of_ofText {source text : String} {f : Fragment}
    (h : Fragment.ofText source text = .ok f) : ∀ r ∈ f.rules, r.IsCanonical := by
  unfold Fragment.ofText at h
  split at h
  · cases h
    simp
  · split at h
    · next g hdecode =>
      cases h
      unfold Yaml.decode at hdecode
      dsimp only at hdecode
      split at hdecode
      · cases hdecode
      · next g' hg =>
        split at hdecode
        · cases hdecode
          exact Fragment.isCanonical_of_decode Yaml.Value.orderly.on trivial hg
        · cases hdecode
    · cases h

/-- **An artifact is read back as its template.** -/
theorem Template.ofArtifact_artifact {t : Template} (ht : ∀ r ∈ t.rules, r.IsCanonical)
    (hback : Yaml.ReadsBack t.toJson) (source : String) :
    Template.ofArtifact source t.artifact = .ok t := by
  have hdecode : Template.decode (Yaml.Document.ofText t.artifact).value = .ok t :=
    Template.decode_of_shows Yaml.Value.faithful.upToOrder ht hback.2
  have hwhole : (Yaml.Document.ofText t.artifact).whole = true := hback.1
  unfold Template.ofArtifact Yaml.decode
  dsimp only
  rw [hdecode]
  dsimp only
  rw [if_pos hwhole]

namespace TemplateStore

variable {s : TemplateStore} {files files' : FileTree} {subDir name : String} {t : Template}

/-! ## Fragments -/

theorem isCanonical_of_readFragments {dir : FilePath} {sources : List (String × String)}
    {fs : List Fragment} (h : readFragments dir sources = .ok fs) :
    ∀ f ∈ fs, ∀ r ∈ f.rules, r.IsCanonical := by
  induction sources generalizing fs with
  | nil =>
      cases h
      simp
  | cons source sources ih =>
      rw [readFragments] at h
      split at h
      · cases h
      · next f hf =>
        cases hrest : readFragments dir sources with
        | error e =>
            rw [hrest] at h
            cases h
        | ok rest =>
            rw [hrest] at h
            cases h
            refine List.forall_mem_cons.2 ⟨?_, ih hrest⟩
            unfold readFragment at hf
            cases htext : Fragment.ofText (dir.child source.1).text source.2 with
            | error e =>
                rw [htext] at hf
                cases hf
            | ok g =>
                rw [htext] at hf
                cases hf
                -- a name for the fragment leaves its rules alone
                have hnamed : (Fragment.named source.1 g).rules = g.rules := by
                  unfold Fragment.named
                  split <;> rfl
                rw [hnamed]
                exact Fragment.isCanonical_of_ofText htext

/-- A template that is loaded from fragments is the one that was asked for, and it is canonical. -/
theorem isCanonical_of_loadFragments (h : s.loadFragments files subDir name = .ok t) :
    t.subDir = subDir ∧ t.name = name ∧ ∀ r ∈ t.rules, r.IsCanonical := by
  unfold loadFragments at h
  split at h
  · cases h
  · next fs hfs =>
    split at h
    · next t' hmerge =>
      cases h
      obtain ⟨order, hperm, rfl⟩ := Template.merge_eq_ok hmerge
      refine ⟨rfl, rfl, fun r hr => ?_⟩
      obtain ⟨f, hf, hr⟩ := List.mem_flatMap.1 hr
      unfold fragments at hfs
      split at hfs
      · cases hfs
      · split at hfs
        · exact isCanonical_of_readFragments hfs f (hperm.mem_iff.1 hf) r hr
        · cases hfs
    · cases h

/-- Both trees have the same fragments for a template. -/
def SameFragments (s : TemplateStore) (files files' : FileTree) (subDir name : String) : Prop :=
  ∀ dir, s.fragmentDir subDir name = .ok dir →
    files'.entersDir dir.parts = files.entersDir dir.parts ∧
    fragmentFiles files' dir = fragmentFiles files dir

theorem SameFragments.trans {files₁ files₂ files₃ : FileTree}
    (h : s.SameFragments files₁ files₂ subDir name) (h' : s.SameFragments files₂ files₃ subDir name) :
    s.SameFragments files₁ files₃ subDir name :=
  fun dir hdir => ⟨(h' dir hdir).1.trans (h dir hdir).1, (h' dir hdir).2.trans (h dir hdir).2⟩

theorem loadFragments_congr (h : s.SameFragments files files' subDir name) :
    s.loadFragments files' subDir name = s.loadFragments files subDir name := by
  have hfragments : s.fragments files' subDir name = s.fragments files subDir name := by
    unfold fragments
    split
    · rfl
    · next dir hdir => rw [(h dir hdir).1, (h dir hdir).2]
  unfold loadFragments
  rw [hfragments]

/-! ## The artifact -/

/-- An artifact in place is loaded as its template. -/
theorem loadArtifact_of_read (hsubDir : t.subDir = subDir) (hname : t.name = name)
    (ht : ∀ r ∈ t.rules, r.IsCanonical) (hback : Yaml.ReadsBack t.toJson) {path : FilePath}
    (hpath : s.artifactPath subDir name = .ok path)
    (hread : files.read path.parts = .ok t.artifact) :
    s.loadArtifact files subDir name = .ok t := by
  have hartifact : s.readArtifact files subDir name = .ok (path, t.artifact) := by
    unfold readArtifact
    rw [hpath]
    dsimp only
    rw [hread]
  unfold loadArtifact
  rw [hartifact]
  dsimp only
  rw [Template.ofArtifact_artifact ht hback]
  exact if_pos ⟨hsubDir, hname⟩

/-! ## Writing the artifact -/

theorem parts_of_subDirPath {dir : FilePath} (h : s.subDirPath subDir = .ok dir) :
    dir.parts = s.root.parts ++ [subDir] := by
  unfold subDirPath at h
  cases hcheck : checkComponent "sub-directory" subDir with
  | error e =>
      rw [hcheck] at h
      cases h
  | ok _ =>
      rw [hcheck] at h
      cases h
      rfl

theorem parts_of_fragmentDir {dir : FilePath} (h : s.fragmentDir subDir name = .ok dir) :
    dir.parts = s.root.parts ++ [subDir] ++ [name] := by
  unfold fragmentDir at h
  split at h
  · cases h
  · cases hsub : s.subDirPath subDir with
    | error e =>
        rw [hsub] at h
        cases h
    | ok sub =>
        rw [hsub] at h
        cases h
        rw [← parts_of_subDirPath hsub]
        rfl

theorem parts_of_artifactPath {path : FilePath} (h : s.artifactPath subDir name = .ok path) :
    path.parts = s.root.parts ++ [subDir] ++ [name ++ ".yaml"] := by
  unfold artifactPath at h
  split at h
  · cases h
  · cases hsub : s.subDirPath subDir with
    | error e =>
        rw [hsub] at h
        cases h
    | ok sub =>
        rw [hsub] at h
        cases h
        rw [← parts_of_subDirPath hsub]
        rfl

theorem writeArtifact_ok {text : String} {path : FilePath}
    (h : s.writeArtifact files subDir name text = (.ok path, files')) :
    s.artifactPath subDir name = .ok path ∧ files.replace path.parts text = (.ok (), files') := by
  unfold writeArtifact at h
  split at h
  · cases h
  · next path' hpath =>
    split at h
    · next hreplace =>
      cases h
      exact ⟨hpath, hreplace⟩
    · cases h

/-- Writing the artifact leaves the fragments alone. -/
theorem sameFragments_of_writeArtifact (hload : s.loadFragments files subDir name = .ok t)
    {text : String} {path : FilePath}
    (h : s.writeArtifact files subDir name text = (.ok path, files')) :
    s.SameFragments files files' subDir name := by
  intro dir hdir
  obtain ⟨hpath, hreplace⟩ := writeArtifact_ok h
  have henters : files.entersDir dir.parts = true := by
    unfold loadFragments fragments at hload
    rw [hdir] at hload
    dsimp only at hload
    by_cases henters : files.entersDir dir.parts = true
    · exact henters
    · rw [if_neg henters] at hload
      cases hload
  -- the artifact lies beside the directory of the fragments, one level above them
  have hother : path.parts.dropLast ≠ dir.parts := by
    intro heq
    rw [parts_of_artifactPath hpath, List.dropLast_concat, parts_of_fragmentDir hdir] at heq
    have hlength := congrArg List.length heq
    simp at hlength
  constructor
  · rw [henters, FileTree.entersDir_mono (fun _ => FileTree.isDir_replace hreplace) henters]
  · unfold fragmentFiles
    rw [FileTree.filesIn_replace hother hreplace]

end TemplateStore

end RuleEngine
