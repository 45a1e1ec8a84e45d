import RuleEngine.Proofs.Files.Component
import RuleEngine.Proofs.Template.Fault

set_option autoImplicit false

/-! # Paths stay in the store

A store makes paths of texts that somebody chose: the names of sub-directories and templates. It
takes visible names without separators only, and so each of them is one entry of the directory before
it, for whoever reads the path. Different templates have different artifacts and different directories
of fragments, and no artifact lies among the fragments of any template.

**Main result.** `TemplateStore.confines`: the paths of artifacts and the directories of fragments
are confined in this way.
-/

namespace RuleEngine

namespace TemplateStore

open FilePath (IsPlain LeadsThrough)

variable {s : TemplateStore} {entry : String → String} {subDir name : String} {path : FilePath}

/-! ## Accepted names -/

theorem isComponent_iff : isComponent name = true ↔ IsPlain name := by
  have hseparate : (!name.toList.any fun c => c == '/' || c == '\\') = true ↔
      ∀ c ∈ name.toList, c ≠ '/' ∧ c ≠ '\\' := by
    simp
  unfold isComponent
  rw [Bool.and_eq_true, Bool.and_eq_true, hseparate]
  constructor
  · rintro ⟨⟨hne, hvisible⟩, hplain⟩
    exact ⟨by simpa using hne, by simpa using hvisible, hplain⟩
  · intro h
    exact ⟨⟨by simp [h.nonempty], by simp [h.visible]⟩, h.separate⟩

instance (name : String) : Decidable (IsPlain name) := decidable_of_iff _ isComponent_iff

/-- The file of an artifact is as plain as the name of its template. -/
theorem isPlain_yaml (h : IsPlain name) : IsPlain (name ++ ".yaml") := h.append (by simp)

/-! ## Places of templates -/

def entryPath (s : TemplateStore) (entry : String → String) (subDir name : String) :
    Except EngineError FilePath :=
  match checkComponent "template name" name with
  | .error e => .error e
  | .ok _ => (s.subDirPath subDir).map fun dir => dir.child (entry name)

theorem artifactPath_eq (s : TemplateStore) : s.artifactPath = s.entryPath (· ++ ".yaml") := rfl

theorem fragmentDir_eq (s : TemplateStore) : s.fragmentDir = s.entryPath id := rfl

/-- A template has a place in the store if its names are accepted. -/
theorem entryPath_of_isPlain (s : TemplateStore) (entry : String → String)
    (hsubDir : IsPlain subDir) (hname : IsPlain name) :
    s.entryPath entry subDir name = .ok ((s.root.child subDir).child (entry name)) := by
  unfold entryPath subDirPath checkComponent
  rw [if_pos (isComponent_iff.2 hname), if_pos (isComponent_iff.2 hsubDir)]
  rfl

theorem entryPath_eq_error {x : EngineError} :
    s.entryPath entry subDir name = .error x ↔ NameFault subDir name x :=
  place_eq_error fun dir => dir.child (entry name)

/-- The places that templates get below a root, each at an entry for its name: names that are not plain
get none, and others get one of their own. -/
structure Confines (root : FilePath) (place : String → String → Except EngineError FilePath)
    (entry : String → String) : Prop where
  badName : ∀ {subDir name}, ¬IsPlain name →
    place subDir name = .error (.configuration ("invalid template name '" ++ name ++ "'"))
  badSubDir : ∀ {subDir name}, IsPlain name → ¬IsPlain subDir →
    place subDir name = .error (.configuration ("invalid sub-directory '" ++ subDir ++ "'"))
  placed : ∀ {subDir name}, IsPlain name → IsPlain subDir →
    ∃ path, place subDir name = .ok path ∧ path.LeadsThrough root [subDir, entry name]
  apart : ∀ {subDir name subDir' name' path path'}, place subDir name = .ok path →
    place subDir' name' = .ok path' → path.Meets path' → subDir = subDir' ∧ name = name'

/-- A place that is given leads from the root through the sub-directory to the entry. -/
theorem leadsThrough_of_entryPath (hentry : ∀ {name}, IsPlain name → IsPlain (entry name))
    (h : s.entryPath entry subDir name = .ok path) :
    path.LeadsThrough s.root [subDir, entry name] := by
  have hplain : IsPlain name ∧ IsPlain subDir := by
    rw [← isComponent_iff, ← isComponent_iff]
    by_contra hnot
    -- a name that is refused makes the place an error
    obtain ⟨x, hfault⟩ : ∃ x, NameFault subDir name x := by
      cases hname : isComponent name with
      | false => exact ⟨_, .name hname⟩
      | true =>
          refine ⟨_, .subDir hname ?_⟩
          rw [hname] at hnot
          simpa using hnot
    rw [entryPath_eq_error.2 hfault] at h
    cases h
  obtain ⟨hname, hsubDir⟩ := hplain
  rw [entryPath_of_isPlain s entry hsubDir hname] at h
  cases h
  exact ((LeadsThrough.refl s.root).child hsubDir).child (hentry hname)

/-- **Places are confined** if different templates have different entries. -/
theorem confines_entryPath (s : TemplateStore) (hinj : Function.Injective entry)
    (hentry : ∀ {name}, IsPlain name → IsPlain (entry name)) :
    Confines s.root (s.entryPath entry) entry := by
  have hbad : ∀ {name}, ¬IsPlain name → isComponent name = false := by
    intro name h
    rwa [← isComponent_iff, Bool.not_eq_true] at h
  constructor
  case badName =>
    intro subDir name hname
    exact entryPath_eq_error.2 (.name (hbad hname))
  case badSubDir =>
    intro subDir name hname hsubDir
    exact entryPath_eq_error.2 (.subDir (isComponent_iff.2 hname) (hbad hsubDir))
  case placed =>
    intro subDir name hname hsubDir
    have hplace := entryPath_of_isPlain s entry hsubDir hname
    exact ⟨_, hplace, leadsThrough_of_entryPath hentry hplace⟩
  case apart =>
    intro subDir name subDir' name' path path' h h' hmeets
    rw [(leadsThrough_of_entryPath hentry h).meets_iff (leadsThrough_of_entryPath hentry h')] at hmeets
    simp only [List.cons.injEq, and_true] at hmeets
    exact ⟨hmeets.1, hinj hmeets.2⟩

/-- **The paths of a store are confined.** For all texts, the path of an artifact and the directory of
fragments are refused, or they lead from the root through the sub-directory to one entry, which is
named for the template, and no other template has the same. An artifact never lies in a directory of
fragments; it takes the place of one exactly if that template is named like the file. -/
theorem confines (s : TemplateStore) :
    Confines s.root s.artifactPath (· ++ ".yaml") ∧ Confines s.root s.fragmentDir id ∧
    ∀ {subDir name subDir' name' path dir}, s.artifactPath subDir name = .ok path →
      s.fragmentDir subDir' name' = .ok dir → ¬path.LiesIn dir ∧
        (path.Meets dir ↔ subDir = subDir' ∧ name ++ ".yaml" = name') := by
  have hyaml : Function.Injective fun name => name ++ ".yaml" := fun a b h => by
    simpa [← String.toList_inj] using h
  refine ⟨confines_entryPath s hyaml isPlain_yaml,
    confines_entryPath s Function.injective_id id, ?_⟩
  intro subDir name subDir' name' path dir hpath hdir
  rw [artifactPath_eq] at hpath
  rw [fragmentDir_eq] at hdir
  have hp := leadsThrough_of_entryPath isPlain_yaml hpath
  have hd := leadsThrough_of_entryPath id hdir
  constructor
  · intro hlies
    exact absurd (hp.length_lt_of_liesIn hd hlies) (Nat.lt_irrefl 2)
  · rw [hp.meets_iff hd]
    simp

/-- The artifact of one template takes the place where another one would have its fragments, but it
does not lie among them; the root is written with dots, which no name may be. -/
theorem confines_of_same_place : ∃ (s : TemplateStore) (path dir : FilePath),
    s.artifactPath "combat" "boss" = .ok path ∧ s.fragmentDir "combat" "boss.yaml" = .ok dir ∧
    FilePath.components path.text =
      [.entry "data", .up, .entry "templates", .entry "combat", .entry "boss.yaml"] ∧
    ¬path.LiesIn dir ∧ path.Meets dir ∧
    s.artifactPath "combat" "a/b" = .error (.configuration "invalid template name 'a/b'") ∧
    s.fragmentDir ".." "boss" = .error (.configuration "invalid sub-directory '..'") := by
  let s : TemplateStore := ⟨.ofText "data/../templates/"⟩
  obtain ⟨hartifacts, hfragments, happart⟩ :
      Confines s.root s.artifactPath (· ++ ".yaml") ∧ Confines s.root s.fragmentDir id ∧
      ∀ {subDir name subDir' name' path dir}, s.artifactPath subDir name = .ok path →
        s.fragmentDir subDir' name' = .ok dir → ¬path.LiesIn dir ∧
          (path.Meets dir ↔ subDir = subDir' ∧ name ++ ".yaml" = name') := confines s
  obtain ⟨path, hpath, hleads⟩ :=
    hartifacts.placed (show IsPlain "boss" by decide) (show IsPlain "combat" by decide)
  obtain ⟨dir, hdir, -⟩ :=
    hfragments.placed (show IsPlain "boss.yaml" by decide) (show IsPlain "combat" by decide)
  obtain ⟨hlies, hmeets⟩ := happart hpath hdir
  refine ⟨s, path, dir, hpath, hdir, ?_, hlies, hmeets.2 (by decide), hartifacts.badName (by decide),
    hfragments.badSubDir (by decide) (by decide)⟩
  rw [hleads.components]
  decide

end TemplateStore

end RuleEngine
