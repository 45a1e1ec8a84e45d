import Mathlib.Logic.Function.Basic
import RuleEngine.Proofs.Settings.Failure

set_option autoImplicit false

/-! # Settings that are opened again

Settings are opened on a file that is missing, blank or holds a table, and then changed by calls that
all come off, while nobody else writes the file. Then the file holds what the last call that wrote
anything has left in memory, or nothing was written at all; so whoever opens the file again has the
settings that are in memory (`SettingsCall.reopens`). It is assumed that YAML gives back the tables
that were written.
-/

namespace RuleEngine

/-! ## Written tables -/

theorem Text.isBlankText_append (s t : String) :
    isBlankText (s ++ t) = (isBlankText s && isBlankText t) := by
  unfold isBlankText
  rw [String.toList_append, List.all_append]

/-- The colon of its first key shows that the text of a table is not blank, or the mark of a long
key; the text of an empty table is a pair of braces. -/
theorem Settings.isBlankText_render (values : Table Json) :
    Text.isBlankText (render values) = false := by
  cases values with
  | nil => decide
  | cons e rest =>
      obtain ⟨key, x⟩ := e
      show Text.isBlankText (Yaml.entryLines 0 ((key, x) :: rest)) = false
      rw [Yaml.entryLines, Text.isBlankText_append, Text.isBlankText_append]
      have hcolon : Text.isBlankText ":" = false := by decide
      have hmark : Text.isBlankText "? " = false := by decide
      split
      · simp [Yaml.keyText, Text.isBlankText_append, hcolon]
      · simp [Text.isBlankText_append, hmark]

namespace Settings

variable {s : Settings} {files files' : FileTree} {path : FilePath} {values : Table Json}

/-- The YAML layer gives back a table that it has written. -/
def GivesBack (values : Table Json) : Prop :=
  Yaml.decode (Decode.table DataSource.json) (render values) = .ok values

/-- What lies at the path of settings: nothing, a blank text, or a table. -/
inductive FileHolds (files : FileTree) (path : FilePath) : Table Json → Prop
  | missing : files.read path.parts = .error .notFound → FileHolds files path []
  | blank {text : String} :
      files.read path.parts = .ok text → Text.isBlankText text = true → FileHolds files path []
  | table {text : String} {values : Table Json} :
      files.read path.parts = .ok text → Text.isBlankText text = false →
      Yaml.decode (Decode.table DataSource.json) text = .ok values → FileHolds files path values

/-- Settings are opened as what the file holds. -/
theorem open_of_fileHolds (h : FileHolds files path values) :
    open_ files path = .ok ⟨some path, values⟩ := by
  unfold open_
  cases h with
  | missing hread => rw [hread]
  | blank hread hblank =>
      rw [hread]
      dsimp only [ofText]
      rw [if_pos hblank]
      rfl
  | table hread hblank hdecode =>
      rw [hread]
      dsimp only [ofText]
      rw [if_neg (by rw [hblank]; decide), hdecode]
      rfl

/-- A table that was written, and that YAML gives back, is what the file holds. -/
theorem fileHolds_of_read (hread : files.read path.parts = .ok (render values))
    (hback : GivesBack values) : FileHolds files path values :=
  .table hread (isBlankText_render values) hback

/-- Only the text of the file counts. -/
theorem FileHolds.congr (h : FileHolds files path values)
    (hread : files'.read path.parts = files.read path.parts) : FileHolds files' path values := by
  cases h with
  | missing hmissing => exact .missing (hread.trans hmissing)
  | blank hold hblank => exact .blank (hread.trans hold) hblank
  | table hold hblank hdecode => exact .table (hread.trans hold) hblank hdecode

end Settings

/-! ## Calls that come off -/

/-- What happens to settings while nobody else writes their file: a call comes off, with an answer, or
others change other files. -/
inductive KeptEvent
  | call (c : SettingsCall) (answer : Option Json)
  | elsewhere

/-- The table in memory and the files, and what such an event makes of them. -/
inductive KeptStep : Settings × FileTree → KeptEvent → Settings × FileTree → Prop
  | call {s s' : Settings} {files files' : FileTree} {disk : Disk} {c : SettingsCall}
      {answer : Option Json} :
      c.run disk s files = (.ok answer, s', files') →
      KeptStep (s, files) (.call c answer) (s', files')
  | elsewhere {s : Settings} {files files' : FileTree} :
      (∀ path, s.path = some path → files'.read path.parts = files.read path.parts) →
      KeptStep (s, files) .elsewhere (s, files')

namespace SettingsCall

/-- The calls that were made, in order. -/
def made (es : List KeptEvent) : List SettingsCall :=
  es.filterMap fun
    | .call c _ => some c
    | .elsewhere => none

/-- The value that a call leaves its key with. -/
def given : SettingsCall → Option Json
  | set _ value => some value
  | remove _ => none

/-- The values of all keys after calls, given those before. -/
def valuesAfter (values : String → Option Json) (cs : List SettingsCall) : String → Option Json :=
  cs.foldl (fun values c => Function.update values c.key c.given) values

def written (values : Table Json) : List SettingsCall → List (Table Json)
  | [] => []
  | c :: cs => (if c.writes values then [c.apply values] else []) ++ written (c.apply values) cs

variable {c : SettingsCall} {s : Settings} {start files : FileTree} {path : FilePath}
  {values : Table Json} {es : List KeptEvent}

/-! ## Values of keys -/

theorem get?_apply (h : values.Sorted) (c : SettingsCall) :
    (c.apply values).get? = Function.update values.get? c.key c.given := by
  funext key
  cases c with
  | set k value =>
      show (values.insert k value).get? key = _
      rw [Table.get?_insert, Function.update_apply]
      exact if_congr eq_comm rfl rfl
  | remove k =>
      show (values.erase k).get? key = _
      rw [Function.update_apply]
      split
      · next heq =>
        rw [heq]
        exact h.get?_erase k
      · next hne => exact Table.get?_erase_of_ne values hne

theorem sorted_foldl_apply (h : values.Sorted) (cs : List SettingsCall) :
    Table.Sorted (cs.foldl (fun t c => c.apply t) values) :=
  List.foldlRecOn _ _ h fun _ ht c _ => sorted_apply ht c

/-- The calls make of every key what the last one about it says. -/
theorem get?_foldl_apply (h : values.Sorted) (cs : List SettingsCall) :
    Table.get? (cs.foldl (fun t c => c.apply t) values) = valuesAfter values.get? cs := by
  induction cs generalizing values with
  | nil => rfl
  | cons c cs ih =>
      rw [List.foldl_cons, ih (sorted_apply h c), get?_apply h]
      rfl

/-- A call answers what its key had, and it has none if the call sets it. -/
theorem answer_of_run {disk : Disk} {answer : Option Json} {s' : Settings} {files' : FileTree}
    (h : c.run disk s files = (.ok answer, s', files')) : answer = c.taken s.values := by
  rcases run_cases disk c s files with ⟨hnone, -, hrun⟩ | ⟨-, result, _, -, hrun⟩
  · rw [hrun] at h
    cases h
    cases c with
    | set key value => cases hnone
    | remove key =>
        have hmissing : (s.values.get? key).isSome = false := hnone
        exact (Option.not_isSome_iff_eq_none.1 (Bool.eq_false_iff.1 hmissing)).symm
  · rw [hrun] at h
    cases result with
    | error e => cases h
    | ok _ =>
        cases h
        rfl

/-! ## Memory and file -/

theorem made_snoc_call (es : List KeptEvent) (c : SettingsCall) (answer : Option Json) :
    made (es ++ [.call c answer]) = made es ++ [c] := List.filterMap_append

theorem written_snoc (values : Table Json) (cs : List SettingsCall) (c : SettingsCall) :
    written values (cs ++ [c]) = written values cs ++
      if c.writes (cs.foldl (fun t c => c.apply t) values) then
        [c.apply (cs.foldl (fun t c => c.apply t) values)]
      else [] := by
  induction cs generalizing values with
  | nil =>
      show written values [c] = [] ++ _
      rw [List.nil_append, written, written, List.append_nil]
      rfl
  | cons d cs ih => rw [List.cons_append, written, ih, written, List.append_assoc, List.foldl_cons]

/-- What is in memory and in the file, behind calls on settings with these values. -/
structure InStep (path : FilePath) (start : FileTree) (values : Table Json) (es : List KeptEvent)
    (s : Settings) (files : FileTree) : Prop where
  place : s.path = some path
  memory : s.values = (made es).foldl (fun t c => c.apply t) values
  /-- Nothing was written, or the file has the last table that was. -/
  file : (s.values = values ∧ files.read path.parts = start.read path.parts) ∨
    (s.values ∈ written values (made es) ∧
      files.read path.parts = .ok (Settings.render s.values))

theorem InStep.step {x y : Settings × FileTree} {e : KeptEvent}
    (h : InStep path start values es x.1 x.2) (hstep : KeptStep x e y) :
    InStep path start values (es ++ [e]) y.1 y.2 := by
  cases hstep with
  | elsewhere hkept =>
      have hmade : made (es ++ [.elsewhere]) = made es := by
        rw [made, List.filterMap_append]
        exact List.append_nil _
      have hread := hkept path h.place
      refine ⟨h.place, by rw [hmade]; exact h.memory, ?_⟩
      rw [hmade]
      exact h.file.imp (fun hold => ⟨hold.1, hread.trans hold.2⟩)
        fun hnew => ⟨hnew.1, hread.trans hnew.2⟩
  | @call s s' files files' disk c answer hrun =>
      obtain rfl := table_of_run hrun
      have hmemory : c.apply s.values =
          (made (es ++ [.call c answer])).foldl (fun t c => c.apply t) values := by
        rw [made_snoc_call, List.foldl_append, ← h.memory]
        rfl
      refine ⟨h.place, hmemory, ?_⟩
      rw [made_snoc_call, written_snoc, ← h.memory]
      by_cases hwrites : c.writes s.values = true
      · refine .inr ⟨?_, read_of_run h.place hwrites hrun⟩
        rw [if_pos hwrites]
        exact List.mem_append_right _ (List.mem_singleton_self _)
      · -- there was nothing to take out
        rw [if_neg hwrites, List.append_nil]
        rcases run_cases disk c s files with ⟨-, happly, hnone⟩ | ⟨hwritten, -⟩
        · obtain rfl : files = files' := congrArg (·.2.2) (hnone.symm.trans hrun)
          dsimp only
          rw [happly]
          exact h.file
        · exact absurd hwritten hwrites

theorem inStep (h : Run KeptStep (⟨some path, values⟩, start) es (s, files)) :
    InStep path start values es s files := by
  have hall : ∀ {es : List KeptEvent} {y : Settings × FileTree},
      Run KeptStep (⟨some path, values⟩, start) es y → InStep path start values es y.1 y.2 := by
    intro es y hrun
    induction hrun with
    | nil => exact ⟨rfl, rfl, .inl ⟨rfl, rfl⟩⟩
    | snoc _ hstep ih => exact ih.step hstep
  exact hall h

/-! ## Opening again -/

/-- Memory and file agree, behind calls on settings with these values. -/
structure Reopens (path : FilePath) (initial : Table Json) (es : List KeptEvent) (s : Settings)
    (files : FileTree) : Prop where
  /-- Whoever opens the file has what is in memory. -/
  opened : Settings.open_ files path = .ok s
  /-- Every key has the value that the last call about it has left it with; a key without one has the
  value of the beginning. -/
  values : ∀ key, s.get? key = valuesAfter initial.get? (made es) key
  /-- The keys are those that have a value, each once, in order. -/
  keys : s.keys.Pairwise (· < ·) ∧
    ∀ key, key ∈ s.keys ↔ (valuesAfter initial.get? (made es) key).isSome = true
  /-- A removal has answered the value that its key had just before it. -/
  removed : ∀ front key answer back, es = front ++ .call (.remove key) answer :: back →
    answer = valuesAfter initial.get? (made front) key

/-- **Memory and file agree.** Settings were opened on a file that was missing, blank or held a table,
and calls were made that all came off, while nobody else wrote the file. If YAML gives back the tables
that the calls have written, then the file is opened as what is in memory, and this is what the calls
have made of the values of the beginning. -/
theorem reopens (hholds : Settings.FileHolds start path values)
    (hrun : Run KeptStep (⟨some path, values⟩, start) es (s, files))
    (hback : ∀ t ∈ written values (made es), Settings.GivesBack t) :
    Settings.open_ start path = .ok ⟨some path, values⟩ ∧ Reopens path values es s files := by
  have hopen := Settings.open_of_fileHolds hholds
  obtain ⟨-, hsorted⟩ := Settings.open_ok hopen
  have hmemory := inStep hrun
  have hget : s.values.get? = valuesAfter values.get? (made es) := by
    rw [hmemory.memory]
    exact get?_foldl_apply hsorted _
  refine ⟨hopen, ?_, fun key => congrFun hget key, ⟨?_, fun key => ?_⟩, ?_⟩
  · -- the file holds what was there at first, or what was written last
    have hfile : Settings.FileHolds files path s.values := by
      rcases hmemory.file with ⟨hsame, hread⟩ | ⟨hwritten, hread⟩
      · rw [hsame]
        exact hholds.congr hread
      · exact Settings.fileHolds_of_read hread (hback _ hwritten)
    rw [Settings.open_of_fileHolds hfile, ← hmemory.place]
  · have hkeys : s.values.Sorted := by
      rw [hmemory.memory]
      exact sorted_foldl_apply hsorted _
    exact List.pairwise_map.2 hkeys
  · rw [← hget]
    exact (Table.contains_iff s.values key).symm
  · rintro front key answer back rfl
    obtain ⟨⟨m, before⟩, _, hfront, hstep⟩ := hrun.split
    cases hstep with
    | call hcall =>
        rw [answer_of_run hcall]
        show Table.get? m.values key = _
        rw [(inStep hfront).memory, get?_foldl_apply hsorted]

/-- Two keys are set in a file that is not there at first, and one of them is taken out again; to take
out a key that is not there changes nothing. -/
theorem reopens_of_removal : ∃ (start files : FileTree) (path : FilePath) (es : List KeptEvent)
    (s : Settings), Settings.FileHolds start path [] ∧
      Run KeptStep (⟨some path, []⟩, start) es (s, files) ∧
      (∀ t ∈ written [] (made es), Settings.GivesBack t) ∧ (made es).length = 4 ∧
      s.values = [("note", .null)] ∧ Settings.open_ files path = .ok s ∧
      Reopens path [] es s files := by
  let path : FilePath := ⟨"d/s.yaml", ["d", "s.yaml"]⟩
  let holds (text : String) : FileTree :=
    { files := [(["d", "s.yaml"], text)], dirs := [["d"]] }
  let hold : String × Json := ("hold_ms", .num (.int 80))
  let note : String × Json := ("note", .null)
  have hholds : Settings.FileHolds {} path [] := .missing (by decide)
  have call : ∀ {es : List KeptEvent} {s s' : Settings} {files files' : FileTree} (c : SettingsCall)
      (answer : Option Json), Run KeptStep (⟨some path, []⟩, {}) es (s, files) →
      c.run {} s files = (.ok answer, s', files') →
      Run KeptStep (⟨some path, []⟩, {}) (es ++ [.call c answer]) (s', files') :=
    fun _ _ h hrun => h.snoc (.call hrun)
  have h1 : Run KeptStep (⟨some path, []⟩, {}) _ (⟨some path, [hold]⟩, holds "hold_ms: 80\n") :=
    call (set "hold_ms" (.num (.int 80))) none .nil (by decide +kernel)
  have h2 : Run KeptStep (⟨some path, []⟩, {}) _
      (⟨some path, [hold, note]⟩, holds "hold_ms: 80\nnote: null\n") :=
    call (set "note" .null) none h1 (by decide +kernel)
  have h3 : Run KeptStep (⟨some path, []⟩, {}) _
      (⟨some path, [hold, note]⟩, holds "hold_ms: 80\nnote: null\n") :=
    call (remove "zoom") none h2 (by decide +kernel)
  have h4 : Run KeptStep (⟨some path, []⟩, {}) _ (⟨some path, [note]⟩, holds "note: null\n") :=
    call (remove "hold_ms") (some (.num (.int 80))) h3 (by decide +kernel)
  refine ⟨{}, _, path, _, _, hholds, h4, ?_⟩
  have hback : ∀ t ∈ [[hold], [hold, note], [note]], Settings.GivesBack t := by
    intro t ht
    simp only [List.mem_cons, List.not_mem_nil, or_false] at ht
    rcases ht with rfl | rfl | rfl
    all_goals
      unfold Settings.GivesBack
      decide +kernel
  obtain ⟨-, hreopens⟩ := reopens hholds h4 hback
  exact ⟨hback, rfl, rfl, hreopens.opened, hreopens⟩

end SettingsCall

end RuleEngine
