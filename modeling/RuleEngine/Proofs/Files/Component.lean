import RuleEngine.Proofs.Files.Entry

set_option autoImplicit false

/-! # Components of paths

A path is written as names between slashes. It begins with a slash, with a dot or with nothing; other
empty names and dots mean nothing, two dots go up, and every other name is an entry of the directory
before it. Where a visible name without separators is joined to a path, the path becomes longer by this
one entry and stays what it was in front of it (`FilePath.LeadsThrough.child`). -/

namespace RuleEngine

namespace FilePath

/-! ## Reading a path -/

/-- A part of a path as it is written. -/
inductive Component
  | root
  | here
  | up
  | entry (name : String)
deriving DecidableEq

namespace Component

/-- What a name means behind another one. -/
def ofName? (name : String) : Option Component :=
  if name = "" ∨ name = "." then none
  else if name = ".." then some .up
  else some (.entry name)

/-- What the first name of a path means; an empty one stands in front of the slash of the root. -/
def ofFirst? (name : String) (isOnly : Bool) : Option Component :=
  if name = "" then (if isOnly then none else some .root)
  else if name = "." then some .here
  else ofName? name

theorem entry_injective : Function.Injective entry := fun _ _ h => by
  cases h
  rfl

end Component

/-- The components of a path. -/
def components (text : String) : List Component :=
  match names text with
  | [] => []
  | first :: rest =>
    (Component.ofFirst? first rest.isEmpty).toList ++ rest.filterMap Component.ofName?

/-! ## Names -/

/-- A visible name without separators. -/
structure IsPlain (name : String) : Prop where
  nonempty : name ≠ ""
  visible : isHidden name = false
  separate : ∀ c ∈ name.toList, c ≠ '/' ∧ c ≠ '\\'

variable {p q dir : FilePath} {name a b : String} {ns ms : List String}

theorem IsPlain.ne_dot (h : IsPlain name) : name ≠ "." := by
  rintro rfl
  exact absurd h.visible (by decide)

theorem IsPlain.ne_dots (h : IsPlain name) : name ≠ ".." := by
  rintro rfl
  exact absurd h.visible (by decide)

/-- What is put behind a plain name does not hide it. -/
theorem IsPlain.append (h : IsPlain name) {rest : String}
    (hrest : ∀ c ∈ rest.toList, c ≠ '/' ∧ c ≠ '\\') : IsPlain (name ++ rest) where
  nonempty := by simp [h.nonempty]
  visible := by rw [isHidden_append h.nonempty, h.visible]
  separate := by
    rw [String.toList_append, List.forall_mem_append]
    exact ⟨h.separate, hrest⟩

theorem IsPlain.ofName? (h : IsPlain name) : Component.ofName? name = some (.entry name) := by
  unfold Component.ofName?
  rw [if_neg (by simp [h.nonempty, h.ne_dot]), if_neg h.ne_dots]

/-! ## Joining -/

theorem names_slash (a b : String) : names (a ++ "/" ++ b) = names a ++ names b := by
  have hchars : (a ++ "/" ++ b).toList = a.toList ++ '/' :: b.toList := by simp
  unfold names
  rw [hchars, List.splitOn_append_cons_self, List.map_append]

theorem names_ne_nil (text : String) : names text ≠ [] := by
  unfold names
  rw [Ne, List.map_eq_nil_iff]
  exact List.splitOn_ne_nil _ _

theorem names_of_not_mem (h : '/' ∉ name.toList) : names name = [name] := by
  unfold names
  rw [List.splitOn_eq_singleton h]
  simp

theorem IsPlain.names_eq (h : IsPlain name) : names name = [name] :=
  names_of_not_mem fun hmem => (h.separate '/' hmem).1 rfl

theorem names_trailing (a : String) : names (a ++ "/") = names a ++ [""] := by
  have hempty : names "" = [""] := names_of_not_mem (by simp)
  rw [← hempty, ← names_slash, String.append_empty]

theorem components_of_names {text first : String} {rest : List String}
    (h : names text = first :: rest) : components text =
      (Component.ofFirst? first rest.isEmpty).toList ++ rest.filterMap Component.ofName? := by
  unfold components
  rw [h]

/-- Nothing between two slashes is no component. -/
theorem filterMap_trailing (ns : List String) :
    (ns ++ [""]).filterMap Component.ofName? = ns.filterMap Component.ofName? := by
  have hnone : Component.ofName? "" = none := by decide
  rw [List.filterMap_append, List.filterMap_cons_none hnone, List.filterMap_nil, List.append_nil]

/-- Behind a slash every name is a component of its own. -/
theorem components_slash (a b : String) : components (a ++ "/" ++ b) =
    components (a ++ "/") ++ (names b).filterMap Component.ofName? := by
  obtain ⟨first, rest, hnames⟩ := List.exists_cons_of_ne_nil (names_ne_nil a)
  have hlast : names (a ++ "/") = first :: (rest ++ [""]) := by
    rw [names_trailing, hnames, List.cons_append]
  have hboth : names (a ++ "/" ++ b) = first :: (rest ++ names b) := by
    rw [names_slash, hnames, List.cons_append]
  -- in both texts there is something behind the first name
  have hmore : (rest ++ names b).isEmpty = (rest ++ [""]).isEmpty := by
    rw [List.isEmpty_eq_false_iff.2 (List.append_ne_nil_of_right_ne_nil rest (names_ne_nil b)),
      List.isEmpty_eq_false_iff.2 (List.append_ne_nil_of_right_ne_nil rest (List.cons_ne_nil "" []))]
  rw [components_of_names hboth, components_of_names hlast, filterMap_trailing, hmore,
    List.filterMap_append, List.append_assoc]

/-- A slash behind a path changes nothing. -/
theorem components_trailing (h : a ≠ "") : components (a ++ "/") = components a := by
  obtain ⟨first, rest, hnames⟩ := List.exists_cons_of_ne_nil (names_ne_nil a)
  have hlast : names (a ++ "/") = first :: (rest ++ [""]) := by
    rw [names_trailing, hnames, List.cons_append]
  rw [components_of_names hlast, components_of_names hnames, filterMap_trailing]
  cases rest with
  | cons second rest => rfl
  | nil =>
      -- the only name is the whole text, and so it is not empty
      have hfirst : first ≠ "" := by
        rintro rfl
        refine h (String.toList_injective ?_)
        have hsplit : a.toList.splitOn '/' = [[]] := by
          have := congrArg (List.map String.toList) hnames
          simpa [names] using this
        have hjoined : ['/'].intercalate (a.toList.splitOn '/') = a.toList :=
          List.intercalate_splitOn '/'
        rw [← hjoined, hsplit]
        rfl
      unfold Component.ofFirst?
      rw [if_neg hfirst, if_neg hfirst]

/-- A plain name becomes the last component. -/
theorem components_child (p : FilePath) (h : IsPlain name) :
    components (p.child name).text = components p.text ++ [.entry name] := by
  have hname : (names name).filterMap Component.ofName? = [.entry name] := by
    simp [h.names_eq, h.ofName?]
  have hslash : ∀ a, components (a ++ "/" ++ name) = components (a ++ "/") ++ [.entry name] := by
    intro a
    rw [components_slash, hname]
  show components (if p.text.isEmpty || p.text.toList.getLast? = some '/' then p.text ++ name
    else p.text ++ "/" ++ name) = _
  by_cases hempty : p.text = ""
  · have hfirst : Component.ofFirst? name true = some (.entry name) := by
      unfold Component.ofFirst?
      rw [if_neg h.nonempty, if_neg h.ne_dot, h.ofName?]
    rw [if_pos (by simp [hempty]), hempty, String.empty_append]
    have hnone : components "" = [] := by decide
    rw [hnone]
    unfold components
    rw [h.names_eq]
    simp [hfirst]
  · by_cases hlast : p.text.toList.getLast? = some '/'
    · rw [if_pos (by simp [hlast])]
      obtain ⟨front, hfront⟩ := List.getLast?_eq_some_iff.1 hlast
      have htext : p.text = String.ofList front ++ "/" := by
        refine String.toList_injective ?_
        rw [hfront]
        simp
      rw [htext, hslash]
    · rw [if_neg (by simp [hempty, hlast]), hslash, components_trailing hempty]

/-- Joining a plain name is going to the entry of that name. -/
theorem IsPlain.join (h : IsPlain name) (p : FilePath) : p.join name = p.child name := by
  have hrelative : isAbsolute name = false := by
    unfold isAbsolute
    rw [decide_eq_false_iff_not]
    intro hhead
    exact (h.separate '/' (List.mem_of_head? hhead)).1 rfl
  have hfollow : follow p.parts name = p.parts ++ [name] := by
    unfold follow
    rw [if_neg (by simp [h.nonempty, h.ne_dot]), if_neg (by simp [h.ne_dots])]
  unfold FilePath.join
  rw [hrelative, h.names_eq]
  simp only [Bool.false_eq_true, if_false, List.foldl_cons, List.foldl_nil, hfollow]
  rfl

/-! ## Paths below a directory -/

/-- A path is made from a directory by joining plain names: each of them is one component of the path
and one step from the directory. -/
structure LeadsThrough (p dir : FilePath) (ns : List String) : Prop where
  joined : p = ns.foldl FilePath.join dir
  plain : ∀ name ∈ ns, IsPlain name
  components : components p.text = components dir.text ++ ns.map .entry
  parts : p.parts = dir.parts ++ ns

theorem LeadsThrough.refl (dir : FilePath) : dir.LeadsThrough dir [] where
  joined := rfl
  plain := nofun
  components := (List.append_nil _).symm
  parts := (List.append_nil _).symm

/-- **A plain name leads one entry further.** -/
theorem LeadsThrough.child (h : p.LeadsThrough dir ns) (hname : IsPlain name) :
    (p.child name).LeadsThrough dir (ns ++ [name]) where
  joined := by rw [List.foldl_append, ← h.joined, List.foldl_cons, List.foldl_nil, hname.join]
  plain := by
    rw [List.forall_mem_append]
    exact ⟨h.plain, fun n hn => List.mem_singleton.1 hn ▸ hname⟩
  components := by
    rw [components_child p hname, h.components, List.append_assoc, List.map_append]
    rfl
  parts := by
    show p.parts ++ [name] = dir.parts ++ (ns ++ [name])
    rw [h.parts, List.append_assoc]

/-- Paths that are written with the same components, or that lead to the same place. -/
def Meets (p q : FilePath) : Prop :=
  FilePath.components p.text = FilePath.components q.text ∨ p.parts = q.parts

/-- A path goes on where another one ends, as it is written or as it leads. -/
def LiesIn (p dir : FilePath) : Prop :=
  (∃ more, more ≠ [] ∧ FilePath.components p.text = FilePath.components dir.text ++ more) ∨
    ∃ more, more ≠ [] ∧ p.parts = dir.parts ++ more

section Both

variable (hp : p.LeadsThrough dir ns) (hq : q.LeadsThrough dir ms)

include hp hq

/-- Paths below one directory meet if they lead through the same names. -/
theorem LeadsThrough.meets_iff : p.Meets q ↔ ns = ms := by
  unfold Meets
  rw [hp.components, hq.components, hp.parts, hq.parts, List.append_cancel_left_eq,
    List.append_cancel_left_eq, List.map_inj_right Component.entry_injective, or_self]

/-- A path lies in another one if it leads through more names. -/
theorem LeadsThrough.length_lt_of_liesIn (h : p.LiesIn q) : ms.length < ns.length := by
  rcases h with ⟨more, hmore, heq⟩ | ⟨more, hmore, heq⟩
  · rw [hp.components, hq.components, List.append_assoc, List.append_cancel_left_eq] at heq
    have hlength := congrArg List.length heq
    have hpos := List.length_pos_of_ne_nil hmore
    simp only [List.length_map, List.length_append] at hlength
    omega
  · rw [hp.parts, hq.parts, List.append_assoc, List.append_cancel_left_eq] at heq
    have hlength := congrArg List.length heq
    have hpos := List.length_pos_of_ne_nil hmore
    simp only [List.length_append] at hlength
    omega

end Both

end FilePath

end RuleEngine
