import RuleEngine.Proofs.Table
import RuleEngine.Rule.Selection

set_option autoImplicit false

/-! # What a condition can see

The keys that a condition refers to are listed in increasing order, each once, and they are those of
the tests of facts that stand anywhere in it (`Condition.Occurs`). Its value is read off the same tests,
chains being left at the first operand that decides them, so that facts under other keys make no
difference.

**Main result.** `Condition.referencedKeys_determine`: the keys that are listed are the keys that are
tested, and they determine the value of a condition and, for a list of rules, the rules that fire.
-/

namespace RuleEngine

namespace Condition

/-! ## Tests of facts -/

/-- A condition is another one or stands in it. -/
inductive Occurs (d : Condition) : Condition → Prop
  | self : Occurs d d
  | not {c : Condition} : Occurs d c → Occurs d (.not c)
  | all {c : Condition} {cs : List Condition} : c ∈ cs → Occurs d c → Occurs d (.all cs)
  | any {c : Condition} {cs : List Condition} : c ∈ cs → Occurs d c → Occurs d (.any cs)

/-- The tests of the fact of a key. -/
inductive Tests (key : String) : Condition → Prop
  | present : Tests key (.present key)
  | compare (op : Comparison) (value : Literal) : Tests key (.compare key op value)

theorem mem_leafKeysList {cs : List Condition} {key : String} :
    key ∈ leafKeysList cs ↔ ∃ c ∈ cs, key ∈ leafKeys c := by
  induction cs with
  | nil => simp [leafKeysList]
  | cons c cs ih => simp [leafKeysList, ih]

/-- The key of a test belongs to the leaves wherever the test stands. -/
theorem mem_leafKeys_of_occurs {c leaf : Condition} {key : String} (hkey : Tests key leaf)
    (h : Occurs leaf c) : key ∈ leafKeys c := by
  induction h with
  | self => cases hkey <;> exact List.mem_singleton.2 rfl
  | not _ ih => exact ih
  | all hc _ ih => exact mem_leafKeysList.2 ⟨_, hc, ih⟩
  | any hc _ ih => exact mem_leafKeysList.2 ⟨_, hc, ih⟩

/-- Every key of a leaf is tested somewhere. -/
theorem occurs_of_mem_leafKeys {c : Condition} {key : String} (h : key ∈ leafKeys c) :
    ∃ leaf, Tests key leaf ∧ Occurs leaf c := by
  match c with
  | .const _ => cases h
  | .present _ =>
      obtain rfl := List.mem_singleton.1 h
      exact ⟨_, .present, .self⟩
  | .compare _ op value =>
      obtain rfl := List.mem_singleton.1 h
      exact ⟨_, .compare op value, .self⟩
  | .not c =>
      obtain ⟨leaf, hkey, hleaf⟩ := occurs_of_mem_leafKeys (c := c) h
      exact ⟨leaf, hkey, .not hleaf⟩
  | .all cs =>
      obtain ⟨c, hc, hmem⟩ := mem_leafKeysList.1 h
      obtain ⟨leaf, hkey, hleaf⟩ := occurs_of_mem_leafKeys hmem
      exact ⟨leaf, hkey, .all hc hleaf⟩
  | .any cs =>
      obtain ⟨c, hc, hmem⟩ := mem_leafKeysList.1 h
      obtain ⟨leaf, hkey, hleaf⟩ := occurs_of_mem_leafKeys hmem
      exact ⟨leaf, hkey, .any hc hleaf⟩

/-! ## The list of the keys -/

theorem referencedKeys_pairwise (c : Condition) : c.referencedKeys.Pairwise (· < ·) :=
  List.pairwise_map.2 (Table.sorted_ofList _)

theorem mem_referencedKeys {c : Condition} {key : String} :
    key ∈ c.referencedKeys ↔ key ∈ leafKeys c := by
  rw [referencedKeys, Table.mem_keys_ofList, List.map_map]
  exact Iff.of_eq (congrArg (key ∈ ·) (List.map_id _))

/-! ## The value on facts that agree -/

section Agreement

variable {f g : FactSource}

mutual

/-- **Facts that agree on the keys of the leaves** give a condition the same value. -/
theorem eval_congr {c : Condition} (h : ∀ key ∈ leafKeys c, f key = g key) :
    c.eval f = c.eval g := by
  match c with
  | .const b => rw [eval, eval]
  | .present key => rw [eval, eval, h key (List.mem_singleton.2 rfl)]
  | .compare key op value => rw [eval, eval, h key (List.mem_singleton.2 rfl)]
  | .not c => rw [eval, eval, eval_congr (c := c) h]
  | .all cs => rw [eval, eval, evalAll_congr h]
  | .any cs => rw [eval, eval, evalAny_congr h]

theorem evalAll_congr {cs : List Condition} (h : ∀ key ∈ leafKeysList cs, f key = g key) :
    evalAll f cs = evalAll g cs := by
  match cs with
  | [] => rw [evalAll, evalAll]
  | c :: cs =>
      rw [leafKeysList, List.forall_mem_append] at h
      rw [evalAll, evalAll, eval_congr h.1, evalAll_congr h.2]

theorem evalAny_congr {cs : List Condition} (h : ∀ key ∈ leafKeysList cs, f key = g key) :
    evalAny f cs = evalAny g cs := by
  match cs with
  | [] => rw [evalAny, evalAny]
  | c :: cs =>
      rw [leafKeysList, List.forall_mem_append] at h
      rw [evalAny, evalAny, eval_congr h.1, evalAny_congr h.2]

end

end Agreement

/-- Facts that agree on the keys that a condition refers to give it the same value. -/
theorem eval_eq_of_referencedKeys {c : Condition} {f g : FactSource}
    (h : ∀ key ∈ c.referencedKeys, f key = g key) : c.eval f = c.eval g :=
  eval_congr fun key hkey => h key (mem_referencedKeys.2 hkey)

end Condition

namespace Rule

/-- Facts that agree on the keys that the conditions of rules refer to make the same rules fire. -/
theorem select_congr {rules : List Rule} {f g : FactSource}
    (h : ∀ r ∈ rules, ∀ key ∈ r.condition.referencedKeys, f key = g key) :
    select f rules = select g rules := by
  have hmatching : rules.filter (fun r => r.condition.eval f) =
      rules.filter (fun r => r.condition.eval g) :=
    List.filter_congr fun r hr => Condition.eval_eq_of_referencedKeys (h r hr)
  rw [select, select, hmatching]

end Rule

namespace Condition

/-- **The keys that a condition refers to are what it can see.** They are listed in increasing order,
each once, and are the keys of the tests of facts in it. Facts that agree on them give it the same value,
and facts that agree on those of all rules make the same rules fire. -/
theorem referencedKeys_determine :
    (∀ c : Condition, c.referencedKeys.Pairwise (· < ·) ∧
      ∀ key, key ∈ c.referencedKeys ↔ ∃ leaf, Tests key leaf ∧ Occurs leaf c) ∧
    (∀ (c : Condition) (f g : FactSource), (∀ key ∈ c.referencedKeys, f key = g key) →
      c.eval f = c.eval g) ∧
    (∀ (rules : List Rule) (f g : FactSource),
      (∀ r ∈ rules, ∀ key ∈ r.condition.referencedKeys, f key = g key) →
        Rule.select f rules = Rule.select g rules) := by
  refine ⟨fun c => ⟨referencedKeys_pairwise c, fun key => ?_⟩,
    fun c f g h => eval_eq_of_referencedKeys h, fun rules f g h => Rule.select_congr h⟩
  rw [mem_referencedKeys]
  constructor
  · exact occurs_of_mem_leafKeys
  · rintro ⟨leaf, hkey, hleaf⟩
    exact mem_leafKeys_of_occurs hkey hleaf

/-- The wind differs and is not looked at; a missing fact is looked at as well. -/
theorem referencedKeys_determine_wind : ∃ (c : Condition) (f g : FactSource),
    c.referencedKeys = ["mode", "pause"] ∧ f "wind" ≠ g "wind" ∧
    f "mode" = some (.str "hunt") ∧ f "pause" = none ∧ (∀ key ∈ c.referencedKeys, f key = g key) ∧
    c.eval f = c.eval g ∧
    Rule.select f [{ id := "aim", condition := c, exclusive := true }, { id := "rest" }] =
      Rule.select g [{ id := "aim", condition := c, exclusive := true }, { id := "rest" }] := by
  obtain ⟨-, heval, hselect⟩ := referencedKeys_determine
  have hkeys : referencedKeys (.all [.not (.present "pause"), .compare "mode" .eq (.text "hunt")]) =
      ["mode", "pause"] := by decide +kernel
  have hagree : ∀ key ∈ ["mode", "pause"],
      Facts.source [("mode", .str "hunt"), ("wind", .str "east")] key =
        Facts.source [("mode", .str "hunt"), ("wind", .str "west")] key := by decide +kernel
  rw [← hkeys] at hagree
  refine ⟨_, _, _, hkeys, by decide +kernel, by decide +kernel, by decide +kernel, hagree,
    heval _ _ _ hagree, hselect _ _ _ ?_⟩
  rintro r (_ | ⟨_, _ | ⟨_, hr⟩⟩)
  · exact hagree
  · decide
  · cases hr

end Condition

end RuleEngine
