import Mathlib.Data.List.Perm.Basic
import RuleEngine.Table

set_option autoImplicit false

/-! # Tables keep their order

A table lists its keys in increasing order, each once. Putting an entry in keeps the order; if the
key is new, the entries are those of before and the new one.
-/

namespace RuleEngine

namespace Table

variable {α : Type}

theorem Sorted.nil : Sorted ([] : Table α) := List.Pairwise.nil

/-! ## Keys -/

theorem contains_iff (t : Table α) (key : String) :
    t.contains key = true ↔ key ∈ t.map (·.1) := by
  induction t with
  | nil => simp [contains, get?]
  | cons e rest ih =>
      obtain ⟨k, v⟩ := e
      unfold contains at ih ⊢
      rw [get?, List.map_cons, List.mem_cons]
      split
      · next h =>
        rw [h]
        exact iff_of_true rfl (Or.inl rfl)
      · next h =>
        rw [ih]
        constructor
        · exact Or.inr
        · rintro (heq | hmem)
          · exact absurd heq.symm h
          · exact hmem

/-- What is found under a key is an entry. -/
theorem mem_of_get? {t : Table α} {key : String} {value : α} (h : t.get? key = some value) :
    (key, value) ∈ t := by
  induction t with
  | nil => cases h
  | cons e rest ih =>
      rw [get?] at h
      split at h
      · next hkey =>
        cases h
        rw [← hkey]
        exact List.mem_cons_self
      · exact List.mem_cons_of_mem _ (ih h)

/-- A key that was put in belongs to the table, and so do those of before. -/
theorem mem_keys_insert (t : Table α) (key : String) (value : α) (k : String) :
    k ∈ (t.insert key value).map (·.1) ↔ k = key ∨ k ∈ t.map (·.1) := by
  rw [← contains_iff, ← contains_iff]
  unfold contains
  rw [get?_insert]
  split
  · next h => simp [h]
  · next h =>
    constructor
    · exact Or.inr
    · rintro (heq | hmem)
      · exact absurd heq.symm h
      · exact hmem

/-! ## Order -/

/-- Putting an entry in keeps the keys increasing. -/
theorem Sorted.insert {t : Table α} (h : Sorted t) (key : String) (value : α) :
    Sorted (t.insert key value) := by
  induction t with
  | nil => exact List.pairwise_singleton _ _
  | cons e rest ih =>
      obtain ⟨k, v⟩ := e
      obtain ⟨hlow, hrest⟩ := List.pairwise_cons.1 h
      rw [Table.insert]
      by_cases hlt : key < k
      · rw [if_pos hlt]
        refine List.pairwise_cons.2 ⟨?_, h⟩
        intro b hb
        rcases List.mem_cons.1 hb with rfl | hb
        · exact hlt
        · exact String.lt_trans hlt (hlow b hb)
      · rw [if_neg hlt]
        by_cases heq : key = k
        · rw [if_pos heq, heq]
          exact List.pairwise_cons.2 ⟨hlow, hrest⟩
        -- the first entry stays below the new one and below those that were behind it
        · rw [if_neg heq]
          refine List.pairwise_cons.2 ⟨?_, ih hrest⟩
          intro b hb
          have hkey : b.1 ∈ (Table.insert rest key value).map (·.1) :=
            List.mem_map_of_mem hb
          rcases (mem_keys_insert rest key value b.1).1 hkey with hb' | hb'
          · rw [hb']
            by_cases hk : k < key
            · exact hk
            · exact absurd (String.le_antisymm (String.not_lt.1 hk) (String.not_lt.1 hlt)) heq
          · obtain ⟨c, hc, hcb⟩ := List.mem_map.1 hb'
            rw [← hcb]
            exact hlow c hc

/-- An entry with a new key is put between those that are there. -/
theorem insert_split {t : Table α} {key : String} (h : t.contains key = false) (value : α) :
    ∃ front back, t = front ++ back ∧ t.insert key value = front ++ (key, value) :: back := by
  induction t with
  | nil => exact ⟨[], [], rfl, rfl⟩
  | cons e rest ih =>
      obtain ⟨k, v⟩ := e
      have hmem : key ∉ ((k, v) :: rest).map (·.1) := by
        rw [← contains_iff, h]
        decide
      rw [List.map_cons, List.mem_cons, not_or] at hmem
      have hrest : Table.contains rest key = false := by
        rw [Bool.eq_false_iff]
        intro hc
        exact hmem.2 ((contains_iff rest key).1 hc)
      rw [Table.insert]
      by_cases hlt : key < k
      · exact ⟨[], (k, v) :: rest, rfl, if_pos hlt⟩
      · obtain ⟨front, back, hsplit, hinsert⟩ := ih hrest
        refine ⟨(k, v) :: front, back, by rw [hsplit, List.cons_append], ?_⟩
        rw [if_neg hlt, if_neg hmem.1, hinsert, List.cons_append]

/-- An entry with a new key is put in beside those that are there. -/
theorem insert_perm {t : Table α} {key : String} (h : t.contains key = false) (value : α) :
    (t.insert key value).Perm ((key, value) :: t) := by
  obtain ⟨front, back, hsplit, hinsert⟩ := insert_split h value
  rw [hinsert, hsplit]
  exact List.perm_middle

/-- An entry behind all others is put in at the end. -/
theorem insert_last {t : Table α} {key : String} {value : α}
    (h : Sorted (t ++ [(key, value)])) : t.insert key value = t ++ [(key, value)] := by
  induction t with
  | nil => rfl
  | cons e rest ih =>
      obtain ⟨k, v⟩ := e
      obtain ⟨hlow, hrest⟩ := List.pairwise_cons.1 h
      have hk : k < key := hlow (key, value) (by simp)
      have hlt : ¬ key < k := fun hlt => String.lt_irrefl _ (String.lt_trans hk hlt)
      have hne : key ≠ k := by
        rintro rfl
        exact String.lt_irrefl _ hk
      rw [Table.insert, if_neg hlt, if_neg hne, ih hrest, List.cons_append]

/-- What was put into a table is an old entry or the new one. -/
theorem mem_insert {t : Table α} {key : String} {value : α} {e : String × α}
    (h : e ∈ t.insert key value) : e = (key, value) ∨ e ∈ t := by
  induction t with
  | nil => exact Or.inl (List.mem_singleton.1 h)
  | cons d rest ih =>
      obtain ⟨k, v⟩ := d
      rw [Table.insert] at h
      split at h
      · exact List.mem_cons.1 h
      · split at h
        · rcases List.mem_cons.1 h with h | h
          · exact Or.inl h
          · exact Or.inr (List.mem_cons_of_mem _ h)
        · rcases List.mem_cons.1 h with rfl | h
          · exact Or.inr List.mem_cons_self
          · rcases ih h with h | h
            · exact Or.inl h
            · exact Or.inr (List.mem_cons_of_mem _ h)

/-- Tables with the same entries are equal. -/
theorem Sorted.eq_of_perm {t u : Table α} (ht : t.Sorted) (hu : u.Sorted) (hperm : t.Perm u) :
    t = u := by
  refine hperm.eq_of_pairwise ?_ ht hu
  intro a b _ _ hab hba
  exact absurd (String.lt_trans hab hba) (String.lt_irrefl a.1)

/-- A table has no key twice. -/
theorem Sorted.nodup {t : Table α} (h : Sorted t) : (t.map (·.1)).Nodup := by
  refine (List.pairwise_map.2 h).imp ?_
  rintro a b hab rfl
  exact String.lt_irrefl _ hab

/-! ## Tables of lists -/

theorem sorted_foldl_insert {t : Table α} (h : Sorted t) (entries : List (String × α)) :
    Sorted (entries.foldl (fun t e => t.insert e.1 e.2) t) := by
  induction entries generalizing t with
  | nil => exact h
  | cons e rest ih => exact ih (h.insert e.1 e.2)

theorem sorted_ofList (entries : List (String × α)) : Sorted (ofList entries) :=
  sorted_foldl_insert .nil entries

theorem foldl_insert_perm {t : Table α} {entries : List (String × α)}
    (h : ((t ++ entries).map (·.1)).Nodup) :
    (entries.foldl (fun t e => t.insert e.1 e.2) t).Perm (t ++ entries) := by
  induction entries generalizing t with
  | nil => rw [List.foldl_nil, List.append_nil]
  | cons e rest ih =>
      have hnew : t.contains e.1 = false := by
        rw [Bool.eq_false_iff]
        intro hcontains
        rw [List.map_append, List.map_cons, List.nodup_append] at h
        exact h.2.2 e.1 ((contains_iff t e.1).1 hcontains) e.1 List.mem_cons_self rfl
      have hinsert : (t.insert e.1 e.2 ++ rest).Perm (t ++ e :: rest) :=
        ((insert_perm hnew e.2).append_right rest).trans List.perm_middle.symm
      rw [List.foldl_cons]
      exact (ih ((hinsert.map _).nodup_iff.2 h)).trans hinsert

/-- A list without repeated keys and its table have the same entries. -/
theorem ofList_perm {entries : List (String × α)} (h : (entries.map (·.1)).Nodup) :
    (ofList entries).Perm entries :=
  foldl_insert_perm h

theorem mem_ofList {entries : List (String × α)} {e : String × α} (h : e ∈ ofList entries) :
    e ∈ entries := by
  suffices hfoldl : ∀ t : Table α, e ∈ entries.foldl (fun t e => t.insert e.1 e.2) t →
      e ∈ t ∨ e ∈ entries from (hfoldl [] h).resolve_left List.not_mem_nil
  clear h
  induction entries with
  | nil => exact fun t h => .inl h
  | cons d rest ih =>
      intro t h
      rcases ih (t.insert d.1 d.2) h with h | h
      · rcases mem_insert h with rfl | h
        · exact .inr List.mem_cons_self
        · exact .inl h
      · exact .inr (List.mem_cons_of_mem _ h)

theorem mem_keys_ofList {entries : List (String × α)} {key : String} :
    key ∈ (ofList entries).keys ↔ key ∈ entries.map (·.1) := by
  suffices hfoldl : ∀ t : Table α,
      key ∈ (entries.foldl (fun t e => t.insert e.1 e.2) t).map (·.1) ↔
        key ∈ t.map (·.1) ∨ key ∈ entries.map (·.1) by
    have hempty := hfoldl []
    rw [List.map_nil] at hempty
    exact hempty.trans (or_iff_right List.not_mem_nil)
  induction entries with
  | nil => simp
  | cons e rest ih =>
      intro t
      rw [List.foldl_cons, ih, mem_keys_insert, List.map_cons, List.mem_cons]
      tauto

theorem Sorted.ofList_eq {t : Table α} (h : Sorted t) : ofList t = t :=
  (sorted_ofList t).eq_of_perm h (ofList_perm h.nodup)

/-! ## Changes that say the same -/

/-- Of two values that a key is given one after the other, the second counts. -/
theorem insert_insert (t : Table α) (key : String) (old value : α) :
    (t.insert key old).insert key value = t.insert key value := by
  have hself : ¬ key < key := String.lt_irrefl key
  induction t with
  | nil => rw [Table.insert, Table.insert, Table.insert, if_neg hself, if_pos rfl]
  | cons e rest ih =>
      obtain ⟨k, v⟩ := e
      rw [Table.insert, Table.insert]
      by_cases hlt : key < k
      · rw [if_pos hlt, if_pos hlt, Table.insert, if_neg hself, if_pos rfl]
      · rw [if_neg hlt, if_neg hlt]
        by_cases heq : key = k
        · rw [if_pos heq, if_pos heq, Table.insert, if_neg hself, if_pos rfl]
        · rw [if_neg heq, if_neg heq, Table.insert, if_neg hlt, if_neg heq, ih]

/-- A key below all others has no value. -/
theorem get?_eq_none_of_lt {t : Table α} {key : String} (h : ∀ e ∈ t, key < e.1) :
    t.get? key = none := by
  rw [← Option.not_isSome_iff_eq_none]
  intro hsome
  obtain ⟨e, he, rfl⟩ := List.mem_map.1 ((contains_iff t key).1 hsome)
  exact String.lt_irrefl _ (h e he)

/-- A table stays as it is where a key is given the value that it has. -/
theorem Sorted.insert_present {t : Table α} (h : Sorted t) {key : String} {value : α}
    (hget : t.get? key = some value) : t.insert key value = t := by
  induction t with
  | nil => cases hget
  | cons e rest ih =>
      obtain ⟨k, v⟩ := e
      obtain ⟨hlow, hrest⟩ := List.pairwise_cons.1 h
      rw [get?] at hget
      rw [Table.insert]
      by_cases heq : k = key
      · rw [if_pos heq] at hget
        obtain rfl : v = value := Option.some.inj hget
        rw [heq, if_neg (String.lt_irrefl key), if_pos rfl]
      · rw [if_neg heq] at hget
        have hlt : ¬ key < k := by
          intro hlt
          have hnone := get?_eq_none_of_lt fun e he => String.lt_trans hlt (hlow e he)
          rw [hnone] at hget
          cases hget
        rw [if_neg hlt, if_neg (Ne.symm heq), ih hrest hget]

/-! ## Taking keys out -/

theorem erase_sublist (t : Table α) (key : String) : (t.erase key).Sublist t := by
  induction t with
  | nil => exact List.Sublist.slnil
  | cons e rest ih =>
      obtain ⟨k, v⟩ := e
      rw [Table.erase]
      split
      · exact List.sublist_cons_self _ _
      · exact ih.cons_cons _

/-- Taking a key out keeps the keys increasing. -/
theorem Sorted.erase {t : Table α} (h : Sorted t) (key : String) : Sorted (t.erase key) :=
  List.Pairwise.sublist (erase_sublist t key) h

/-- There is nothing to take out for a key without a value. -/
theorem erase_eq_self {t : Table α} {key : String} (h : t.get? key = none) : t.erase key = t := by
  induction t with
  | nil => rfl
  | cons e rest ih =>
      obtain ⟨k, v⟩ := e
      rw [get?] at h
      split at h
      · cases h
      · next hne => rw [Table.erase, if_neg hne, ih h]

/-- A key that was taken out has no value. -/
theorem Sorted.get?_erase {t : Table α} (h : Sorted t) (key : String) :
    (t.erase key).get? key = none := by
  induction t with
  | nil => rfl
  | cons e rest ih =>
      obtain ⟨k, v⟩ := e
      obtain ⟨hlow, hrest⟩ := List.pairwise_cons.1 h
      rw [Table.erase]
      by_cases heq : k = key
      · rw [if_pos heq]
        subst heq
        exact get?_eq_none_of_lt hlow
      · rw [if_neg heq, get?, if_neg heq]
        exact ih hrest

theorem get?_erase_of_ne (t : Table α) {key other : String} (h : other ≠ key) :
    (t.erase key).get? other = t.get? other := by
  induction t with
  | nil => rfl
  | cons e rest ih =>
      obtain ⟨k, v⟩ := e
      rw [Table.erase]
      by_cases heq : k = key
      · rw [if_pos heq, get?, if_neg (fun hk => h (hk.symm.trans heq))]
      · rw [if_neg heq, get?, get?, ih]

end Table

end RuleEngine
