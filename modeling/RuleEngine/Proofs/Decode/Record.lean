import Mathlib.Data.List.Pairwise
import RuleEngine.Proofs.Decode.Source

set_option autoImplicit false

/-! # Records that are read back

A record that is written field by field, in declaration order and without the fields that say nothing
(`Writes`), is read back from data that shows it, if the fields of its type do not get in each other's
way (`RecordType.Commutes`): `RecordType.decode_of_writes`.

The other way round, what is decoded satisfies whatever every field of its type keeps, as long as the
data is such that all its parts are (`RecordType.decode_keeps`).
-/

namespace RuleEngine

namespace Decode

variable {ν : Type} [DataSource ν] {R : ν → Json → Prop} {α : Type}

/-! ## Records -/

/-- Fields, in declaration order, turn the record that has been put together so far into another one
when these values are given for them. A field that need not be given may be left out. -/
inductive Writes (R : ν → Json → Prop) :
    List (Field ν α) → α → List (String × Json) → α → Prop
  | nil (a : α) : Writes R [] a [] a
  | given {f : Field ν α} {fs : List (Field ν α)} {a a₁ a' : α} {y : Json}
      {fields : List (String × Json)} :
      (∀ x, R x y → f.put x a = .ok a₁) → Writes R fs a₁ fields a' →
      Writes R (f :: fs) a ((f.name, y) :: fields) a'
  | leftOut {f : Field ν α} {fs : List (Field ν α)} {a a' : α} {fields : List (String × Json)} :
      f.required = false → Writes R fs a fields a' → Writes R (f :: fs) a fields a'

section Fields

omit [DataSource ν]

theorem Field.put_of {β : Type} {name : String} {required : Bool}
    {decode : ν → Except DecodeError β} {store : β → α → α} {x : ν} {b : β} (a : α)
    (h : decode x = .ok b) : (Field.of name required decode store).put x a = .ok (store b a) := by
  show (decode x).map (store · a) = .ok (store b a)
  rw [h]
  rfl

/-- Two fields are put into a record in either order. -/
def Field.Commute (f g : Field ν α) : Prop :=
  ∀ x y a b, (∃ m, f.put x a = .ok m ∧ g.put y m = .ok b) ↔
    ∃ m, g.put y a = .ok m ∧ f.put x m = .ok b

instance : Std.Symm (@Field.Commute ν α) :=
  ⟨fun _ _ h x y a b => (h y x a b).symm⟩

/-- Fields that are decoded on their own and then stored in different places. -/
theorem Field.commute_of {β γ : Type} {m n : String} {p q : Bool} {decode : ν → Except DecodeError β}
    {decode' : ν → Except DecodeError γ} {store : β → α → α} {store' : γ → α → α}
    (h : ∀ b c a, store' c (store b a) = store b (store' c a)) :
    (Field.of m p decode store).Commute (Field.of n q decode' store') := by
  intro x y a b
  show (∃ m, (decode x).map (store · a) = .ok m ∧ (decode' y).map (store' · m) = .ok b) ↔
    ∃ m, (decode' y).map (store' · a) = .ok m ∧ (decode x).map (store · m) = .ok b
  cases decode x with
  | error e => simp [Except.map]
  | ok c =>
      cases decode' y with
      | error e => simp [Except.map]
      | ok d => simp [Except.map, h]

/-- What is asked of a record holds on after the field has been put into it from data of a kind. -/
def Field.Keeps (Q : ν → Prop) (P : α → Prop) (f : Field ν α) : Prop :=
  ∀ x a a', Q x → P a → f.put x a = .ok a' → P a'

/-- A field that is decoded on its own keeps what its store keeps. -/
theorem Field.keeps_of {β : Type} {Q : ν → Prop} {P : α → Prop} {name : String} {required : Bool}
    {decode : ν → Except DecodeError β} {store : β → α → α}
    (hstore : ∀ x b a, Q x → P a → decode x = .ok b → P (store b a)) :
    (Field.of name required decode store).Keeps Q P := by
  intro x a a' hx ha h
  change (decode x).map (store · a) = .ok a' at h
  cases hdecode : decode x with
  | error e =>
      rw [hdecode] at h
      cases h
  | ok b =>
      rw [hdecode] at h
      cases h
      exact hstore x b a hx ha hdecode

namespace Writes

variable {fs : List (Field ν α)} {a a' : α} {fields : List (String × Json)} {name : String}

theorem always {β : Type} {required : Bool} {decode : ν → Except DecodeError β}
    {store : β → α → α} {y : Json} (b : β) (hdecode : ∀ x, R x y → decode x = .ok b)
    (hrest : Writes R fs (store b a) fields a') :
    Writes R (Field.of name required decode store :: fs) a ((name, y) :: fields) a' :=
  .given (fun x hx => Field.put_of a (hdecode x hx)) hrest

/-- A field that is left out where its value is the one that it has without being given. -/
theorem optional {β : Type} {decode : ν → Except DecodeError β} {store : β → α → α} {y : Json}
    {p : Prop} [Decidable p] (b default : β) (hskip : p → b = default) (hsame : store default a = a)
    (hdecode : ∀ x, R x y → decode x = .ok b) (hrest : Writes R fs (store b a) fields a') :
    Writes R (Field.of name false decode store :: fs) a
      ((if p then [] else [(name, y)]) ++ fields) a' := by
  by_cases hp : p
  · rw [if_pos hp, List.nil_append]
    rw [hskip hp, hsame] at hrest
    exact .leftOut rfl hrest
  · rw [if_neg hp]
    exact always b hdecode hrest

theorem option {β : Type} {decode : ν → Except DecodeError (Option β)} {store : Option β → α → α}
    {toJson : β → Json} (value : Option β) (hnone : store none a = a)
    (hdecode : ∀ b, value = some b → ∀ x, R x (toJson b) → decode x = .ok (some b))
    (hrest : Writes R fs (store value a) fields a') :
    Writes R (Field.of name false decode store :: fs) a
      ((value.toList.map fun b => (name, toJson b)) ++ fields) a' := by
  cases value with
  | none =>
      rw [hnone] at hrest
      exact .leftOut rfl hrest
  | some b => exact always (some b) (hdecode b rfl) hrest

/-- Only names of fields are written, in declaration order. -/
theorem names_sublist (h : Writes R fs a fields a') :
    (fields.map (·.1)).Sublist (fs.map (·.name)) := by
  induction h with
  | nil => exact .slnil
  | given _ _ ih => exact ih.cons_cons _
  | leftOut _ _ ih => exact ih.cons _

end Writes

end Fields

theorem Writes.flag (hR : FaithfulUpToOrder R) {store : Bool → α → α} (b : Bool)
    {fs : List (Field ν α)} {a a' : α} {fields : List (String × Json)} {name : String}
    (hoff : store false a = a) (hrest : Writes R fs (store b a) fields a') :
    Writes R (Field.of name false DataSource.bool store :: fs) a
      ((if b then [(name, .bool true)] else []) ++ fields) a' := by
  cases b with
  | true => exact .always true (fun _ hx => hR.bool hx) hrest
  | false =>
      rw [hoff] at hrest
      exact .leftOut rfl hrest

namespace RecordType

variable {r : RecordType ν α}

section Names

omit [DataSource ν]

/-- In a record type without repeated names, a field is found under its name. -/
theorem find?_field {front fs : List (Field ν α)} {f : Field ν α}
    (hfields : r.fields = front ++ f :: fs) (hnodup : r.fieldNames.Nodup) :
    (r.fields.find? fun g => g.name == f.name) = some f ∧ f.name ∉ front.map (·.name) := by
  have hfront : f.name ∉ front.map (·.name) := by
    intro hmem
    rw [fieldNames, hfields, List.map_append, List.map_cons] at hnodup
    exact (List.nodup_append.1 hnodup).2.2 _ hmem _ List.mem_cons_self rfl
  have hnone : (front.find? fun g => g.name == f.name) = none := by
    rw [List.find?_eq_none]
    intro g hg heq
    exact hfront (List.mem_map.2 ⟨g, hg, beq_iff_eq.1 heq⟩)
  refine ⟨?_, hfront⟩
  rw [hfields, List.find?_append, hnone, Option.none_or, List.find?_cons_of_pos (by simp)]

/-- The names that have been read are those of fields in front, and no field of these that must be
given is missing. -/
structure HasRead (front : List (Field ν α)) (seen : List String) : Prop where
  within : ∀ n ∈ seen, n ∈ front.map (·.name)
  required : ∀ f ∈ front, f.required = true → f.name ∈ seen

section HasRead

variable {front : List (Field ν α)} {seen : List String} {f : Field ν α}

theorem HasRead.given (h : HasRead front seen) : HasRead (front ++ [f]) (f.name :: seen) where
  within := by
    intro n hn
    rw [List.map_append]
    rcases List.mem_cons.1 hn with rfl | hn
    · exact List.mem_append_right _ (by simp)
    · exact List.mem_append_left _ (h.within n hn)
  required := by
    intro g hg hrequired
    rcases List.mem_append.1 hg with hg | hg
    · exact List.mem_cons_of_mem _ (h.required g hg hrequired)
    · rw [List.mem_singleton.1 hg]
      exact List.mem_cons_self

theorem HasRead.leftOut (h : HasRead front seen) (hrequired : f.required = false) :
    HasRead (front ++ [f]) seen where
  within := by
    intro n hn
    rw [List.map_append]
    exact List.mem_append_left _ (h.within n hn)
  required := by
    intro g hg hg'
    rcases List.mem_append.1 hg with hg | hg
    · exact h.required g hg hg'
    · rw [List.mem_singleton.1 hg, hrequired] at hg'
      cases hg'

end HasRead

/-- The fields of a record type do not get in each other's way. -/
def Commutes (r : RecordType ν α) : Prop := r.fields.Pairwise Field.Commute

theorem Commutes.of_find? (hr : r.Commutes) {f g : Field ν α} {m n : String} (hne : m ≠ n)
    (hf : (r.fields.find? fun f => f.name == m) = some f)
    (hg : (r.fields.find? fun f => f.name == n) = some g) : f.Commute g := by
  have hfname : f.name = m := by simpa using List.find?_some hf
  have hgname : g.name = n := by simpa using List.find?_some hg
  refine List.Pairwise.forall hr (List.mem_of_find?_eq_some hf) (List.mem_of_find?_eq_some hg) ?_
  rintro rfl
  exact hne (hfname.symm.trans hgname)

end Names

/-- An entry of a field that has not been read is put into the record. -/
theorem ofEntries_cons {seen : List String} {a a' : α} {f : Field ν α} {k x : ν}
    (es : List (ν × ν)) (hkey : text k = .ok f.name)
    (hfind : (r.fields.find? fun g => g.name == f.name) = some f) (hnew : f.name ∉ seen)
    (hput : f.put x a = .ok a') :
    r.ofEntries seen a ((k, x) :: es) = r.ofEntries (f.name :: seen) a' es := by
  have hnot : ¬ seen.contains f.name = true := by
    rw [List.contains_iff_mem]
    exact hnew
  rw [ofEntries, hkey]
  dsimp only
  rw [hfind]
  dsimp only
  rw [if_neg hnot, hput]

/-! ## The order of the fields -/

/-- An entry is read as a field that has not been read, or passed over where there is no such field. -/
theorem ofEntries_cons_eq_ok {seen : List String} {a b : α} {k x : ν} {es : List (ν × ν)} :
    r.ofEntries seen a ((k, x) :: es) = .ok b ↔ ∃ key, text k = .ok key ∧
      ((∃ f a', (r.fields.find? fun f => f.name == key) = some f ∧ key ∉ seen ∧
          f.put x a = .ok a' ∧ r.ofEntries (key :: seen) a' es = .ok b) ∨
        ((r.fields.find? fun f => f.name == key) = none ∧ r.closed = false ∧
          (∃ u, DataSource.pass x = .ok u) ∧ r.ofEntries seen a es = .ok b)) := by
  rw [ofEntries]
  cases hkey : text k with
  | error e => simp
  | ok key =>
      simp only [Except.ok.injEq, exists_eq_left']
      cases hfind : r.fields.find? fun f => f.name == key with
      | none =>
          cases hclosed : r.closed with
          | true => simp
          | false => cases hpass : DataSource.pass x <;> simp
      | some f =>
          by_cases hseen : key ∈ seen
          · simp [hseen]
          · cases hput : f.put x a <;> simp [hseen, hput]

/-- It only matters which fields have been read, and not in which order. -/
theorem ofEntries_congr {seen seen' : List String} {es : List (ν × ν)} {a : α}
    (h : ∀ n, n ∈ seen ↔ n ∈ seen') : r.ofEntries seen a es = r.ofEntries seen' a es := by
  have hcontains : ∀ n, seen.contains n = seen'.contains n := by
    intro n
    rw [Bool.eq_iff_iff, List.contains_iff_mem, List.contains_iff_mem, h]
  induction es generalizing seen seen' a with
  | nil =>
      unfold ofEntries
      simp only [hcontains]
  | cons e es ih =>
      have hcons : ∀ key b, r.ofEntries (key :: seen) b es = r.ofEntries (key :: seen') b es := by
        intro key b
        have hmem : ∀ n, n ∈ key :: seen ↔ n ∈ key :: seen' := by simp [h]
        refine ih hmem fun n => ?_
        rw [Bool.eq_iff_iff, List.contains_iff_mem, List.contains_iff_mem, hmem]
      unfold ofEntries
      simp only [hcontains, hcons, ih h hcontains]

theorem ofEntries_swap (hr : r.Commutes) {seen : List String} {a b : α} {d e : ν × ν}
    {es : List (ν × ν)} (h : r.ofEntries seen a (d :: e :: es) = .ok b) :
    r.ofEntries seen a (e :: d :: es) = .ok b := by
  obtain ⟨k, x⟩ := d
  obtain ⟨l, y⟩ := e
  obtain ⟨m, hm, hfirst⟩ := ofEntries_cons_eq_ok.1 h
  rcases hfirst with ⟨f, a₁, hf, hmseen, hputf, hrest⟩ | ⟨hmnone, hmopen, hmpass, hrest⟩
  · obtain ⟨n, hn, hsecond⟩ := ofEntries_cons_eq_ok.1 hrest
    rcases hsecond with ⟨g, a₂, hg, hnseen, hputg, hrest⟩ | ⟨hnnone, hnopen, hnpass, hrest⟩
    · rw [List.mem_cons, not_or] at hnseen
      -- two fields with names of their own
      obtain ⟨a', hputg', hputf'⟩ :=
        (hr.of_find? (Ne.symm hnseen.1) hf hg x y a a₂).1 ⟨a₁, hputf, hputg⟩
      refine ofEntries_cons_eq_ok.2 ⟨n, hn, .inl ⟨g, a', hg, hnseen.2, hputg', ?_⟩⟩
      refine ofEntries_cons_eq_ok.2 ⟨m, hm, .inl ⟨f, a₂, hf, ?_, hputf', ?_⟩⟩
      · simp [Ne.symm hnseen.1, hmseen]
      · rw [← hrest]
        exact ofEntries_congr (by simp [or_left_comm])
    · refine ofEntries_cons_eq_ok.2 ⟨n, hn, .inr ⟨hnnone, hnopen, hnpass, ?_⟩⟩
      exact ofEntries_cons_eq_ok.2 ⟨m, hm, .inl ⟨f, a₁, hf, hmseen, hputf, hrest⟩⟩
  · obtain ⟨n, hn, hsecond⟩ := ofEntries_cons_eq_ok.1 hrest
    have hback : ∀ {seen a}, r.ofEntries seen a es = .ok b →
        r.ofEntries seen a ((k, x) :: es) = .ok b :=
      fun hes => ofEntries_cons_eq_ok.2 ⟨m, hm, .inr ⟨hmnone, hmopen, hmpass, hes⟩⟩
    refine ofEntries_cons_eq_ok.2 ⟨n, hn, ?_⟩
    rcases hsecond with ⟨g, a₂, hg, hnseen, hputg, hrest⟩ | ⟨hnnone, hnopen, hnpass, hrest⟩
    · exact .inl ⟨g, a₂, hg, hnseen, hputg, hback hrest⟩
    · exact .inr ⟨hnnone, hnopen, hnpass, hback hrest⟩

/-- A record may be given with its fields in any order. -/
theorem ofEntries_perm (hr : r.Commutes) {es es' : List (ν × ν)} (h : es.Perm es')
    {seen : List String} {a b : α} (hes : r.ofEntries seen a es = .ok b) :
    r.ofEntries seen a es' = .ok b := by
  induction h generalizing seen a with
  | nil => exact hes
  | cons e _ ih =>
      obtain ⟨k, x⟩ := e
      obtain ⟨key, hkey, hentry⟩ := ofEntries_cons_eq_ok.1 hes
      refine ofEntries_cons_eq_ok.2 ⟨key, hkey, ?_⟩
      rcases hentry with ⟨f, a', hf, hseen, hput, hrest⟩ | ⟨hnone, hopen, hpass, hrest⟩
      · exact .inl ⟨f, a', hf, hseen, hput, ih hrest⟩
      · exact .inr ⟨hnone, hopen, hpass, ih hrest⟩
  | swap => exact ofEntries_swap hr hes
  | trans _ _ ih ih' => exact ih' (ih hes)

/-! ## Records that are read back -/

/-- The fields behind `front` are read off the entries that are left. -/
theorem ofEntries_of_writes {front fs : List (Field ν α)} {seen : List String} {a a' : α}
    {fields : List (String × Json)} {es : List (ν × ν)} (hfields : r.fields = front ++ fs)
    (hnodup : r.fieldNames.Nodup) (hread : HasRead front seen) (hwrites : Writes R fs a fields a')
    (hes : List.Forall₂ (ShowsField R) es fields) : r.ofEntries seen a es = .ok a' := by
  -- the fields are taken in declaration order, each with its entry or without one
  induction hwrites generalizing front seen es with
  | nil a =>
      cases hes
      have hnone : (r.fields.find? fun f => f.required && !seen.contains f.name) = none := by
        rw [List.find?_eq_none, hfields, List.append_nil]
        intro f hf
        have hseen := hread.required f hf
        simp_all
      rw [ofEntries, hnone]
  | @given f fs a a₁ a' y fields hput _ ih =>
      cases hes with
      | @cons e _ es _ hhead htail =>
          obtain ⟨hkey, hx⟩ := hhead
          obtain ⟨hfind, hnew⟩ := find?_field hfields hnodup
          rw [ofEntries_cons es hkey hfind (fun hmem => hnew (hread.within _ hmem)) (hput _ hx)]
          refine ih ?_ hread.given htail
          rw [hfields, List.append_cons]
  | @leftOut f fs a a' fields hrequired _ ih =>
      refine ih ?_ (hread.leftOut hrequired) hes
      rw [hfields, List.append_cons]

/-- **A record is read back** from data that shows what was written, in whatever order. -/
theorem decode_of_writes (hR : FaithfulUpToOrder R) (hr : r.Commutes) (hnodup : r.fieldNames.Nodup)
    {a : α} {fields : List (String × Json)} (hwrites : Writes R r.fields r.blank fields a) {x : ν}
    (hx : R x (.obj fields)) : r.decode x = .ok a := by
  have hnames : (fields.map (·.1)).Nodup := hnodup.sublist hwrites.names_sublist
  obtain ⟨es, es', hrecord, hperm, hes⟩ := hR.record hx hnames ("struct " ++ r.name)
  have hall : r.fields = [] ++ r.fields := rfl
  rw [decode, hrecord]
  exact ofEntries_perm hr hperm.symm
    (ofEntries_of_writes hall hnodup ⟨by simp, by simp⟩ hwrites hes)

/-! ## What a record type keeps -/

variable {Q : ν → Prop} {P : α → Prop}

theorem ofEntries_keeps (hput : ∀ f ∈ r.fields, f.Keeps Q P) {seen : List String} {a a' : α}
    {es : List (ν × ν)} (hes : ∀ e ∈ es, Q e.2) (ha : P a)
    (h : r.ofEntries seen a es = .ok a') : P a' := by
  induction es generalizing seen a with
  | nil =>
      rw [ofEntries] at h
      split at h
      · cases h
      · cases h
        exact ha
  | cons e es ih =>
      obtain ⟨k, x⟩ := e
      obtain ⟨hx, hes⟩ := List.forall_mem_cons.1 hes
      obtain ⟨key, _, hentry⟩ := ofEntries_cons_eq_ok.1 h
      rcases hentry with ⟨f, a₁, hfind, _, hf, hrest⟩ | ⟨_, _, _, hrest⟩
      · exact ih hes (hput f (List.mem_of_find?_eq_some hfind) x a a₁ hx ha hf) hrest
      · exact ih hes ha hrest

theorem ofItems_keeps (hput : ∀ f ∈ r.fields, f.Keeps Q P) {fs : List (Field ν α)}
    (hfs : fs ⊆ r.fields) {position : Nat} {a a' : α} {xs : List ν} (hxs : ∀ x ∈ xs, Q x)
    (ha : P a) (h : r.ofItems position a fs xs = .ok a') : P a' := by
  induction fs generalizing position a xs with
  | nil =>
      rw [ofItems] at h
      split at h
      · cases h
        exact ha
      · cases h
  | cons f fs ih =>
      obtain ⟨hf, hfs⟩ := List.cons_subset.1 hfs
      cases xs with
      | nil =>
          rw [ofItems] at h
          split at h
          · cases h
          · exact ih hfs hxs ha h
      | cons x xs =>
          obtain ⟨hx, hxs⟩ := List.forall_mem_cons.1 hxs
          rw [ofItems] at h
          split at h
          · cases h
          · next a₁ hput' => exact ih hfs hxs (hput f hf x a a₁ hx ha hput') h

/-- What the blank record satisfies and every field keeps holds of whatever is decoded. -/
theorem decode_keeps (hQ : Hereditary Q) (hblank : P r.blank)
    (hput : ∀ f ∈ r.fields, f.Keeps Q P) {x : ν} {a : α} (hx : Q x) (h : r.decode x = .ok a) :
    P a := by
  rw [decode] at h
  split at h
  · cases h
  · next hrecord => exact ofEntries_keeps hput (hQ.fields hx hrecord) hblank h
  · next hrecord =>
    exact ofItems_keeps hput (List.Subset.refl _) (hQ.positions hx hrecord) hblank h

end RecordType

end Decode

end RuleEngine
