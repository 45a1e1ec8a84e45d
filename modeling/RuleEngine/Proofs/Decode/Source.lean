import Mathlib.Data.List.Forall2
import RuleEngine.Decode.Source
import RuleEngine.Proofs.Table

set_option autoImplicit false

/-! # Data that answers as it should

Data shows a JSON value if whoever asks it gets the answers that the value has (`Faithful`), though it
may list the fields of records in another order (`FaithfulUpToOrder`). Lists and tables are read back
from data that shows them.

The other way round, the answers of data may be such that whatever is decoded is in order: for all data
of a source (`Orderly`), or for data that keeps to something that its parts keep to as well
(`OrderlyOn`).
-/

namespace RuleEngine

/-- Every object lists its fields by increasing key, as values that come in from outside do. -/
inductive Json.IsSorted : Json → Prop
  | null : IsSorted .null
  | bool (b : Bool) : IsSorted (.bool b)
  | num (n : Number) : IsSorted (.num n)
  | str (s : String) : IsSorted (.str s)
  | arr {items : List Json} : (∀ x ∈ items, IsSorted x) → IsSorted (.arr items)
  | obj {fields : Table Json} :
      fields.Sorted → (∀ f ∈ fields, IsSorted f.2) → IsSorted (.obj fields)

namespace Decode

variable {ν : Type} [DataSource ν] {R : ν → Json → Prop} {α : Type}

/-! ## Data that shows JSON values -/

/-- An entry shows a field. -/
def ShowsField (R : ν → Json → Prop) (e : ν × ν) (f : String × Json) : Prop :=
  text e.1 = .ok f.1 ∧ R e.2 f.2

/-- Data that shows a JSON value answers questions as the value says. -/
structure Faithful (R : ν → Json → Prop) : Prop where
  text : ∀ {x s}, R x (.str s) → ∀ expected, DataSource.text x expected = .ok s
  bool : ∀ {x b}, R x (.bool b) → DataSource.bool x = .ok b
  int : ∀ {x n}, R x (.num (.int n)) → ∀ type : IntType, type.least ≤ n → n ≤ type.most →
    DataSource.int x type = .ok n
  items : ∀ {x ys}, R x (.arr ys) → ∃ xs, DataSource.items x = .ok xs ∧ List.Forall₂ R xs ys
  entries : ∀ {x fields}, R x (.obj fields) →
    ∃ es, DataSource.entries x = .ok es ∧ List.Forall₂ (ShowsField R) es fields
  record : ∀ {x fields}, R x (.obj fields) → ∀ expected,
    ∃ es, DataSource.record x expected = .ok (.fields es) ∧ List.Forall₂ (ShowsField R) es fields
  condition : ∀ {x s}, R x (.str s) → DataSource.truthOrText x = .ok (.inr s)
  json : ∀ {x y}, R x y → y.IsSorted → DataSource.json x = .ok y

/-- Data that shows a JSON value, with the fields of its records in any order. -/
structure FaithfulUpToOrder (R : ν → Json → Prop) : Prop where
  text : ∀ {x s}, R x (.str s) → ∀ expected, DataSource.text x expected = .ok s
  bool : ∀ {x b}, R x (.bool b) → DataSource.bool x = .ok b
  int : ∀ {x n}, R x (.num (.int n)) → ∀ type : IntType, type.least ≤ n → n ≤ type.most →
    DataSource.int x type = .ok n
  items : ∀ {x ys}, R x (.arr ys) → ∃ xs, DataSource.items x = .ok xs ∧ List.Forall₂ R xs ys
  entries : ∀ {x fields}, R x (.obj fields) → Table.Sorted fields →
    ∃ es, DataSource.entries x = .ok es ∧ List.Forall₂ (ShowsField R) es fields
  record : ∀ {x fields}, R x (.obj fields) → (fields.map (·.1)).Nodup → ∀ expected,
    ∃ es es', DataSource.record x expected = .ok (.fields es) ∧ es.Perm es' ∧
      List.Forall₂ (ShowsField R) es' fields
  condition : ∀ {x s}, R x (.str s) → DataSource.truthOrText x = .ok (.inr s)
  json : ∀ {x y}, R x y → y.IsSorted → DataSource.json x = .ok y

/-- Data that shows a JSON value also says that a value is there, and which one of several variants it
is. -/
structure FaithfulInFull (R : ν → Json → Prop) : Prop extends FaithfulUpToOrder R where
  optional : ∀ {x y}, R x y → y.isNull = false → ∃ x', DataSource.optional x = .ok (some x') ∧ R x' y
  variant : ∀ {x s}, R x (.str s) → ∀ known : List String, s ∈ known →
    DataSource.variant x known = .ok s

theorem Faithful.upToOrder (hR : Faithful R) : FaithfulUpToOrder R where
  text := hR.text
  bool := hR.bool
  int := hR.int
  items := hR.items
  entries hx _ := hR.entries hx
  record hx _ expected := by
    obtain ⟨es, hrecord, hes⟩ := hR.record hx expected
    exact ⟨es, es, hrecord, List.Perm.refl es, hes⟩
  condition := hR.condition
  json := hR.json

/-- Data whose answers are in order: an integer is within its bounds, and a JSON value is sorted all
through. -/
structure Orderly (ν : Type) [DataSource ν] : Prop where
  int : ∀ {x : ν} {type : IntType} {n}, DataSource.int x type = .ok n →
    type.least ≤ n ∧ n ≤ type.most
  json : ∀ {x : ν} {y}, DataSource.json x = .ok y → y.IsSorted

/-- What holds of a piece of data holds of its parts. -/
structure Hereditary (Q : ν → Prop) : Prop where
  items : ∀ {x xs}, Q x → DataSource.items x = .ok xs → ∀ y ∈ xs, Q y
  entries : ∀ {x es}, Q x → DataSource.entries x = .ok es → ∀ e ∈ es, Q e.2
  fields : ∀ {x expected es}, Q x → DataSource.record x expected = .ok (.fields es) →
    ∀ e ∈ es, Q e.2
  positions : ∀ {x expected xs}, Q x → DataSource.record x expected = .ok (.items xs) →
    ∀ y ∈ xs, Q y
  optional : ∀ {x y}, Q x → DataSource.optional x = .ok (some y) → Q y

/-- The answers of such data are in order. -/
structure OrderlyOn (Q : ν → Prop) : Prop where
  hereditary : Hereditary Q
  int : ∀ {x type n}, Q x → DataSource.int x type = .ok n → type.least ≤ n ∧ n ≤ type.most
  json : ∀ {x y}, Q x → DataSource.json x = .ok y → y.IsSorted

theorem Hereditary.trivial : Hereditary fun _ : ν => True := by
  constructor <;> simp

theorem Orderly.on (h : Orderly ν) : OrderlyOn fun _ : ν => True where
  hereditary := .trivial
  int _ hx := h.int hx
  json _ hx := h.json hx

/-- A value that is there is not null. -/
def TellsNull (Q : ν → Prop) : Prop :=
  ∀ {x y v}, Q x → DataSource.optional x = .ok (some y) → DataSource.json y = .ok v →
    v.isNull = false

namespace FaithfulUpToOrder

variable (hR : FaithfulUpToOrder R)
include hR

/-- A list is read back if its items are. -/
theorem list {decode : ν → Except DecodeError α} {toJson : α → Json} {as : List α} {x : ν}
    (hdecode : ∀ a ∈ as, ∀ y, R y (toJson a) → decode y = .ok a)
    (hx : R x (.arr (as.map toJson))) : Decode.list decode x = .ok as := by
  obtain ⟨xs, hitems, hxs⟩ := hR.items hx
  have heach : each decode xs = .ok as := by
    clear hitems hx
    induction as generalizing xs with
    | nil =>
        cases hxs
        rfl
    | cons a as ih =>
        obtain ⟨hhead, htail⟩ := List.forall_mem_cons.1 hdecode
        cases hxs with
        | cons hy hys =>
            rw [each, hhead _ hy]
            dsimp only
            rw [ih htail _ hys]
  rw [Decode.list, hitems]
  exact heach

theorem texts {ss : List String} {x : ν} (hx : R x (.arr (ss.map .str))) :
    Decode.list Decode.text x = .ok ss :=
  hR.list (fun _ _ _ hy => hR.text hy "a string") hx

/-- A table of JSON values is read back if it is sorted all through. -/
theorem table {t : Table Json} {x : ν} (ht : (Json.obj t).IsSorted) (hx : R x (.obj t)) :
    Decode.table DataSource.json x = .ok t := by
  cases ht with
  | obj hsorted hvalues =>
      obtain ⟨es, hentries, hes⟩ := hR.entries hx hsorted
      rw [Decode.table, hentries]
      clear hentries hx
      -- the entries that are in the table already are a front of the whole
      suffices h : ∀ front : Table Json, Table.Sorted (front ++ t) →
          tableEntries DataSource.json front es = .ok (front ++ t) from h [] hsorted
      clear hsorted
      induction hes with
      | nil =>
          intro front _
          rw [tableEntries, List.append_nil]
      | @cons e f es fields hhead _ ih =>
          intro front hfront
          obtain ⟨k, y⟩ := e
          obtain ⟨key, value⟩ := f
          obtain ⟨hkey, hy⟩ := hhead
          obtain ⟨hvalue, hvalues⟩ := List.forall_mem_cons.1 hvalues
          rw [List.append_cons] at hfront ⊢
          have hinsert := Table.insert_last (List.pairwise_append.1 hfront).1
          rw [tableEntries, hkey]
          dsimp only
          rw [hR.json hy hvalue]
          dsimp only
          rw [hinsert]
          exact ih hvalues _ hfront

end FaithfulUpToOrder

/-! ## Lists and tables -/

section Parts

variable {Q : ν → Prop}

omit [DataSource ν] in
theorem mem_each {decode : ν → Except DecodeError α} {xs : List ν} {as : List α}
    (hxs : ∀ x ∈ xs, Q x) (h : each decode xs = .ok as) :
    ∀ a ∈ as, ∃ y, Q y ∧ decode y = .ok a := by
  induction xs generalizing as with
  | nil =>
      cases h
      simp
  | cons y ys ih =>
      obtain ⟨hy, hys⟩ := List.forall_mem_cons.1 hxs
      rw [each] at h
      split at h
      · cases h
      · next b hb =>
        split at h
        · cases h
        · next bs hbs =>
          cases h
          exact List.forall_mem_cons.2 ⟨⟨y, hy, hb⟩, ih hys hbs⟩

variable (hQ : Hereditary Q)
include hQ

theorem mem_list {decode : ν → Except DecodeError α} {x : ν} {as : List α} (hx : Q x)
    (h : Decode.list decode x = .ok as) : ∀ a ∈ as, ∃ y, Q y ∧ decode y = .ok a := by
  rw [Decode.list] at h
  split at h
  · cases h
  · next hitems => exact mem_each (hQ.items hx hitems) h

omit hQ in
theorem sorted_tableEntries {decode : ν → Except DecodeError α} {front t : Table α}
    {es : List (ν × ν)} (hes : ∀ e ∈ es, Q e.2) (hsorted : front.Sorted)
    (hvalues : ∀ e ∈ front, ∃ y, Q y ∧ decode y = .ok e.2)
    (h : tableEntries decode front es = .ok t) :
    t.Sorted ∧ ∀ e ∈ t, ∃ y, Q y ∧ decode y = .ok e.2 := by
  induction es generalizing front with
  | nil =>
      cases h
      exact ⟨hsorted, hvalues⟩
  | cons e es ih =>
      obtain ⟨k, y⟩ := e
      obtain ⟨hy, hes⟩ := List.forall_mem_cons.1 hes
      rw [tableEntries] at h
      split at h
      · cases h
      · next key _ =>
        split at h
        · cases h
        · next value hvalue =>
          refine ih hes (Table.Sorted.insert hsorted key value) ?_ h
          intro e he
          rcases Table.mem_insert he with rfl | he
          · exact ⟨y, hy, hvalue⟩
          · exact hvalues e he

/-- A decoded table is sorted, and its values have been decoded one by one. -/
theorem sorted_table {decode : ν → Except DecodeError α} {x : ν} {t : Table α} (hx : Q x)
    (h : Decode.table decode x = .ok t) :
    t.Sorted ∧ ∀ e ∈ t, ∃ y, Q y ∧ decode y = .ok e.2 := by
  rw [Decode.table] at h
  split at h
  · cases h
  · next hentries => exact sorted_tableEntries (hQ.entries hx hentries) .nil (by simp) h

end Parts

end Decode

end RuleEngine
