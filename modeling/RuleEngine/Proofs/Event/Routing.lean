import RuleEngine.Event.Sink
import Mathlib.Data.List.Nodup

set_option autoImplicit false

/-! # What every outlet gets

An outlet may stand at several places of a sink. A place is found by the branches that are taken at
the fan-outs, from the root on, and it is guarded by the filters on this way (`Sink.Stands`). An event
that is emitted is given to the places that take its type, one after the other (`Sink.emit_eq_foldl`).
So, whatever outlets do with events, to emit any events into any sink is to give single events to
outlets, for places of the sink, and each place gets exactly the events whose types pass its filters,
each once and in order (`Sink.Routes`, `Sink.emits_routes`).
-/

namespace RuleEngine

namespace Sink

/-- A place of an outlet in a sink: where it is, what guards it, and the number of the outlet. -/
structure Place where
  /-- The branches at the fan-outs. -/
  path : List Nat
  /-- The filters on the way. -/
  filters : List (EventType → Bool)
  id : Nat

namespace Place

/-- Every filter on the way accepts the type. -/
def takes (p : Place) (t : EventType) : Bool := p.filters.all fun accept => accept t

/-- The place, seen from outside a filter. -/
def guard (accept : EventType → Bool) (p : Place) : Place :=
  { p with filters := accept :: p.filters }

/-- The place, seen from outside a fan-out. -/
def branch (i : Nat) (p : Place) : Place := { p with path := i :: p.path }

theorem takes_guard (accept : EventType → Bool) (p : Place) (t : EventType) :
    (p.guard accept).takes t = (accept t && p.takes t) := rfl

end Place

/-- An outlet stands at a place of a sink. -/
inductive Stands : Sink → Place → Prop
  | outlet (id : Nat) : Stands (.outlet id) ⟨[], [], id⟩
  | filter {accept : EventType → Bool} {inner : Sink} {p : Place} :
      Stands inner p → Stands (.filter accept inner) (p.guard accept)
  | fanout {sinks : List Sink} {i : Nat} {sink : Sink} {p : Place} :
      sinks[i]? = some sink → Stands sink p → Stands (.fanout sinks) (p.branch i)

/-! ## The places of a sink -/

mutual

/-- The places of a sink, in the order in which an event comes by. -/
def places : Sink → List Place
  | .outlet id => [⟨[], [], id⟩]
  | .filter accept inner => (places inner).map (Place.guard accept)
  | .fanout sinks => placesFrom 0 sinks

/-- The places of the branches of a fan-out, which are numbered from some number on. -/
def placesFrom (i : Nat) : List Sink → List Place
  | [] => []
  | sink :: sinks => (places sink).map (Place.branch i) ++ placesFrom (i + 1) sinks

end

mutual

theorem mem_places : ∀ {sink : Sink} {p : Place}, p ∈ places sink ↔ Stands sink p
  | .outlet id, p => by
      simp only [places, List.mem_singleton]
      constructor
      · rintro rfl
        exact .outlet id
      · rintro ⟨⟩
        rfl
  | .filter accept inner, p => by
      simp only [places, List.mem_map]
      constructor
      · rintro ⟨q, hq, rfl⟩
        exact .filter (mem_places.1 hq)
      · rintro (_ | hq)
        exact ⟨_, mem_places.2 hq, rfl⟩
  | .fanout sinks, p => by
      simp only [places, mem_placesFrom, Nat.zero_add]
      constructor
      · rintro ⟨j, sink, q, hj, hq, rfl⟩
        exact .fanout hj hq
      · rintro (_ | _ | ⟨hj, hq⟩)
        exact ⟨_, _, _, hj, hq, rfl⟩

theorem mem_placesFrom : ∀ {sinks : List Sink} {i : Nat} {p : Place},
    p ∈ placesFrom i sinks ↔
      ∃ j sink q, sinks[j]? = some sink ∧ Stands sink q ∧ p = q.branch (i + j)
  | [], i, p => by simp [placesFrom]
  | sink :: sinks, i, p => by
      simp only [placesFrom, List.mem_append, List.mem_map]
      constructor
      · rintro (⟨q, hq, rfl⟩ | hp)
        · exact ⟨0, sink, q, rfl, mem_places.1 hq, rfl⟩
        · obtain ⟨j, s, q, hj, hq, rfl⟩ := mem_placesFrom.1 hp
          exact ⟨j + 1, s, q, hj, hq, by rw [Nat.add_right_comm, Nat.add_assoc]⟩
      · rintro ⟨j, s, q, hj, hq, rfl⟩
        cases j with
        | zero =>
            obtain rfl : sink = s := Option.some.inj hj
            exact .inl ⟨q, mem_places.2 hq, rfl⟩
        | succ j =>
            refine .inr (mem_placesFrom.2 ⟨j, s, q, hj, hq, ?_⟩)
            rw [Nat.add_right_comm, Nat.add_assoc]

end

/-- Branches are numbered from the given number on. -/
theorem path_of_mem_placesFrom {sinks : List Sink} {i : Nat} {p : Place} (h : p ∈ placesFrom i sinks) :
    ∃ j rest, i ≤ j ∧ p.path = j :: rest := by
  obtain ⟨j, _, q, _, _, rfl⟩ := mem_placesFrom.1 h
  exact ⟨i + j, q.path, Nat.le_add_right i j, rfl⟩

mutual

/-- No two places have one path. -/
theorem nodup_paths : ∀ sink : Sink, ((places sink).map Place.path).Nodup
  | .outlet id => List.nodup_singleton _
  | .filter accept inner => by
      rw [places, List.map_map]
      exact nodup_paths inner
  | .fanout sinks => nodup_paths_from sinks 0

theorem nodup_paths_from : ∀ (sinks : List Sink) (i : Nat), ((placesFrom i sinks).map Place.path).Nodup
  | [], i => List.nodup_nil
  | sink :: sinks, i => by
      rw [placesFrom, List.map_append, List.map_map]
      refine List.nodup_append.2 ⟨?_, nodup_paths_from sinks (i + 1), ?_⟩
      · have hcons : Function.Injective (List.cons i) := fun _ _ h => (List.cons.inj h).2
        have hpaths := (nodup_paths sink).map hcons
        rwa [List.map_map] at hpaths
      · -- the paths of the first branch begin with `i`, all others with a greater number
        intro a ha b hb
        obtain ⟨p, _, rfl⟩ := List.mem_map.1 ha
        obtain ⟨q, hq, rfl⟩ := List.mem_map.1 hb
        obtain ⟨j, rest, hle, hpath⟩ := path_of_mem_placesFrom hq
        rw [hpath]
        intro h
        have hij : i = j := (List.cons.inj h).1
        omega

end

/-- A place is known by its path. -/
theorem Stands.eq_of_path {sink : Sink} {p q : Place} (hp : Stands sink p) (hq : Stands sink q)
    (h : p.path = q.path) : p = q :=
  List.inj_on_of_nodup_map (nodup_paths sink) (mem_places.2 hp) (mem_places.2 hq) h

/-! ## One event -/

section Emit

variable {ε σ : Type} (type : ε → EventType) (give : Nat → ε → σ → σ) (e : ε)

/-- The places that are given events of a type. -/
def round (sink : Sink) (t : EventType) : List Place := (places sink).filter (Place.takes · t)

/-- The places in the branches of a fan-out that are given events of a type. -/
def roundFrom (i : Nat) (sinks : List Sink) (t : EventType) : List Place :=
  (placesFrom i sinks).filter (Place.takes · t)

theorem round_filter (accept : EventType → Bool) (inner : Sink) (t : EventType) :
    round (.filter accept inner) t =
      if accept t then (round inner t).map (Place.guard accept) else [] := by
  unfold round
  rw [places, List.filter_map]
  cases haccept : accept t with
  | true => simp [Function.comp_def, Place.takes_guard, haccept]
  | false => simp [Function.comp_def, Place.takes_guard, haccept]

theorem roundFrom_cons (i : Nat) (sink : Sink) (sinks : List Sink) (t : EventType) :
    roundFrom i (sink :: sinks) t =
      (round sink t).map (Place.branch i) ++ roundFrom (i + 1) sinks t := by
  unfold roundFrom round
  rw [placesFrom, List.filter_append, List.filter_map]
  rfl

/-- Give an event to the outlets of some places, one after the other. -/
def giveAll (ps : List Place) (s : σ) : σ := ps.foldl (fun s p => give p.id e s) s

theorem giveAll_map (f : Place → Place) (hf : ∀ p, (f p).id = p.id) (ps : List Place) (s : σ) :
    giveAll give e (ps.map f) s = giveAll give e ps s := by
  unfold giveAll
  simp only [List.foldl_map, hf]

theorem giveAll_append (ps qs : List Place) (s : σ) :
    giveAll give e (ps ++ qs) s = giveAll give e qs (giveAll give e ps s) :=
  List.foldl_append

mutual

/-- To emit an event is to give it to the places that take its type. -/
theorem emit_eq_giveAll : ∀ (sink : Sink) (s : σ),
    emit type give e sink s = giveAll give e (round sink (type e)) s
  | .outlet id, s => rfl
  | .filter accept inner, s => by
      rw [emit, round_filter]
      split
      · rw [emit_eq_giveAll inner, giveAll_map give e (Place.guard accept) fun _ => rfl]
      · rfl
  | .fanout sinks, s => emitAll_eq_giveAll sinks 0 s

/-- The last branch gets the event in another way than the others, and yet as they do. -/
theorem emitAll_eq_giveAll : ∀ (sinks : List Sink) (i : Nat) (s : σ),
    emitAll type give e sinks s = giveAll give e (roundFrom i sinks (type e)) s
  | [], i, s => rfl
  | [last], i, s => by
      rw [emitAll, roundFrom_cons, giveAll_append, giveAll_map give e (Place.branch i) fun _ => rfl,
        emit_eq_giveAll last]
      rfl
  | sink :: next :: rest, i, s => by
      rw [emitAll, roundFrom_cons, giveAll_append, giveAll_map give e (Place.branch i) fun _ => rfl,
        emit_eq_giveAll sink, emitAll_eq_giveAll (next :: rest) (i + 1)]

end

end Emit

/-! ## Any events -/

section Events

variable {ε : Type} {type : ε → EventType} {sink : Sink} {e : ε} {es : List ε}

/-- If keys are distinct, an element is the only one with its key. -/
theorem filter_eq_singleton_of_nodup_map {α κ : Type} [DecidableEq κ] {key : α → κ} {l : List α}
    (hnodup : (l.map key).Nodup) {a : α} (ha : a ∈ l) : l.filter (fun b => key b = key a) = [a] := by
  induction l with
  | nil => cases ha
  | cons b l ih =>
      obtain ⟨hnot, hnodup⟩ := List.nodup_cons.1 hnodup
      obtain rfl | ha := List.mem_cons.1 ha
      · rw [List.filter_cons_of_pos (by simp), List.filter_eq_nil_iff.2]
        intro c hc
        have hne : key c ≠ key a := fun heq => hnot (heq ▸ List.mem_map_of_mem hc)
        simpa using hne
      · have hne : key b ≠ key a := fun heq => hnot (heq ▸ List.mem_map_of_mem ha)
        rw [List.filter_cons_of_neg (by simpa using hne), ih hnodup ha]

/-- What is given to which place when events are emitted into a sink, in order. -/
def given (type : ε → EventType) (sink : Sink) (es : List ε) : List (Place × ε) :=
  es.flatMap fun e => (round sink (type e)).map fun p => (p, e)

theorem given_cons (type : ε → EventType) (sink : Sink) (e : ε) (es : List ε) :
    given type sink (e :: es) = (round sink (type e)).map (fun p => (p, e)) ++ given type sink es :=
  List.flatMap_cons

/-- To emit events is to give out what is given. -/
theorem emits_eq_foldl {σ : Type} (type : ε → EventType) (give : Nat → ε → σ → σ) (sink : Sink)
    (es : List ε) (s : σ) :
    es.foldl (fun s e => sink.emit type give e s) s =
      (given type sink es).foldl (fun s d => give d.1.id d.2 s) s := by
  induction es generalizing s with
  | nil => rfl
  | cons e es ih =>
      rw [List.foldl_cons, ih, given_cons, List.foldl_append, List.foldl_map, emit_eq_giveAll]
      rfl

theorem stands_of_mem_given {d : Place × ε} (h : d ∈ given type sink es) : Stands sink d.1 := by
  obtain ⟨e, _, hd⟩ := List.mem_flatMap.1 h
  obtain ⟨p, hp, rfl⟩ := List.mem_map.1 hd
  exact mem_places.1 (List.mem_filter.1 hp).1

/-- Of the places that are given an event, those with the path of a place are this place. -/
theorem filter_round {p : Place} (h : Stands sink p) (t : EventType) :
    (round sink t).filter (fun q => q.path = p.path) = if p.takes t then [p] else [] := by
  have hone : (places sink).filter (fun q => q.path = p.path) = [p] :=
    filter_eq_singleton_of_nodup_map (nodup_paths sink) (mem_places.2 h)
  unfold round
  rw [List.filter_comm, hone, List.filter_singleton, cond_eq_ite]

/-- A place gets the events that it takes. -/
theorem filter_given {p : Place} (h : Stands sink p) (type : ε → EventType) (es : List ε) :
    ((given type sink es).filter fun d => d.1.path = p.path).map Prod.snd =
      es.filter fun e => p.takes (type e) := by
  induction es with
  | nil => rfl
  | cons e es ih =>
      rw [given_cons, List.filter_append, List.map_append, ih, List.filter_map, List.map_map]
      have hround := filter_round h (type e)
      simp only [Function.comp_def, hround]
      cases htakes : p.takes (type e) with
      | true => simp [htakes]
      | false => simp [htakes]

/-- What emitting events into a sink comes to. -/
structure Routes (type : ε → EventType) (sink : Sink) (es : List ε) (log : List (Place × ε)) :
    Prop where
  /-- Whatever outlets do with events, this is done for what is logged, in order, and nothing else. -/
  does : ∀ (σ : Type) (give : Nat → ε → σ → σ) (s : σ),
    es.foldl (fun s e => sink.emit type give e s) s = log.foldl (fun s d => give d.1.id d.2 s) s
  /-- An outlet stands at every place that gets something. -/
  stands : ∀ d ∈ log, Stands sink d.1
  /-- A place is known by its path. -/
  unique : ∀ p q, Stands sink p → Stands sink q → p.path = q.path → p = q
  /-- Every place gets the events whose types pass all filters on the way, in order, each once. -/
  gets : ∀ p, Stands sink p →
    (log.filter fun d => d.1.path = p.path).map Prod.snd =
      es.filter fun e => p.filters.all fun accept => accept (type e)

/-- **Each place of an outlet, in any tree, gets exactly the events that its filters accept.** -/
theorem emits_routes (type : ε → EventType) (sink : Sink) (es : List ε) :
    ∃ log, Routes type sink es log :=
  ⟨given type sink es,
    { does := fun _ give => emits_eq_foldl type give sink es
      stands := fun _ => stands_of_mem_given
      unique := fun _ _ => Stands.eq_of_path
      gets := fun _ h => filter_given h type es }⟩

end Events

end Sink

/-! ## A reporter -/

namespace Reporter

/-- Report one thing after the other. -/
def emits (r : Reporter) (reports : List (EventType × Json)) : Reporter :=
  reports.foldl (fun r x => r.emit x.1 x.2) r

def event (r : Reporter) (x : EventType × Json) : Event := ⟨r.session, x.1, x.2⟩

/-- Reports change the outlets only, and these get the events of the session. -/
theorem emits_eq (r : Reporter) (reports : List (EventType × Json)) :
    r.emits reports = { r with
      outlets := (reports.map r.event).foldl
        (fun outlets e => r.sink.emit Event.type deliver e outlets) r.outlets } := by
  induction reports generalizing r with
  | nil => rfl
  | cons x reports ih => exact ih (r.emit x.1 x.2)

/-- What is delivered somewhere else does not matter to an outlet. -/
theorem getElem?_foldl_deliver (log : List (Sink.Place × Event)) (outlets : List Outlet) (id : Nat) :
    (log.foldl (fun outlets d => deliver d.1.id d.2 outlets) outlets)[id]? =
      outlets[id]?.map fun o => (log.filter fun d => d.1.id = id).foldl (fun o d => o.receive d.2) o := by
  induction log generalizing outlets with
  | nil => simp
  | cons d log ih =>
      rw [List.foldl_cons, ih, deliver, List.getElem?_modify, Option.map_eq_map, Option.map_map]
      by_cases hid : d.1.id = id
      · simp [hid, Function.comp_def]
      · simp [hid, Function.comp_def]

/-- An outlet receives what is given to its places. -/
theorem getElem?_outlets_emits (r : Reporter) (reports : List (EventType × Json)) (id : Nat) :
    (r.emits reports).outlets[id]? = r.outlets[id]?.map fun o =>
      ((Sink.given Event.type r.sink (reports.map r.event)).filter fun d => d.1.id = id).foldl
        (fun o d => o.receive d.2) o := by
  rw [emits_eq, Sink.emits_eq_foldl, getElem?_foldl_deliver]

/-- A queue for failures only, and the same channel twice. -/
example :
    let sink : Sink := .fanout [.failures (.outlet 0), .fanout [.outlet 1, .outlet 1]]
    let r : Reporter := { session := "s", sink, outlets := [.channel [], .channel []] }
    (r.emits [(.tickCompleted, .null), (.actionFailed, .null)]).outlets =
      let tick : Event := ⟨"s", .tickCompleted, .null⟩
      let fault : Event := ⟨"s", .actionFailed, .null⟩
      [.channel [fault], .channel [tick, tick, fault, fault]] := by
  rfl

end Reporter

end RuleEngine
