import RuleEngine.Proofs.Operator.AsyncAccounts
import RuleEngine.Proofs.Table

set_option autoImplicit false

/-! # What ticks make of a context

Only executions write facts, and each writes one fact at most, as its last step. Which fact that is says
its effect: `setFact` writes the value that it was given, and `recognize` what the lane has found
(`ExecFate`, `rowFate`). A tick itself gets a number when it begins, and notes which rule has completed an
action. All that a row of events makes of the context is told by these three (`ContextFits`).
-/

namespace RuleEngine

/-! ## Writing facts -/

/-- A fact is given a value, or taken out. -/
structure FactWrite where
  key : String
  /-- There is none if the fact is taken out. -/
  value : Option Json

namespace FactWrite

def apply (x : FactWrite) (facts : Facts) : Facts :=
  match x.value with
  | some v => facts.insert x.key v
  | none => facts.erase x.key

def applyAll (xs : List FactWrite) (facts : Facts) : Facts := xs.foldl (fun facts x => x.apply facts) facts

variable {x : FactWrite} {xs : List FactWrite} {facts : Facts}

theorem sorted_apply (h : facts.Sorted) : (x.apply facts).Sorted := by
  unfold apply
  split
  · exact h.insert _ _
  · exact h.erase _

theorem sorted_applyAll (h : facts.Sorted) : (applyAll xs facts).Sorted := by
  induction xs generalizing facts with
  | nil => exact h
  | cons x xs ih => exact ih (sorted_apply h)

theorem get?_apply_self (h : facts.Sorted) : (x.apply facts).get? x.key = x.value := by
  unfold apply
  split
  · next hvalue => rw [Table.get?_insert_self, hvalue]
  · next hvalue => rw [h.get?_erase, hvalue]

theorem get?_apply_of_ne {key : String} (h : x.key ≠ key) : (x.apply facts).get? key = facts.get? key := by
  unfold apply
  split
  · rw [Table.get?_insert, if_neg h]
  · exact Table.get?_erase_of_ne _ (Ne.symm h)

/-- A fact that nobody writes stays as it is. -/
theorem get?_applyAll_of_ne {key : String} (h : ∀ x ∈ xs, x.key ≠ key) :
    (applyAll xs facts).get? key = facts.get? key := by
  induction xs generalizing facts with
  | nil => rfl
  | cons x xs ih =>
      obtain ⟨hx, hxs⟩ := List.forall_mem_cons.1 h
      exact (ih hxs).trans (get?_apply_of_ne hx)

/-- The last write of a fact counts. -/
theorem get?_applyAll_last (front : List FactWrite) {back : List FactWrite} (hfacts : facts.Sorted)
    (h : ∀ y ∈ back, y.key ≠ x.key) :
    (applyAll (front ++ x :: back) facts).get? x.key = x.value := by
  have hfront : (applyAll front facts).Sorted := sorted_applyAll hfacts
  unfold applyAll
  rw [List.foldl_append, List.foldl_cons]
  exact (get?_applyAll_of_ne h).trans (get?_apply_self hfront)

end FactWrite

/-! ## Executions -/

def ExecEvent.write? : ExecEvent → Option FactWrite
  | .write key value => some ⟨key, some value⟩
  | .clear key => some ⟨key, none⟩
  | .begin _ | .command _ | .answer _ | .wake | .submit _ | .refuse _ | .poll _ => none

/-- What the lane has found, when an execution looks for it: there may be nothing that was looked for. -/
def ExecEvent.found? : ExecEvent → Option (Option Json)
  | .poll (some (.ok value)) => some value
  | _ => none

def Effect.factKey? : Effect → Option String
  | .setFact key _ | .recognize _ key => some key
  | .turn _ | .press .. | .wait _ => none

/-- What an effect writes, given what the lane has found. -/
inductive Effect.Writes (found : List (Option Json)) : Effect → FactWrite → Prop
  | setFact (key : String) (value : Json) : Writes found (.setFact key value) ⟨key, some value⟩
  | recognize {target key : String} {value : Option Json} :
      value ∈ found → Writes found (.recognize target key) ⟨key, value⟩

namespace Effect.Writes

variable {found found' : List (Option Json)} {e : Effect} {x : FactWrite}

theorem mono (h : e.Writes found x) (hfound : found ⊆ found') : e.Writes found' x := by
  cases h with
  | setFact => exact .setFact _ _
  | recognize hvalue => exact .recognize (hfound hvalue)

theorem factKey? (h : e.Writes found x) : e.factKey? = some x.key := by
  cases h <;> rfl

end Effect.Writes

/-- The execution is in the hands of the controller or of the clock. -/
def ExecStage.isAway : ExecStage → Bool
  | .commanding _ | .commanded | .sleeping _ => true
  | .fresh | .submitting .. | .awaiting _ | .storing .. | .clearing _ | .ended _ => false

/-- How far an execution has come, what it has still to do with facts, and what it has written, given what
the lane has found. -/
inductive ExecFate (e : Effect) (found : List (Option Json)) : ExecStage → List FactWrite → Prop
  | fresh : ExecFate e found .fresh []
  | away {stage : ExecStage} : stage.isAway = true → e.factKey? = none → ExecFate e found stage []
  | submitting {target key : String} :
      e = .recognize target key → ExecFate e found (.submitting target key) []
  | awaiting {target key : String} : e = .recognize target key → ExecFate e found (.awaiting key) []
  | storing {key : String} {value : Json} :
      e.Writes found ⟨key, some value⟩ → ExecFate e found (.storing key value) []
  | clearing {key : String} : e.Writes found ⟨key, none⟩ → ExecFate e found (.clearing key) []
  | failed {c : Completion} : c ≠ .done → ExecFate e found (.ended c) []
  | done : e.factKey? = none → ExecFate e found (.ended .done) []
  | written {x : FactWrite} : e.Writes found x → ExecFate e found (.ended .done) [x]

section Executions

variable {c : Compiled} {signalled : Bool} {now : Nat} {before after : ExecStage} {event : ExecEvent}
  {found : List (Option Json)} {written : List FactWrite}

theorem ExecFate.begin (e : Effect) (operation : String) (signalled : Bool) (now : Nat) :
    ExecFate e found (.ofBeginning (e.begin operation signalled now)) [] := by
  cases e with
  | wait d =>
      unfold Effect.begin
      dsimp only
      split
      · exact .failed nofun
      · split
        · exact .failed nofun
        · exact .away rfl rfl
  | turn distance | press key hold =>
      cases signalled with
      | true => exact .failed nofun
      | false => exact .away rfl rfl
  | setFact key value =>
      cases signalled with
      | true => exact .failed nofun
      | false => exact .storing (.setFact key value)
  | recognize target key =>
      cases signalled with
      | true => exact .failed nofun
      | false => exact .submitting rfl

theorem ExecStep.fate (h : ExecStep c signalled now before event after)
    (hfate : ExecFate c.effect found before written) :
    ExecFate c.effect (found ++ event.found?.toList) after (written ++ event.write?.toList) := by
  cases h with
  | begin =>
      cases hfate with
      | fresh => exact .begin _ _ _ _
      | away haway => cases haway
  | command =>
      cases hfate with
      | away _ hkey => exact .away rfl hkey
  | answer ending =>
      cases hfate with
      | away _ hkey =>
          cases ending with
          | done => exact .done hkey
          | error | panic => exact .failed nofun
  | wake =>
      cases hfate with
      | away _ hkey =>
          cases signalled with
          | true => exact .failed nofun
          | false => exact .done hkey
  | submit =>
      cases hfate with
      | away haway => cases haway
      | submitting heffect => exact .awaiting heffect
  | refuse =>
      cases hfate with
      | away haway => cases haway
      | submitting => exact .failed nofun
  | poll key outcome =>
      cases hfate with
      | away haway => cases haway
      | awaiting heffect =>
          cases signalled with
          | true => exact .failed nofun
          | false =>
              cases outcome with
              | none => exact .awaiting heffect
              | some result =>
                  cases result with
                  | error e => exact .failed nofun
                  | ok value =>
                      -- what was found is what there is to write
                      have hwrites : c.effect.Writes (found ++ [value]) ⟨key, value⟩ := by
                        rw [heffect]
                        exact .recognize (List.mem_append_right _ (List.mem_singleton_self _))
                      cases value with
                      | some v => exact .storing hwrites
                      | none => exact .clearing hwrites
  | write =>
      cases hfate with
      | away haway => cases haway
      | storing hwrites => exact .written (hwrites.mono (List.subset_append_left _ _))
  | clear =>
      cases hfate with
      | away haway => cases haway
      | clearing hwrites => exact .written (hwrites.mono (List.subset_append_left _ _))

theorem ExecStep.writes (h : ExecStep c signalled now before event after)
    (hfate : ExecFate c.effect found before written) {x : FactWrite} (hx : event.write? = some x) :
    c.effect.Writes found x := by
  cases h with
  | write =>
      cases hx
      cases hfate with
      | away haway => cases haway
      | storing hwrites => exact hwrites
  | clear =>
      cases hx
      cases hfate with
      | away haway => cases haway
      | clearing hwrites => exact hwrites
  | _ => cases hx

end Executions

/-! ## Rows of ticks -/

/-- What the execution of a dispatch has done. -/
def execsOf (d : Nat) (es : List RowEvent) : List ExecEvent :=
  es.filterMap fun
    | .tick (.exec d' _ e) => if d' = d then some e else none
    | _ => none

/-- What a dispatch has written. -/
def writesOf (d : Nat) (es : List RowEvent) : List FactWrite := (execsOf d es).filterMap (·.write?)

/-- What the lane has found for a dispatch. -/
def foundOf (d : Nat) (es : List RowEvent) : List (Option Json) := (execsOf d es).filterMap (·.found?)

/-- A dispatch has written a fact. -/
structure ExecWrite where
  dispatch : Nat
  operation : Compiled
  fact : FactWrite

def RowEvent.write? : RowEvent → Option ExecWrite
  | .tick (.exec d c e) => e.write?.map fun fact => ⟨d, c, fact⟩
  | _ => none

/-- What was written, in order. -/
def factWrites (es : List RowEvent) : List ExecWrite := es.filterMap RowEvent.write?

section Events

variable {d : Nat} {es : List RowEvent} {x : ExecWrite}

theorem factWrites_append (front back : List RowEvent) :
    factWrites (front ++ back) = factWrites front ++ factWrites back :=
  List.filterMap_append

theorem execsOf_append (d : Nat) (front back : List RowEvent) :
    execsOf d (front ++ back) = execsOf d front ++ execsOf d back :=
  List.filterMap_append

theorem mem_execsOf {event : ExecEvent} :
    event ∈ execsOf d es ↔ ∃ c, .tick (.exec d c event) ∈ es := by
  unfold execsOf
  rw [List.mem_filterMap]
  constructor
  · rintro ⟨e, he, hsome⟩
    split at hsome
    · split at hsome
      · next hd =>
        cases hsome
        cases hd
        exact ⟨_, he⟩
      · cases hsome
    · cases hsome
  · rintro ⟨c, he⟩
    exact ⟨_, he, if_pos rfl⟩

theorem mem_factWrites :
    x ∈ factWrites es ↔ ∃ event, .tick (.exec x.dispatch x.operation event) ∈ es ∧
      event.write? = some x.fact := by
  unfold factWrites
  rw [List.mem_filterMap]
  constructor
  · rintro ⟨e, he, hsome⟩
    unfold RowEvent.write? at hsome
    split at hsome
    · next event =>
      obtain ⟨fact, hfact, rfl⟩ := Option.map_eq_some_iff.1 hsome
      exact ⟨event, he, hfact⟩
    · cases hsome
  · rintro ⟨event, he, hfact⟩
    exact ⟨_, he, by rw [RowEvent.write?, hfact]; rfl⟩

/-- A dispatch has written something if it is among those that have written. -/
theorem exists_factWrite_iff : (∃ x ∈ factWrites es, x.dispatch = d) ↔ writesOf d es ≠ [] := by
  constructor
  · rintro ⟨x, hx, rfl⟩
    obtain ⟨event, he, hfact⟩ := mem_factWrites.1 hx
    exact List.ne_nil_of_mem (List.mem_filterMap.2 ⟨event, mem_execsOf.2 ⟨_, he⟩, hfact⟩)
  · intro hne
    obtain ⟨fact, hmem⟩ := List.exists_mem_of_ne_nil _ hne
    obtain ⟨event, hevent, hfact⟩ := List.mem_filterMap.1 hmem
    obtain ⟨c, he⟩ := mem_execsOf.1 hevent
    exact ⟨⟨d, c, fact⟩, mem_factWrites.2 ⟨event, he, hfact⟩, rfl⟩

theorem execsOf_eq_nil (h : ∀ e ∈ es, e.dispatch? ≠ some d) : execsOf d es = [] := by
  refine List.eq_nil_iff_forall_not_mem.2 fun event hevent => ?_
  obtain ⟨c, he⟩ := mem_execsOf.1 hevent
  exact h _ he rfl

/-- What has happened before a dispatch does not matter to it. -/
theorem tellsOf_behind {before : List RowEvent} (h : ∀ e ∈ before, e.dispatch? ≠ some d)
    (es : List RowEvent) :
    foundOf d (before ++ es) = foundOf d es ∧ writesOf d (before ++ es) = writesOf d es := by
  unfold foundOf writesOf
  rw [execsOf_append, execsOf_eq_nil h, List.nil_append]
  exact ⟨rfl, rfl⟩

end Events

/-! ## The dispatches of a row -/

section Rows

variable {o : Operator} {context : Context} {es : List RowEvent} {s t : TickRow} {d : Nat}
  {w : TickWork}

/-- A number that a tick takes has no work before. -/
theorem rowNew (ho : o.inFlight = []) (hsignalled : o.signalled = [])
    (h : Run RowStep (.begin o context) es s) {u : OperatorThreads}
    (hop : OperatorStep s.ticks.threads (.take d) u) : s.ticks.work d = none := by
  by_contra hne
  obtain ⟨w, hw⟩ := Option.ne_none_iff_exists'.1 hne
  exact (asyncFits ho hsignalled h hw).born (hop.unborn_of_take (rowTableFits ho hsignalled h))

/-- How far the execution of a dispatch has come, and what it has written. -/
theorem rowFate (ho : o.inFlight = []) (hsignalled : o.signalled = [])
    (h : Run RowStep (.begin o context) es s) (hw : s.ticks.work d = some w) :
    ExecFate w.operation.effect (foundOf d es) w.stage (writesOf d es) := by
  induction h generalizing w with
  | nil => cases hw
  | @snoc es m t e hrun hstep ih =>
      -- what is not its execution leaves a dispatch as it is
      have hquiet : m.ticks.work d = some w → execsOf d [e] = [] →
          ExecFate w.operation.effect (foundOf d (es ++ [e])) w.stage (writesOf d (es ++ [e])) := by
        intro hwork hnone
        rw [foundOf, writesOf, execsOf_append, hnone, List.append_nil]
        exact ih hwork
      cases hstep with
      | tick _ htick =>
          cases htick with
          | @take d' w' u _ hnext hop =>
              by_cases heq : d = d'
              · subst heq
                obtain rfl : w' = w := by simpa using hw
                -- nothing has happened to a number before it is taken
                have huntouched := rowUntouched hrun (rowNew ho hsignalled hrun hop)
                have hnone : execsOf d es = [] := execsOf_eq_nil huntouched.events
                rw [foundOf, writesOf, execsOf_append, hnone, (TickProgram.work?_eq_some hnext).1]
                exact .fresh
              · exact hquiet ((Function.update_of_ne heq ..).symm.trans hw) rfl
          | @exec d' w' event stage _ hwork hexec =>
              by_cases heq : d = d'
              · subst heq
                obtain rfl : { w' with stage := stage } = w := by simpa using hw
                have hlast : execsOf d [.tick (.exec d w'.operation event)] = [event] := by
                  simp [execsOf]
                have hfate := hexec.fate (ih hwork)
                rw [foundOf, writesOf, execsOf_append, hlast, List.filterMap_append,
                  List.filterMap_append]
                cases event <;> exact hfate
              · refine hquiet ((Function.update_of_ne heq ..).symm.trans hw) ?_
                simp [execsOf, Ne.symm heq]
          | _ => exact hquiet hw rfl
      | _ => exact hquiet hw rfl

end Rows

/-! ## The context -/

/-- The rules that are noted for an action, in order. -/
def TickAct.recorded (acts : List TickAct) : List String :=
  acts.filterMap fun
    | .record rule => some rule
    | _ => none

@[simp] theorem TickAct.recorded_append (front back : List TickAct) :
    recorded (front ++ back) = recorded front ++ recorded back :=
  List.filterMap_append

/-- The rules that ticks have noted for an action. -/
def recordedRules (es : List RowEvent) : List String := TickAct.recorded (rowActs es)

theorem recordedRules_append (front back : List RowEvent) :
    recordedRules (front ++ back) = recordedRules front ++ recordedRules back := by
  rw [recordedRules, rowActs_append, TickAct.recorded_append]
  rfl

/-- A tick gets its number. -/
def RowEvent.isBeginning : RowEvent → Bool
  | .takePlan (.ok _) => true
  | _ => false

/-- What a row of events makes of a context. -/
structure ContextFits (es : List RowEvent) (before after : Context) : Prop where
  facts : after.facts = FactWrite.applyAll ((factWrites es).map (·.fact)) before.facts
  tick : after.tick = before.tick + es.countP RowEvent.isBeginning
  rule : after.lastRule = (recordedRules es).getLast?.or before.lastRule
  action : recordedRules es = [] →
    after.lastAction = before.lastAction ∧ after.moments = before.moments

namespace ContextFits

variable {es : List RowEvent} {e : RowEvent} {before after : Context}

theorem nil (c : Context) : ContextFits [] c c := ⟨rfl, rfl, rfl, fun _ => ⟨rfl, rfl⟩⟩

/-- A context that nobody has touched. -/
theorem eq_of_silent (h : ContextFits es before after) (hwrites : factWrites es = [])
    (hrules : recordedRules es = []) (hbegun : es.countP RowEvent.isBeginning = 0) :
    after = before := by
  obtain ⟨haction, hmoments⟩ := h.action hrules
  have hfacts := h.facts
  have htick := h.tick
  have hrule := h.rule
  rw [hwrites] at hfacts
  rw [hbegun] at htick
  rw [hrules] at hrule
  cases before
  cases after
  simp_all [FactWrite.applyAll]

theorem silent (h : ContextFits es before after) (hwrite : e.write? = none)
    (hrule : recordedRules [e] = []) (hbegun : e.isBeginning = false) :
    ContextFits (es ++ [e]) before after := by
  have hwrites : factWrites (es ++ [e]) = factWrites es := by simp [factWrites, hwrite]
  have hrules : recordedRules (es ++ [e]) = recordedRules es := by
    rw [recordedRules_append, hrule, List.append_nil]
  refine ⟨by rw [hwrites, h.facts], by simp [h.tick, hbegun], by rw [hrules, h.rule], fun hnone => ?_⟩
  exact h.action (hrules ▸ hnone)

/-- A tick gets its number. -/
theorem beginTick (h : ContextFits es before after) (plan : Plan) :
    ContextFits (es ++ [.takePlan (.ok plan)]) before after.beginTick := by
  have hwrites : factWrites (es ++ [.takePlan (.ok plan)]) = factWrites es := by
    simp [factWrites, RowEvent.write?]
  have hrules : recordedRules (es ++ [.takePlan (.ok plan)]) = recordedRules es :=
    (recordedRules_append _ _).trans (List.append_nil _)
  refine ⟨by rw [hwrites, ← h.facts]; rfl, ?_, by rw [hrules, ← h.rule]; rfl, fun hnone => ?_⟩
  · simp [Context.beginTick, h.tick, RowEvent.isBeginning, Nat.add_assoc]
  · exact h.action (hrules ▸ hnone)

theorem recordAction (h : ContextFits es before after) (rule : String) :
    ContextFits (es ++ [.tick (.record rule)]) before (after.recordAction rule) := by
  have hwrites : factWrites (es ++ [.tick (.record rule)]) = factWrites es := by
    simp [factWrites, RowEvent.write?]
  have hrules : recordedRules (es ++ [.tick (.record rule)]) = recordedRules es ++ [rule] :=
    recordedRules_append _ _
  refine ⟨by rw [hwrites, ← h.facts]; rfl, ?_, ?_, fun hnone => ?_⟩
  · simp [Context.recordAction, h.tick, RowEvent.isBeginning]
  · rw [hrules, List.getLast?_concat]
    rfl
  · rw [hrules] at hnone
    exact absurd hnone (List.append_ne_nil_of_right_ne_nil _ (List.cons_ne_nil _ _))

theorem exec (h : ContextFits es before after) (d : Nat) (c : Compiled) (event : ExecEvent) :
    ContextFits (es ++ [.tick (.exec d c event)]) before (event.apply after) := by
  -- a fact is written, and all else stays
  have hwritten : ∀ fact : FactWrite, event.write? = some fact →
      event.apply after = { after with facts := fact.apply after.facts } →
      ContextFits (es ++ [.tick (.exec d c event)]) before (event.apply after) := by
    intro fact hfact happly
    have hwrites : factWrites (es ++ [.tick (.exec d c event)]) =
        factWrites es ++ [⟨d, c, fact⟩] := by
      simp [factWrites, RowEvent.write?, hfact]
    have hrules : recordedRules (es ++ [.tick (.exec d c event)]) = recordedRules es :=
      (recordedRules_append _ _).trans (List.append_nil _)
    rw [happly]
    refine ⟨?_, by simp [h.tick, RowEvent.isBeginning], by rw [hrules, ← h.rule], fun hnone => ?_⟩
    · rw [hwrites, List.map_append, FactWrite.applyAll, List.foldl_append, h.facts]
      rfl
    · exact h.action (hrules ▸ hnone)
  cases event with
  | write | clear => exact hwritten _ rfl rfl
  | _ => exact h.silent rfl rfl rfl

end ContextFits

/-- What a row of events makes of the context is told by the events, if nobody else changes it. -/
theorem rowContext {es : List RowEvent} {s t : TickRow} (h : Run RowStep s es t)
    (halone : ∀ c, .tick (.context c) ∉ es) : ContextFits es s.ticks.context t.ticks.context := by
  induction h with
  | nil => exact .nil _
  | @snoc es m t e _ hstep ih =>
      have hfits := ih fun c hc => halone c (List.mem_append_left _ hc)
      cases hstep with
      | tick _ htick =>
          cases htick with
          | context c =>
              exact absurd (List.mem_append_right _ (List.mem_singleton_self _)) (halone c)
          | record => exact hfits.recordAction _
          | exec => exact hfits.exec _ _ _
          | _ => exact hfits.silent rfl rfl rfl
      | takePlan => exact hfits.beginTick _
      | _ => exact hfits.silent rfl rfl rfl

end RuleEngine
