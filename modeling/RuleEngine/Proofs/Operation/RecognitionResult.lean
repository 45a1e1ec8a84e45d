import RuleEngine.Proofs.Operation.Recognition

set_option autoImplicit false

/-! # What recognitions come to

However an execution of a recognition, the worker, the other threads at the lane and a stop take
turns: a stop that comes before the execution keeps it from the lane; a stop that comes before the
task has ended makes the execution return with the answer to it, while the worker still runs and
counts the task; and facts are changed by a success only, which sets or removes one
(`isRecognition`).
-/

namespace RuleEngine

section Runs

variable {past : List TargetEvent} {start s t : RecognizeThreads} {es : List RecognizeEvent}
  {job : LaneJob String} {ending : TaskEnd (Option Json)} {d : Descriptor}
  {operation target key : String}

theorem returned_run {c : Compiled} {completion : Completion} (h : Run (RecognizeStep c) s es t)
    (hended : s.exec = .ended completion) (hcall : s.call = .none) :
    t.exec = .ended completion ∧ t.call = .none ∧ ownAtLane es = [] := by
  induction h with
  | nil => exact ⟨hended, hcall, rfl⟩
  | snoc _ hstep ih =>
      obtain ⟨hended', hcall', hnone⟩ := ih
      rw [ownAtLane_append, hnone, List.nil_append, ownAtLane_single]
      cases hstep with
      | stop => exact ⟨hended', hcall', rfl⟩
      | others => exact ⟨hended', hcall', rfl⟩
      | exec _ hexec =>
          rw [hended'] at hexec
          cases hexec
      | issue hexec =>
          rw [hended'] at hexec
          cases hexec
      | send hother | refuse hother | count hother | poll _ hother | judge hother
      | discard _ hother =>
          rw [hcall'] at hother
          cases hother

theorem RecognizeFits.of_fresh (h : RecognizeFits past start es operation target key s)
    (hfresh : s.exec = .fresh) : s.call = .none ∧ ownAtLane es = [] := by
  cases h with
  | fresh _ hcall hnone => exact ⟨hcall, hnone⟩
  | barred hexec | begun hexec | issued hexec | refused hexec =>
      rw [hexec] at hfresh
      cases hfresh
  | accepted _ _ hstage =>
      cases hstage with
      | counting hexec | waiting hexec | answered hexec | ended hexec =>
          rw [hexec] at hfresh
          cases hfresh
      | @found found hexec =>
          rw [hexec] at hfresh
          cases found <;> cases hfresh

/-- An execution that begins after a stop has done nothing, and does nothing any more. -/
theorem barred_run {front back : List RecognizeEvent} {now : Nat}
    (hpast : Run LaneStep {} past start.lane) (hfresh : start.exec = .fresh)
    (hcall : start.call = .none)
    (h : Run (RecognizeStep ⟨d, .recognize target key⟩) start
      (front ++ .exec (.begin now) :: back) s) (htold : start.WasTold front) :
    ownAtLane (front ++ .exec (.begin now) :: back) = [] ∧
      s.exec = .ended (.failed (.stopped d.name)) ∧ s.call = .none := by
  rw [List.append_cons] at h ⊢
  obtain ⟨m, hbegun, hback⟩ := h.cut
  obtain ⟨m', hfront, hbegin⟩ := hbegun.cases_snoc
  have hsignalled : m'.signalled = true := (recognize_signalled hfront).2 htold
  cases hbegin with
  | exec _ hexec =>
      have hbefore : m'.exec = .fresh := by
        generalize m'.exec = before at hexec
        cases hexec
        rfl
      obtain ⟨hidle, hquiet⟩ := (recognizeFits hpast hfresh hcall hfront).of_fresh hbefore
      rw [hbefore, hsignalled] at hexec
      cases hexec
      obtain ⟨hended, hnone, hstill⟩ := returned_run hback rfl hidle
      refine ⟨?_, hended, hnone⟩
      rw [ownAtLane_append, ownAtLane_append, hquiet, hstill]
      rfl

/-! ### The way to the return -/

/-- The execution can return without the help of others. -/
abbrev RecognizeThreads.CanReturn (c : Compiled) (s : RecognizeThreads) : Prop :=
  CanReach (RecognizeStep c) (fun e => e.isOwn = true) RecognizeThreads.HasReturned s

variable {c : Compiled} {id : Nat}

theorem canReturn_of_ended {completion : Completion} (hended : s.exec = .ended completion)
    (hcall : s.call = .handle id) (hhandle : s.lane.HasHandle id) : s.CanReturn c := by
  obtain ⟨box, hbox⟩ := hhandle.exists
  exact .of_step (.discard hended hcall (.discard hbox)) rfl (.here ⟨⟨_, hended⟩, rfl⟩)

/-- What a stopped execution finds is not looked at. -/
theorem canReturn_of_polled {outcome : Option (Except EngineError (Option Json))}
    (htold : s.signalled = true) (hexec : s.exec = .awaiting key)
    (hcall : s.call = .polled id outcome) (hhandle : s.lane.HasHandle id) : s.CanReturn c := by
  have hstop : ExecStage.ofVerdict key (.of c.name s.signalled outcome) =
      .ended (.failed (.stopped c.name)) := by
    simp [Verdict.of, htold, ExecStage.ofVerdict]
  have hjudge : ExecStep c s.signalled 0 s.exec (.poll outcome)
      (.ended (.failed (.stopped c.name))) := by
    rw [hexec, ← hstop]
    exact .poll key outcome
  exact .of_step (.judge hcall hjudge) rfl (canReturn_of_ended rfl rfl hhandle)

theorem canReturn_of_handle (htold : s.signalled = true) (hexec : s.exec = .awaiting key)
    (hcall : s.call = .handle id) (hhandle : s.lane.HasHandle id) : s.CanReturn c := by
  obtain ⟨box, hbox⟩ := hhandle.exists
  have hpoll := LaneStep.poll hbox
  refine .of_step (.poll hexec hcall hpoll) rfl ?_
  exact canReturn_of_polled htold hexec rfl hpoll.hasHandle_of_poll

theorem canReturn_of_accepted (htold : s.signalled = true) (hexec : s.exec = .awaiting key)
    (hcall : s.call = .accepted id) (huncounted : id ∈ s.lane.uncounted)
    (hhandle : s.lane.HasHandle id) : s.CanReturn c :=
  .of_step (.count hcall (.countSubmitted huncounted)) rfl
    (canReturn_of_handle htold hexec rfl hhandle)

theorem canReturn_of_issued (htold : s.signalled = true)
    (hexec : s.exec = .submitting job.work key) (hcall : s.call = .issued job)
    (hissued : job ∈ s.lane.issued) : s.CanReturn c := by
  cases hopen : s.lane.lane.accepting with
  | true =>
      have hsend := LaneStep.send hissued (Lane.send_eq_true_iff.2 ⟨hopen, rfl⟩)
      have hsubmit : ExecStep c s.signalled 0 s.exec (.submit job.work) (.awaiting key) := by
        rw [hexec]
        exact .submit job.work key
      refine .of_step (.send hcall hsend hsubmit) rfl ?_
      exact canReturn_of_accepted htold rfl rfl hsend.hasHandle_of_send.2 hsend.hasHandle_of_send.1
  | false =>
      have hclosed := LaneStep.refuse hissued (Lane.send_eq_false_iff.2 ⟨hopen, rfl⟩)
      have hrefuse : ExecStep c s.signalled 0 s.exec (.refuse .laneClosed)
          (.ended (.ofRefusal c.name .laneClosed)) := by
        rw [hexec]
        exact .refuse .laneClosed
      exact .of_step (.refuse hcall hclosed hrefuse) rfl (.here ⟨⟨_, rfl⟩, rfl⟩)

theorem canReturn_of_begun (htold : s.signalled = true) (hexec : s.exec = .submitting target key)
    (hcall : s.call = .none) : s.CanReturn c := by
  have hissue := LaneStep.issue (s := s.lane) (recognitionLabel target) target
  refine .of_step (.issue hexec hcall rfl rfl hissue) rfl ?_
  exact canReturn_of_issued htold hexec rfl (List.mem_append_right _ (List.mem_singleton_self _))

theorem canReturn_of_found {found : Option Json}
    (hexec : s.exec = .ofVerdict key (.of operation false (some (.ok found))))
    (hcall : s.call = .handle id) (hhandle : s.lane.HasHandle id) : s.CanReturn c := by
  cases found with
  | some value =>
      have hwrite : ExecStep c s.signalled 0 s.exec (.write key value) (.ended .done) := by
        rw [hexec]
        exact .write key value
      exact .of_step (.exec rfl hwrite) rfl (canReturn_of_ended rfl hcall hhandle)
  | none =>
      have hclear : ExecStep c s.signalled 0 s.exec (.clear key) (.ended .done) := by
        rw [hexec]
        exact .clear key
      exact .of_step (.exec rfl hclear) rfl (canReturn_of_ended rfl hcall hhandle)

/-- An execution that was told to stop can return, without the help of others. -/
theorem RecognizeFits.canReturn (h : RecognizeFits past start es d.name target key s)
    (htold : s.signalled = true) : s.CanReturn ⟨d, .recognize target key⟩ := by
  cases h with
  | fresh hexec hcall =>
      have hbegin : ExecStep ⟨d, .recognize target key⟩ s.signalled 0 s.exec (.begin 0)
          (.ended (.failed (.stopped d.name))) := by
        rw [hexec, htold]
        exact .begin
      exact .of_step (.exec rfl hbegin) rfl (.here ⟨⟨_, rfl⟩, hcall⟩)
  | barred hexec hcall | refused hexec hcall => exact .here ⟨⟨_, hexec⟩, hcall⟩
  | begun hexec hcall => exact canReturn_of_begun htold hexec hcall
  | issued hexec hcall hwork hissued =>
      exact canReturn_of_issued htold (by rw [hwork]; exact hexec) hcall hissued
  | accepted _ _ hstage =>
      cases hstage with
      | counting hexec hcall huncounted hhandle =>
          exact canReturn_of_accepted htold hexec hcall huncounted hhandle
      | waiting hexec hcall hhandle =>
          rcases hcall with hcall | hcall
          · exact canReturn_of_handle htold hexec hcall hhandle
          · exact canReturn_of_polled htold hexec hcall hhandle
      | answered hexec hcall hhandle => exact canReturn_of_polled htold hexec hcall hhandle
      | found hexec hcall hhandle => exact canReturn_of_found hexec hcall hhandle
      | ended hexec hcall =>
          rcases hcall with ⟨hcall, hhandle⟩ | hcall
          · exact canReturn_of_ended hexec hcall hhandle
          · exact .here ⟨⟨_, hexec⟩, hcall⟩

/-- What happens at the lane happens beside the execution. -/
theorem laneWork_run {lane : LaneThreads String (Option Json)} {fs : List TargetEvent}
    (h : Run LaneStep s.lane fs lane) (hfs : ∀ f ∈ fs, f.isWork = true) :
    Run (RecognizeStep c) s (fs.map .others) { s with lane := lane } := by
  induction h with
  | nil => exact .nil
  | @snoc fs m lane f _ hstep ih =>
      have hrun := ih fun g hg => hfs g (List.mem_append_left _ hg)
      have hwork := hfs f (List.mem_append_right _ (List.mem_singleton_self _))
      rw [List.map_append]
      refine hrun.snoc (.others (fun id _ => ?_) hstep)
      rw [LaneEvent.owner?_of_isWork hwork]
      exact nofun

/-! ### What an execution comes to -/

/-- Why an execution ends without a result. -/
inductive RecognizeFailure (past : List TargetEvent) (start : RecognizeThreads)
    (es : List RecognizeEvent) (operation : String) : Completion → Prop
  | stopped : start.WasTold es →
      RecognizeFailure past start es operation (.failed (.stopped operation))
  | refused {job : LaneJob String} : .own (.refuse job) ∈ es →
      RecognizeFailure past start es operation
        (.failed (.recognition operation EngineError.laneClosed.message))
  /-- The task has failed or panicked. -/
  | failed {job : LaneJob String} {ending : TaskEnd (Option Json)} {m : String} :
      .own (.send job) ∈ es → .finish job ending ∈ past ++ atLane es → ending.error? = some m →
      RecognizeFailure past start es operation
        (.failed (.recognition operation (EngineError.laneTask m).message))

/-- What becomes of the execution of a recognition, whatever the others do. -/
structure IsRecognition (d : Descriptor) (target key : String) (past : List TargetEvent)
    (start : RecognizeThreads) (es : List RecognizeEvent) (s : RecognizeThreads) : Prop where
  /-- A stop that comes before the execution keeps it from the lane. -/
  barred : ∀ front now back, es = front ++ .exec (.begin now) :: back → start.WasTold front →
    ownAtLane es = [] ∧ s.exec = .ended (.failed (.stopped d.name)) ∧ s.HasReturned
  /-- If the task was accepted, and the stop came before its end, the execution can return at any
  time, and what it returns is the answer to the stop. -/
  dropped : ∀ job, .own (.send job) ∈ es → ToldFirst past start es job →
    s.CanReturn ⟨d, .recognize target key⟩ ∧ s.context = start.context ∧
      ∀ completion, s.exec = .ended completion → completion = .failed (.stopped d.name)
  /-- An accepted task is run and counted by the worker, whatever has become of the execution. -/
  counted : ∀ job, .own (.send job) ∈ es → ∃ fs t ending,
    Run (RecognizeStep ⟨d, .recognize target key⟩) s (fs.map .others) t ∧
      (∀ e ∈ fs, e.isWork = true) ∧ .finish job ending ∈ past ++ atLane es ++ fs ∧
      .count job ∈ past ++ atLane es ++ fs
  /-- The context is changed by a success only. -/
  unchanged : s.exec ≠ .ended .done → s.context = start.context
  failed : ∀ completion, s.exec = .ended completion → completion ≠ .done →
    RecognizeFailure past start es d.name completion
  /-- A success sets the one fact to what was found, or takes it out if nothing was found. -/
  done : s.exec = .ended .done → ∃ job found, .own (.send job) ∈ es ∧ job.work = target ∧
    .finish job (.value found) ∈ past ++ atLane es ∧
    s.context = start.context.setFound key found ∧
    ∀ k, s.context.facts.get? k = if k = key then found else start.context.facts.get? k

theorem Context.get?_setFound {context : Context} (h : context.facts.Sorted) (key : String)
    (found : Option Json) (k : String) :
    (context.setFound key found).facts.get? k =
      if k = key then found else context.facts.get? k := by
  cases found with
  | some value =>
      show (context.facts.insert key value).get? k = _
      rw [Table.get?_insert]
      simp only [eq_comm]
  | none =>
      show (context.facts.erase key).get? k = _
      by_cases hk : k = key
      · rw [if_pos hk, hk, h.get?_erase]
      · rw [if_neg hk, Table.get?_erase_of_ne _ hk]

theorem EndedFirst.finish (h : EndedFirst past start es job ending) :
    .finish job ending ∈ past ++ atLane es := by
  obtain ⟨front, back, rfl, -, hfinish⟩ := h
  rw [atLane_append, ← List.append_assoc]
  exact List.mem_append_left _ hfinish

/-- The execution whose task was accepted is at one of the stages of its handle. -/
theorem RecognizeFits.of_sent (h : RecognizeFits past start es operation target key s)
    (hjob : .own (.send job) ∈ es) :
    job.work = target ∧ HandleStage past start es job operation key s := by
  have hmem := mem_sent_ownAtLane.2 hjob
  cases h with
  | fresh _ _ hnone | barred _ _ hnone | begun _ _ hnone =>
      rw [hnone] at hmem
      cases hmem
  | issued _ _ _ _ hown | refused _ _ hown =>
      rw [hown] at hmem
      cases hmem
  | accepted hwork hsent hstage =>
      rw [hsent] at hmem
      obtain rfl := List.mem_singleton.1 hmem
      exact ⟨hwork, hstage⟩

/-- A stop that came before the end of the task is what the execution answers to. -/
theorem HandleStage.of_toldFirst (h : HandleStage past start es job operation key s)
    (htold : ToldFirst past start es job) :
    s.context = start.context ∧
      ∀ completion, s.exec = .ended completion → completion = .failed (.stopped operation) := by
  cases h with
  | counting hexec _ _ _ _ hcontext | waiting hexec _ _ _ hcontext
  | answered hexec _ _ _ hcontext =>
      refine ⟨hcontext, fun completion hended => ?_⟩
      rw [hexec] at hended
      cases hended
  | found _ _ _ hended => exact absurd hended htold.not_endedFirst
  | ended hexec _ hend =>
      generalize s.context = context at hend
      cases hend with
      | failed hended | done hended => exact absurd hended htold.not_endedFirst
      | stopped =>
          refine ⟨rfl, fun completion hended => ?_⟩
          rw [hexec] at hended
          cases hended
          rfl

/-- A context that was changed is that of a success. -/
theorem RecognizeFits.of_context (h : RecognizeFits past start es operation target key s) :
    s.context = start.context ∨ s.exec = .ended .done := by
  cases h with
  | fresh _ _ _ hcontext | barred _ _ _ _ hcontext | begun _ _ _ hcontext
  | issued _ _ _ _ _ hcontext | refused _ _ _ hcontext => exact .inl hcontext
  | accepted _ _ hstage =>
      cases hstage with
      | counting _ _ _ _ _ hcontext | waiting _ _ _ _ hcontext | answered _ _ _ _ hcontext
      | found _ _ _ _ hcontext => exact .inl hcontext
      | ended hexec _ hend =>
          generalize s.context = context at hend ⊢
          cases hend with
          | stopped | failed => exact .inl rfl
          | done => exact .inr hexec

/-- How an execution ends: with a result that it leaves in the context, or with the reason why there
is none. -/
theorem RecognizeFits.of_ended {completion : Completion}
    (h : RecognizeFits past start es operation target key s) (hended : s.exec = .ended completion) :
    RecognizeFailure past start es operation completion ∨
      completion = .done ∧ ∃ job found, .own (.send job) ∈ es ∧ job.work = target ∧
        .finish job (.value found) ∈ past ++ atLane es ∧
        s.context = start.context.setFound key found := by
  cases h with
  | fresh hexec | begun hexec | issued hexec =>
      rw [hexec] at hended
      cases hended
  | barred hexec _ _ htold =>
      rw [hexec] at hended
      cases hended
      exact .inl (.stopped htold)
  | @refused job hexec _ hown =>
      rw [hexec] at hended
      cases hended
      have hmem : .refuse job ∈ ownAtLane es := by
        rw [hown]
        exact List.mem_cons_of_mem _ (List.mem_singleton_self _)
      exact .inl (.refused (mem_ownAtLane.1 hmem))
  | @accepted job hwork hsent hstage =>
      have hjob : .own (.send job) ∈ es :=
        mem_sent_ownAtLane.1 (hsent ▸ List.mem_singleton_self job)
      cases hstage with
      | counting hexec | waiting hexec | answered hexec =>
          rw [hexec] at hended
          cases hended
      | @found found hexec =>
          rw [hexec] at hended
          cases found <;> cases hended
      | ended hexec _ hend =>
          rw [hexec] at hended
          cases hended
          generalize s.context = context at hend ⊢
          cases hend with
          | stopped htold => exact .inl (.stopped htold)
          | failed hfirst herror =>
              exact .inl (.failed hjob hfirst.finish (by rw [TaskEnd.error?, herror]))
          | done hfirst => exact .inr ⟨rfl, job, _, hjob, hwork, hfirst.finish, rfl⟩

/-- **Only a success of a recognition changes a fact, and late results are dropped**, however the
execution, the worker, the other threads at the lane and a stop take turns. -/
theorem isRecognition (hpast : Run LaneStep {} past start.lane) (hfresh : start.exec = .fresh)
    (hcall : start.call = .none) (hsorted : start.context.facts.Sorted)
    (h : Run (RecognizeStep ⟨d, .recognize target key⟩) start es s) :
    IsRecognition d target key past start es s := by
  have hfits := recognizeFits hpast hfresh hcall h
  have hlane := recognize_lane hpast h
  refine ⟨?_, fun job hjob htold => ?_, fun job hjob => ?_, fun hnot => ?_,
    fun completion hended hnot => ?_, fun hended => ?_⟩
  · rintro front now back rfl htold
    obtain ⟨hnone, hended, hcall'⟩ := barred_run hpast hfresh hcall h htold
    exact ⟨hnone, hended, ⟨_, hended⟩, hcall'⟩
  · have htold' : s.signalled = true := (recognize_signalled h).2 htold.told
    exact ⟨hfits.canReturn htold', (hfits.of_sent hjob).2.of_toldFirst htold⟩
  · have hsent : job ∈ sent (past ++ atLane es) := mem_sent_of_own (mem_sent_ownAtLane.2 hjob)
    obtain ⟨fs, lane, ending, hrun, hfs, hfinish, hcount⟩ := canReach_counted hlane hsent
    exact ⟨fs, _, ending, laneWork_run hrun hfs, hfs, hfinish, hcount⟩
  · exact hfits.of_context.resolve_right hnot
  · exact (hfits.of_ended hended).resolve_right fun hdone => hnot hdone.1
  · rcases hfits.of_ended hended with hfailure | ⟨-, job, found, hjob, hwork, hfinish, hcontext⟩
    · cases hfailure
    · refine ⟨job, found, hjob, hwork, hfinish, hcontext, fun k => ?_⟩
      rw [hcontext, Context.get?_setFound hsorted]

end Runs

/-- The operation is told to stop while its task is run. The task finds a value all the same and is
counted; the fact that the value was meant for is not set. -/
theorem isRecognition_late : ∃ (es : List RecognizeEvent) (s : RecognizeThreads),
    es = [.exec (.begin 0), .own (.issue ⟨1, "recognize:boss", "boss"⟩),
      .own (.send ⟨1, "recognize:boss", "boss"⟩), .others (.start ⟨1, "recognize:boss", "boss"⟩),
      .own (.countSubmitted 1), .stop,
      .others (.finish ⟨1, "recognize:boss", "boss"⟩ (.value (some .null))),
      .own (.poll 1 (some (.ok (some .null)))), .exec (.poll (some (.ok (some .null)))),
      .others (.count ⟨1, "recognize:boss", "boss"⟩), .own (.discard 1)] ∧
    s.exec = .ended (.failed (.stopped "recognize")) ∧ s.context = {} ∧
    IsRecognition { name := "recognize" } "boss" "position" [] ⟨{}, {}, false, .fresh, .none⟩ es
      s := by
  let c : Compiled := ⟨{ name := "recognize" }, .recognize "boss" "position"⟩
  have hbegin : ExecStep c false 0 .fresh (.begin 0) (.submitting "boss" "position") := .begin
  have hsubmit : ExecStep c false 0 (.submitting "boss" "position") (.submit "boss")
      (.awaiting "position") := .submit _ _
  have hjudge : ExecStep c true 0 (.awaiting "position") (.poll (some (.ok (some .null))))
      (.ended (.failed (.stopped "recognize"))) := .poll _ _
  have h0 : Run (RecognizeStep c) ⟨{}, {}, false, .fresh, .none⟩ []
      ⟨{}, {}, false, .fresh, .none⟩ := .nil
  have h1 := (h0.snoc (.exec rfl hbegin)).snoc
    (.issue rfl rfl rfl rfl (.issue "recognize:boss" "boss"))
  have h2 := h1.snoc (.send rfl (.send (List.mem_singleton_self _) rfl) hsubmit)
  have h3 := (h2.snoc (.others (by simp [LaneEvent.owner?]) (.start rfl rfl))).snoc
    (.count rfl (.countSubmitted (List.mem_singleton_self _)))
  have h4 := (h3.snoc .stop).snoc
    (.others (by simp [LaneEvent.owner?]) (.finish (.value (some .null)) rfl))
  have h5 := (h4.snoc (.poll rfl rfl (.poll rfl))).snoc (.judge rfl hjudge)
  have h6 := (h5.snoc (.others (by simp [LaneEvent.owner?]) (.count rfl))).snoc
    (.discard rfl rfl (.discard rfl))
  exact ⟨_, _, rfl, rfl, rfl, isRecognition .nil rfl rfl .nil h6⟩

end RuleEngine
