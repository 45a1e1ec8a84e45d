import Mathlib.Data.List.TakeWhile
import RuleEngine.Proofs.Event.Threads

set_option autoImplicit false

/-! # Failures reach the notifier

However the threads at a notifier take turns, a failure is dropped only while the queue is full of
other failures that nobody has received, and what was not dropped is at one place: with the consumer,
in the hands of the task, or in the queue, in the order in which it was reported (`keepsFailures`).
Events that are no failures change nothing, wherever they come.

A pass that nobody interrupts is the pass of a `Notifier` (`pass_of_run`), and the last one its end
(`finish_of_run`).
-/

namespace RuleEngine

/-! ## Nothing is lost -/

variable {n : Nat} {q : EventQueue} {b : Notifier} {es fs : List NotifierEvent}
  {e : NotifierEvent} {x : Event} {s t : NotifierThreads}

/-- What was kept is at one place: with the consumer, in hand, or in the queue. -/
structure ContentsFit (n : Nat) (es : List NotifierEvent) (b : Notifier) : Prop where
  capacity : b.queue.capacity = n
  bounded : b.queue.items.length ≤ n
  conserved : kept es = b.delivered ++ b.taken ++ b.queue.items
  failures : ∀ x ∈ kept es, x.type.isFailure = true
  pushed : b.queue.pushed = (kept es).length
  popped : b.queue.popped = (b.delivered ++ b.taken).length
  dropped : b.queue.dropped = (es.filterMap NotifierEvent.dropped?).length

namespace ContentsFit

theorem quiet (h : ContentsFit n es b) (hkept : e.kept? = none) (hdropped : e.dropped? = none) :
    ContentsFit n (es ++ [e]) b := by
  have hes : kept (es ++ [e]) = kept es := by
    rw [kept_append, kept, kept, List.filterMap_cons_none hkept, List.filterMap_nil,
      List.append_nil]
  constructor
  case capacity => exact h.capacity
  case bounded => exact h.bounded
  case conserved => rw [hes, h.conserved]
  case failures =>
    rw [hes]
    exact h.failures
  case pushed => rw [hes, h.pushed]
  case popped => exact h.popped
  case dropped =>
    rw [List.filterMap_append, List.filterMap_cons_none hdropped, List.filterMap_nil,
      List.append_nil, h.dropped]

theorem keep (h : ContentsFit n es b) (hfailure : x.type.isFailure = true)
    (hroom : b.queue.isFull = false) :
    ContentsFit n (es ++ [.emit x true]) (b.offerFailure x) := by
  have hes : kept (es ++ [.emit x true]) = kept es ++ [x] := kept_append es _
  have hlength : b.queue.items.length < n := by
    rw [← h.capacity, ← Nat.not_le, ← EventQueue.isFull_iff, hroom]
    decide
  rw [Notifier.offerFailure_of_room hfailure hroom]
  constructor
  case capacity => exact h.capacity
  case bounded =>
    show (b.queue.items ++ [x]).length ≤ n
    rw [List.length_append]
    exact hlength
  case conserved =>
    rw [hes, h.conserved]
    exact List.append_assoc _ _ _
  case failures =>
    rw [hes]
    exact List.forall_mem_append.2 ⟨h.failures, by simpa using hfailure⟩
  case pushed =>
    rw [hes, List.length_append, ← h.pushed]
    rfl
  case popped => exact h.popped
  case dropped =>
    rw [List.filterMap_append]
    exact h.dropped.trans (by simp [NotifierEvent.dropped?])

theorem drop (h : ContentsFit n es b) (hfailure : x.type.isFailure = true)
    (hfull : b.queue.isFull = true) :
    ContentsFit n (es ++ [.emit x false]) (b.offerFailure x) := by
  have hes : kept (es ++ [.emit x false]) = kept es := by
    rw [kept_append]
    exact List.append_nil _
  rw [Notifier.offerFailure_of_full hfailure hfull]
  constructor
  case capacity => exact h.capacity
  case bounded => exact h.bounded
  case conserved => rw [hes, h.conserved]
  case failures =>
    rw [hes]
    exact h.failures
  case pushed => rw [hes, ← h.pushed]
  case popped => exact h.popped
  case dropped =>
    rw [List.filterMap_append, List.length_append, ← h.dropped]
    simp [NotifierEvent.dropped?, hfailure]

/-- Whatever is reported, and whenever. -/
theorem emit (h : ContentsFit n es b) {kept : Bool}
    (hkept : (x.type.isFailure && !b.queue.isFull) = kept) :
    ContentsFit n (es ++ [.emit x kept]) (b.offerFailure x) := by
  subst hkept
  cases hfailure : x.type.isFailure with
  | false =>
      rw [Notifier.offerFailure_of_ignored hfailure]
      exact h.quiet rfl (by simp [NotifierEvent.dropped?, hfailure])
  | true =>
      cases hfull : b.queue.isFull with
      | false => exact h.keep hfailure hfull
      | true => exact h.drop hfailure hfull

theorem take (h : ContentsFit n es b) (hpop : b.queue.pop.1 = some x) :
    ContentsFit n es b.take := by
  cases hitems : b.queue.items with
  | nil =>
      rw [EventQueue.pop_of_nil hitems] at hpop
      cases hpop
  | cons y rest =>
      have hbounded := h.bounded
      have hconserved := h.conserved
      rw [hitems] at hbounded hconserved
      rw [Notifier.take_of_cons hitems]
      constructor
      case capacity => exact h.capacity
      case bounded => exact Nat.le_trans (Nat.le_succ _) hbounded
      case conserved =>
        rw [hconserved]
        simp
      case failures => exact h.failures
      case pushed => exact h.pushed
      case popped =>
        show b.queue.popped + 1 = (b.delivered ++ (b.taken ++ [y])).length
        rw [h.popped]
        simp [Nat.add_assoc]
      case dropped => exact h.dropped

theorem deliverNext (h : ContentsFit n es b) (hnext : b.taken.head? = some x) :
    ContentsFit n es b.deliverNext := by
  obtain ⟨y, rest, htaken⟩ : ∃ y rest, b.taken = y :: rest := by
    cases htaken : b.taken with
    | nil =>
        rw [htaken] at hnext
        cases hnext
    | cons y rest => exact ⟨y, rest, rfl⟩
  have hmoved : b.deliverNext.delivered ++ b.deliverNext.taken = b.delivered ++ b.taken := by
    rw [Notifier.deliverNext_of_cons htaken, htaken]
    exact List.append_assoc _ _ _
  constructor
  case capacity => exact h.capacity
  case bounded => exact h.bounded
  case conserved =>
    rw [hmoved]
    exact h.conserved
  case failures => exact h.failures
  case pushed => exact h.pushed
  case popped =>
    rw [hmoved]
    exact h.popped
  case dropped => exact h.dropped

/-- Every step keeps what was kept. -/
theorem step (h : ContentsFit n es s.notifier) (hstep : NotifierStep s e t) :
    ContentsFit n (es ++ [e]) t.notifier := by
  cases hstep with
  | emit x hkept => exact h.emit hkept
  | take _ hpop => exact (h.take hpop).quiet rfl rfl
  | deliver _ hnext => exact (h.deliverNext hnext).quiet rfl rfl
  | finish _ => exact h.quiet rfl rfl
  | wake _ _ _ => exact h.quiet rfl rfl
  | empty _ _ => exact h.quiet rfl rfl
  | rest _ _ => exact h.quiet rfl rfl
  | leave _ _ => exact h.quiet rfl rfl
  | answer _ _ _ => exact h.quiet rfl rfl

end ContentsFit

theorem contentsFit (hq : EventQueue.new? n = some q)
    (h : Run NotifierStep { notifier := { queue := q } } es s) : ContentsFit n es s.notifier := by
  obtain ⟨rfl, -⟩ := EventQueue.new?_eq_some hq
  induction h with
  | nil => constructor <;> simp [kept]
  | snoc _ hstep ih => exact ih.step hstep

/-! ## The last pass -/

/-- What was kept before the task was asked to finish has been taken out. -/
def EarlyTaken (es : List NotifierEvent) (b : Notifier) : Prop :=
  ∀ front back, es = front ++ .finish :: back → kept front <+: b.delivered ++ b.taken

theorem EarlyTaken.snoc (h : EarlyTaken es b) (hne : e ≠ .finish) : EarlyTaken (es ++ [e]) b := by
  intro front back hes
  rcases List.eq_nil_or_concat back with rfl | ⟨back', last, rfl⟩
  · have hlast := (List.append_inj' hes rfl).2
    exact absurd (List.cons.inj hlast).1 hne
  · rw [List.concat_eq_append, ← List.cons_append, ← List.append_assoc] at hes
    exact h front back' (List.append_inj' hes rfl).1

/-- An empty queue has nothing left of what was kept. -/
theorem ContentsFit.earlyTaken (h : ContentsFit n es b) (hpop : b.queue.pop.1 = none) :
    EarlyTaken es b := by
  rintro front back rfl
  have hitems : b.queue.items = [] := by
    cases hitems : b.queue.items with
    | nil => rfl
    | cons x rest =>
        rw [EventQueue.pop_of_cons hitems] at hpop
        cases hpop
  have hconserved := h.conserved
  rw [hitems, List.append_nil, kept_append] at hconserved
  rw [← hconserved]
  exact List.prefix_append _ _

/-- What holds at a stage of the task. -/
def DrainStage.Fits (es : List NotifierEvent) (s : NotifierThreads) : DrainStage → Prop
  | .waiting => s.notifier.taken = [] ∧ s.answered = none
  | .taking last => (last = true → s.asked = true) ∧ s.answered = none
  | .delivering last =>
    (last = true → s.asked = true ∧ EarlyTaken es s.notifier) ∧ s.answered = none
  | .ended =>
    s.notifier.taken = [] ∧ s.asked = true ∧ EarlyTaken es s.notifier ∧
      ∀ k, s.answered = some k → k = s.count

/-- How far the task has come. -/
structure TaskFits (es : List NotifierEvent) (s : NotifierThreads) : Prop where
  count : s.count = s.notifier.delivered.length
  stage : s.stage.Fits es s

namespace TaskFits

theorem fits (h : TaskFits es s) {stage : DrainStage} (hstage : s.stage = stage) :
    stage.Fits es s :=
  hstage ▸ h.stage

/-- What is reported leaves the task alone. -/
theorem emit (h : TaskFits es s) (x : Event) (kept : Bool) :
    TaskFits (es ++ [.emit x kept]) { s with notifier := s.notifier.offerFailure x } := by
  obtain ⟨queue, hqueue⟩ := s.notifier.offerFailure_eq x
  rw [hqueue]
  refine ⟨h.count, ?_⟩
  have hfits := h.stage
  show s.stage.Fits _ _
  cases hstage : s.stage with
  | waiting => exact h.fits hstage
  | taking last => exact h.fits hstage
  | delivering last =>
      obtain ⟨hlast, hanswered⟩ := h.fits hstage
      refine ⟨fun htrue => ?_, hanswered⟩
      obtain ⟨hasked, hearly⟩ := hlast htrue
      exact ⟨hasked, hearly.snoc (by simp)⟩
  | ended =>
      obtain ⟨htaken, hasked, hearly, hanswered⟩ := h.fits hstage
      exact ⟨htaken, hasked, hearly.snoc (by simp), hanswered⟩

/-- Nobody makes the last pass before the task is asked. -/
theorem finish (h : TaskFits es s) (hasked : s.asked = false) :
    TaskFits (es ++ [.finish]) { s with asked := true } := by
  refine ⟨h.count, ?_⟩
  show s.stage.Fits _ _
  cases hstage : s.stage with
  | waiting => exact h.fits hstage
  | taking last => exact ⟨fun _ => rfl, (h.fits hstage).2⟩
  | delivering last =>
      obtain ⟨hlast, hanswered⟩ := h.fits hstage
      refine ⟨fun htrue => ?_, hanswered⟩
      rw [(hlast htrue).1] at hasked
      cases hasked
  | ended =>
      obtain ⟨-, hbefore, -⟩ := h.fits hstage
      rw [hbefore] at hasked
      cases hasked

theorem step (h : TaskFits es s) (hcontents : ContentsFit n es s.notifier)
    (hstep : NotifierStep s e t) : TaskFits (es ++ [e]) t := by
  cases hstep with
  | emit x _ => exact h.emit x _
  | finish hasked => exact h.finish hasked
  | wake last hstage hlast => exact ⟨h.count, hlast, (h.fits hstage).2⟩
  | @take last x hstage _ =>
      refine ⟨h.count, ?_⟩
      show s.stage.Fits _ _
      rw [hstage]
      exact h.fits hstage
  | @empty last hstage hpop =>
      obtain ⟨hlast, hanswered⟩ := h.fits hstage
      refine ⟨h.count, fun htrue => ⟨hlast htrue, ?_⟩, hanswered⟩
      exact (hcontents.earlyTaken hpop).snoc (by simp)
  | @deliver last x hstage hnext =>
      obtain ⟨hlast, hanswered⟩ := h.fits hstage
      cases htaken : s.notifier.taken with
      | nil =>
          rw [htaken] at hnext
          cases hnext
      | cons y rest =>
          constructor
          case count =>
            show s.count + 1 = (s.notifier.delivered ++ s.notifier.taken.head?.toList).length
            rw [h.count, htaken, List.length_append]
            rfl
          case stage =>
            show s.stage.Fits _ _
            rw [hstage]
            refine ⟨fun htrue => ?_, hanswered⟩
            obtain ⟨hasked, hearly⟩ := hlast htrue
            refine ⟨hasked, EarlyTaken.snoc (fun front back hes => ?_) (by simp)⟩
            have hprefix := hearly front back hes
            rw [htaken] at hprefix
            show _ <+: s.notifier.delivered ++ s.notifier.taken.head?.toList ++ s.notifier.taken.tail
            rw [htaken, List.append_assoc]
            exact hprefix
  | rest hstage htaken => exact ⟨h.count, htaken, (h.fits hstage).2⟩
  | leave hstage htaken =>
      obtain ⟨hlast, hanswered⟩ := h.fits hstage
      obtain ⟨hasked, hearly⟩ := hlast rfl
      refine ⟨h.count, htaken, hasked, hearly.snoc (by simp), fun k hk => ?_⟩
      rw [show s.answered = some k from hk] at hanswered
      cases hanswered
  | answer hstage hasked _ =>
      obtain ⟨htaken, -, hearly, -⟩ := h.fits hstage
      refine ⟨h.count, ?_⟩
      show s.stage.Fits _ _
      rw [hstage]
      exact ⟨htaken, hasked, hearly.snoc (by simp), fun k hk => (Option.some.inj hk).symm⟩

end TaskFits

theorem taskFits (hq : EventQueue.new? n = some q)
    (h : Run NotifierStep { notifier := { queue := q } } es s) : TaskFits es s := by
  induction h with
  | nil => exact ⟨rfl, rfl, rfl⟩
  | snoc hrun hstep ih => exact ih.step (contentsFit hq hrun) hstep

/-- What was handed over is what the consumer has received. -/
theorem received_eq (h : Run NotifierStep { notifier := { queue := q } } es s) :
    es.filterMap NotifierEvent.received? = s.notifier.delivered := by
  induction h with
  | nil => rfl
  | @snoc es m t e _ hstep ih =>
      rw [List.filterMap_append, ih]
      cases hstep with
      | emit x _ =>
          obtain ⟨queue, hqueue⟩ := m.notifier.offerFailure_eq x
          rw [hqueue]
          exact List.append_nil _
      | deliver _ hnext =>
          show _ = m.notifier.delivered ++ m.notifier.taken.head?.toList
          rw [hnext]
          rfl
      | take _ _ => exact List.append_nil _
      | finish _ => exact List.append_nil _
      | wake _ _ _ => exact List.append_nil _
      | empty _ _ => exact List.append_nil _
      | rest _ _ => exact List.append_nil _
      | leave _ _ => exact List.append_nil _
      | answer _ _ _ => exact List.append_nil _

/-! ## Whole passes -/

/-- A row of steps of the task alone leads from one state to another. -/
def Reaches (s t : NotifierThreads) : Prop :=
  ∃ fs, (∀ f ∈ fs, f.isTask = true) ∧ Run NotifierStep s fs t

namespace Reaches

theorem refl (s : NotifierThreads) : Reaches s s := ⟨[], by simp, .nil⟩

theorem head (hstep : NotifierStep s e t) (htask : e.isTask = true) {u : NotifierThreads}
    (h : Reaches t u) : Reaches s u := by
  obtain ⟨fs, hfs, hrun⟩ := h
  exact ⟨[e] ++ fs, List.forall_mem_append.2 ⟨by simpa using htask, hfs⟩,
    (Run.nil.snoc hstep).append hrun⟩

theorem trans {u : NotifierThreads} (h : Reaches s t) (h' : Reaches t u) : Reaches s u := by
  obtain ⟨fs, hfs, hrun⟩ := h
  obtain ⟨gs, hgs, hrun'⟩ := h'
  exact ⟨fs ++ gs, List.forall_mem_append.2 ⟨hfs, hgs⟩, hrun.append hrun'⟩

end Reaches

/-- The task takes out all that there is, if nobody else does anything. -/
theorem reaches_takeAll {last : Bool} (hstage : s.stage = .taking last) :
    Reaches s { s with notifier := s.notifier.takeAll, stage := .delivering last } := by
  induction hitems : s.notifier.queue.items generalizing s with
  | nil =>
      rw [Notifier.takeAll_of_nil hitems]
      exact Reaches.head (.empty hstage (by rw [EventQueue.pop_of_nil hitems])) rfl (.refl _)
  | cons x rest ih =>
      have hrest : ({ s with notifier := s.notifier.take } : NotifierThreads).notifier.queue.items =
          rest := by
        dsimp only
        rw [Notifier.take_of_cons hitems]
      have hall := @ih { s with notifier := s.notifier.take } hstage hrest
      dsimp only at hall
      rw [Notifier.takeAll_take hitems] at hall
      exact Reaches.head (.take hstage (by rw [EventQueue.pop_of_cons hitems])) rfl hall

/-- The task hands over all that it has taken. -/
theorem reaches_deliver {last : Bool} (hstage : s.stage = .delivering last) :
    Reaches s { s with
      notifier := s.notifier.deliver, count := s.count + s.notifier.taken.length } := by
  induction htaken : s.notifier.taken generalizing s with
  | nil =>
      have hsame : s.notifier.deliver = s.notifier := by
        unfold Notifier.deliver
        rw [htaken, List.append_nil, ← htaken]
      rw [hsame]
      exact .refl s
  | cons x rest ih =>
      have hrest : s.notifier.deliverNext.taken = rest := by
        rw [Notifier.deliverNext_of_cons htaken]
      have hall := @ih { s with notifier := s.notifier.deliverNext, count := s.count + 1 } hstage hrest
      dsimp only at hall
      rw [Notifier.deliver_deliverNext htaken, Nat.add_assoc, Nat.add_comm 1] at hall
      exact Reaches.head (.deliver hstage (by rw [htaken]; rfl)) rfl hall

/-- What a pass comes to that nobody interrupts. -/
def afterPass (s : NotifierThreads) (last : Bool) : NotifierThreads :=
  { s with
    notifier := s.notifier.pass
    count := s.count + s.notifier.takeAll.taken.length
    stage := if last then .ended else .waiting }

/-- **A pass that nobody interrupts is the pass of a notifier.** -/
theorem pass_of_run (last : Bool) (hstage : s.stage = .waiting)
    (hlast : last = true → s.asked = true) : Reaches s (afterPass s last) := by
  have hwake := NotifierStep.wake last hstage hlast
  have htake := reaches_takeAll (s := { s with stage := .taking last }) rfl
  have hdeliver := reaches_deliver
    (s := { s with notifier := s.notifier.takeAll, stage := .delivering last }) rfl
  refine Reaches.head hwake rfl (htake.trans (hdeliver.trans ?_))
  cases last with
  | false => exact Reaches.head (.rest rfl rfl) rfl (.refl _)
  | true => exact Reaches.head (.leave rfl rfl) rfl (.refl _)

/-- Whoever waits for the task can be answered. -/
def CanAnswer (s : NotifierThreads) : Prop := ∃ t k, Reaches s t ∧ t.answered = some k

theorem CanAnswer.of_reaches (h : Reaches s t) (hcan : CanAnswer t) : CanAnswer s := by
  obtain ⟨u, k, hreaches, hk⟩ := hcan
  exact ⟨u, k, h.trans hreaches, hk⟩

theorem canAnswer_of_ended (hstage : s.stage = .ended) (hasked : s.asked = true) :
    CanAnswer s := by
  cases hanswered : s.answered with
  | none =>
      exact ⟨_, s.count, Reaches.head (.answer hstage hasked hanswered) rfl (.refl _), rfl⟩
  | some k => exact ⟨s, k, .refl s, hanswered⟩

theorem canAnswer_of_waiting (hstage : s.stage = .waiting) (hasked : s.asked = true) :
    CanAnswer s := by
  refine CanAnswer.of_reaches (pass_of_run true hstage fun _ => hasked) ?_
  exact canAnswer_of_ended rfl hasked

theorem canAnswer_of_delivered {last : Bool} (hstage : s.stage = .delivering last)
    (htaken : s.notifier.taken = []) (hasked : s.asked = true) : CanAnswer s := by
  cases last with
  | true =>
      refine CanAnswer.of_reaches (Reaches.head (.leave hstage htaken) rfl (.refl _)) ?_
      exact canAnswer_of_ended rfl hasked
  | false =>
      refine CanAnswer.of_reaches (Reaches.head (.rest hstage htaken) rfl (.refl _)) ?_
      exact canAnswer_of_waiting rfl hasked

theorem canAnswer_of_delivering {last : Bool} (hstage : s.stage = .delivering last)
    (hasked : s.asked = true) : CanAnswer s := by
  refine CanAnswer.of_reaches (reaches_deliver hstage) ?_
  exact canAnswer_of_delivered hstage rfl hasked

/-- Whatever the task is doing when it is asked to finish, it can come to its end. -/
theorem canAnswer (hasked : s.asked = true) : CanAnswer s := by
  cases hstage : s.stage with
  | waiting => exact canAnswer_of_waiting hstage hasked
  | taking last =>
      refine CanAnswer.of_reaches (reaches_takeAll hstage) ?_
      exact canAnswer_of_delivering rfl hasked
  | delivering last => exact canAnswer_of_delivering hstage hasked
  | ended => exact canAnswer_of_ended hstage hasked

theorem Notifier.finish_eq (b : Notifier) :
    (b.finish fun _ => false) = (b.pass.delivered, b.pass.delivered.length, b.pass.queue) := by
  unfold Notifier.finish Notifier.pass Notifier.deliver
  dsimp only
  rw [if_neg (by simp), List.takeWhile_eq_self_iff.2 (by simp)]

/-- **The end of a notifier that nobody interrupts**: the consumer has received all that was queued,
and whoever has asked is told how much that was in all. -/
theorem finish_of_run (h : TaskFits es s) (hstage : s.stage = .waiting) (hasked : s.asked = true) :
    ∃ t, Reaches s t ∧ t.answered = some (s.notifier.finish fun _ => false).2.1 ∧
      t.notifier = s.notifier.pass := by
  obtain ⟨htaken, hnone⟩ := h.fits hstage
  have hanswer : NotifierStep (afterPass s true) (.answer _) _ := .answer rfl hasked hnone
  refine ⟨_, (pass_of_run true hstage fun _ => hasked).trans (Reaches.head hanswer rfl (.refl _)), ?_, rfl⟩
  have hcount : (afterPass s true).count = s.notifier.pass.delivered.length := by
    show s.count + s.notifier.takeAll.taken.length =
      (s.notifier.takeAll.delivered ++ s.notifier.takeAll.taken).length
    rw [h.count, List.length_append, Notifier.takeAll_eq]
  rw [Notifier.finish_eq, ← hcount]

/-! ## What is no failure -/

theorem isIgnored_iff : e.isIgnored = true ↔ ∃ x, e = .emit x false ∧ x.type.isFailure = false := by
  cases e with
  | emit x kept => cases kept <;> simp [NotifierEvent.isIgnored]
  | _ => simp [NotifierEvent.isIgnored]

theorem eq_of_ignored (hignored : e.isIgnored = true) (hstep : NotifierStep s e t) : t = s := by
  obtain ⟨x, rfl, hfailure⟩ := isIgnored_iff.1 hignored
  cases hstep with
  | emit _ _ => rw [Notifier.offerFailure_of_ignored hfailure]

theorem step_of_ignored (hignored : e.isIgnored = true) (s : NotifierThreads) :
    NotifierStep s e s := by
  obtain ⟨x, rfl, hfailure⟩ := isIgnored_iff.1 hignored
  have hstep : NotifierStep s (.emit x false) _ := .emit x (by rw [hfailure, Bool.false_and])
  rwa [Notifier.offerFailure_of_ignored hfailure] at hstep

/-- Events that are no failures can come anywhere, and nothing depends on them. -/
theorem run_filter_iff :
    Run NotifierStep s (es.filter fun e => !e.isIgnored) t ↔ Run NotifierStep s es t := by
  induction es using List.reverseRecOn generalizing t with
  | nil => exact Iff.rfl
  | append_singleton es e ih =>
      rw [List.filter_append]
      cases hignored : e.isIgnored with
      | true =>
          rw [List.filter_cons_of_neg (by simp [hignored]), List.filter_nil, List.append_nil, ih]
          constructor
          · exact fun h => h.snoc (step_of_ignored hignored t)
          · intro h
            obtain ⟨m, hrun, hstep⟩ := h.cases_snoc
            rwa [eq_of_ignored hignored hstep]
      | false =>
          rw [List.filter_cons_of_pos (by simp [hignored]), List.filter_nil]
          constructor
          · intro h
            obtain ⟨m, hrun, hstep⟩ := h.cases_snoc
            exact (ih.1 hrun).snoc hstep
          · intro h
            obtain ⟨m, hrun, hstep⟩ := h.cases_snoc
            exact (ih.2 hrun).snoc hstep

/-! ## The whole -/

/-- What a queue for failures, and the notifier that empties it, make of a row of events. -/
structure KeepsFailures (n : Nat) (q : EventQueue) (es : List NotifierEvent)
    (s : NotifierThreads) : Prop where
  /-- A failure is dropped only while there are as many in the queue as it can hold: failures that
  were not dropped, and that the consumer has not received. -/
  dropped : ∀ front x back, es = front ++ .emit x false :: back → x.type.isFailure = true →
    ∃ m, Run NotifierStep { notifier := { queue := q } } front m ∧
      m.notifier.queue.items.length = n ∧
      (∀ y ∈ m.notifier.queue.items, y.type.isFailure = true) ∧
      kept front = m.notifier.delivered ++ m.notifier.taken ++ m.notifier.queue.items
  /-- What was not dropped has been received, is in hand, or is queued, each event once and all of
  them in the order in which they were reported. -/
  conserved : kept es = s.notifier.delivered ++ s.notifier.taken ++ s.notifier.queue.items
  received : es.filterMap NotifierEvent.received? = s.notifier.delivered
  /-- Whoever has asked the task to finish is told how many events the consumer has received. By then
  it has received all that was kept before the task was asked, and nothing is in hand. -/
  answered : ∀ k, s.answered = some k → k = s.notifier.delivered.length ∧
    s.notifier.taken = [] ∧
    ∀ front back, es = front ++ .finish :: back → kept front <+: s.notifier.delivered
  /-- Once the task was asked to finish, it can come to its end, whatever it is doing. -/
  canAnswer : s.asked = true → CanAnswer s
  /-- The counters tell what was kept, what was taken out, and what was dropped. -/
  pushed : s.notifier.queue.pushed = (kept es).length
  popped : s.notifier.queue.popped = (s.notifier.delivered ++ s.notifier.taken).length
  refused : s.notifier.queue.dropped = (es.filterMap NotifierEvent.dropped?).length
  /-- The same comes out if events that are no failures come anywhere else, or not at all. -/
  ignored : ∀ es', (es'.filter fun e => !e.isIgnored) = (es.filter fun e => !e.isIgnored) →
    Run NotifierStep { notifier := { queue := q } } es' s

/-- **Failures are not crowded out, and none is delivered twice**, however the threads that report
events and the task of the notifier take turns. -/
theorem keepsFailures (hq : EventQueue.new? n = some q)
    (h : Run NotifierStep { notifier := { queue := q } } es s) : KeepsFailures n q es s := by
  have hcontents := contentsFit hq h
  have htask := taskFits hq h
  constructor
  case dropped =>
    rintro front x back rfl hfailure
    obtain ⟨m, m', hfront, hstep⟩ := h.split
    have hbefore := contentsFit hq hfront
    refine ⟨m, hfront, ?_, fun y hy => ?_, hbefore.conserved⟩
    · have hfull : m.notifier.queue.isFull = true := by
        cases hstep with
        | emit _ hkept => simpa [hfailure] using hkept
      rw [EventQueue.isFull_iff, hbefore.capacity] at hfull
      exact Nat.le_antisymm hbefore.bounded hfull
    · refine hbefore.failures y ?_
      rw [hbefore.conserved]
      exact List.mem_append_right _ hy
  case conserved => exact hcontents.conserved
  case received => exact received_eq h
  case answered =>
    intro k hk
    cases hstage : s.stage with
    | waiting =>
        rw [(htask.fits hstage).2] at hk
        cases hk
    | taking last =>
        rw [(htask.fits hstage).2] at hk
        cases hk
    | delivering last =>
        rw [(htask.fits hstage).2] at hk
        cases hk
    | ended =>
        obtain ⟨htaken, -, hearly, hcount⟩ := htask.fits hstage
        refine ⟨(hcount k hk).trans htask.count, htaken, fun front back hes => ?_⟩
        have hprefix := hearly front back hes
        rwa [htaken, List.append_nil] at hprefix
  case canAnswer => exact RuleEngine.canAnswer
  case pushed => exact hcontents.pushed
  case popped => exact hcontents.popped
  case refused => exact hcontents.dropped
  case ignored =>
    intro es' hes'
    rw [← run_filter_iff, hes', run_filter_iff]
    exact h

/-- A queue for one failure drops the second of two, and takes the third when the first is out. The
task is asked to finish while it has both in hand. -/
theorem keepsFailures_of_three : ∃ (a b c d : Event) (es : List NotifierEvent) (s : NotifierThreads),
    Run NotifierStep { notifier := { queue := { capacity := 1 } } } es s ∧
      KeepsFailures 1 { capacity := 1 } es s ∧
      es = [.emit a true, .emit b false, .emit c false, .wake false, .take a, .emit d true, .take d,
        .empty, .deliver a, .finish, .deliver d, .rest, .wake true, .empty, .leave, .answer 2] ∧
      s.notifier.delivered = [a, d] ∧ s.answered = some 2 := by
  let event (type : EventType) (text : String) : Event := ⟨"s", type, .str text⟩
  let a := event .actionFailed "a"
  let b := event .actionFailed "b"
  let c := event .tickCompleted "c"
  let d := event .criticalFailure "d"
  have hq : EventQueue.new? 1 = some { capacity := 1 } := rfl
  have h0 : Run NotifierStep { notifier := { queue := { capacity := 1 } } } [] _ := .nil
  have h1 := (h0.snoc (e := .emit a true) (.emit a rfl)).snoc (e := .emit b false) (.emit b rfl)
  have h2 := (h1.snoc (e := .emit c false) (.emit c rfl)).snoc (.wake false rfl (by decide))
  have h3 := (h2.snoc (e := .take a) (.take rfl rfl)).snoc (e := .emit d true) (.emit d rfl)
  have h4 := (h3.snoc (e := .take d) (.take rfl rfl)).snoc (.empty rfl rfl)
  have h5 := (h4.snoc (e := .deliver a) (.deliver rfl rfl)).snoc (.finish rfl)
  have h6 := (h5.snoc (e := .deliver d) (.deliver rfl rfl)).snoc (.rest rfl rfl)
  have h7 := (h6.snoc (.wake true rfl (fun _ => rfl))).snoc (.empty rfl rfl)
  have h8 := (h7.snoc (.leave rfl rfl)).snoc (e := .answer 2) (.answer rfl rfl rfl)
  refine ⟨a, b, c, d, _, _, h8, keepsFailures hq h8, ?_, rfl, rfl⟩
  simp only [List.nil_append, List.cons_append]

end RuleEngine
