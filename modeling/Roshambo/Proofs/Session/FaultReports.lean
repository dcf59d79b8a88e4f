import Mathlib.Algebra.GroupWithZero.Nat
import Mathlib.Logic.ExistsUnique
import Roshambo.Proofs.Console.Failures
import Roshambo.Proofs.Game.Choosing
import Roshambo.Proofs.Session.Steps

/-! # What a session reports of its faults

A session goes on behind a step that failed, so several faults can be met in one session: failed
reads where the script has them, a full device, and the one flush that is to fail. The account of
every step (`Accounted`) says that a fault is reported for one of these reasons and that a failed
read or flush is reported by the step that met it. Put together, the steps take the input in its
order, and so they report its failed reads in that order, each of them once (`faults_accounted`).
-/

namespace Roshambo

namespace Report

def fault? (report : Report) : Option Fault :=
  match report.result with
  | .error (.io fault) => some fault
  | _ => none

/-- The fault that is reported by a step that took a failed read. -/
def readFault? (report : Report) (taken : List Event) : Option Fault :=
  if failures taken = [] then none else report.fault?

/-- The faults that are reported by the steps that took a failed read, one after the other. -/
def readFaults (reports : List Report) (takings : List (List Event)) : List Fault :=
  (List.zipWith readFault? reports takings).filterMap id

def flushCount (reports : List Report) : Nat := (reports.map flushes).sum

theorem flushCount_cons (report : Report) (reports : List Report) :
    flushCount (report :: reports) = report.flushes + flushCount reports := List.sum_cons

theorem flushCount_append (first second : List Report) :
    flushCount (first ++ second) = flushCount first + flushCount second := by
  rw [flushCount, List.map_append, List.sum_append]
  rfl

private theorem written_append (first second : List Report) :
    written (first ++ second) = written first ++ written second := List.flatMap_append

/-- Whether a step makes the flush of a number, given how many there were before the session, and
the reports on the steps before. -/
def MakesFlush (origin : Nat) (earlier : List Report) (report : Report) (place : Nat) : Prop :=
  origin + flushCount earlier < place ∧ place ≤ origin + flushCount (earlier ++ [report])

/-- Whether a step makes the flush that is to fail. -/
def MakesFailingFlush (origin : Device) (earlier : List Report) (report : Report)
    (fault : Fault) : Prop :=
  ∃ place, origin.flushFault = some (place, fault) ∧
    MakesFlush origin.flushes earlier report place

/-- Why a step reports a fault: exactly one of a failed read, a full device and the failing flush,
whichever it met last. -/
inductive Cause (origin : Device) (earlier : List Report) (report : Report)
    (taken : List Event) : Fault → Prop
  | read {front : List Event} {fault : Fault} (last : taken = front ++ [.fault fault])
      (smooth : failures front = []) (lasting : fault.isInterrupted = false)
      (noFlush : ∀ other, ¬ MakesFailingFlush origin earlier report other) :
      Cause origin earlier report taken fault
  | full {limit : Limit} (present : limit ∈ origin.limit)
      (full : (written (earlier ++ [report])).length = limit.room) (smooth : failures taken = [])
      (noFlush : ∀ other, ¬ MakesFailingFlush origin earlier report other) :
      Cause origin earlier report taken
        (limit.fault.getD ⟨.writeZero, some "failed to write whole buffer"⟩)
  | flush {fault : Fault} (made : 0 < report.flushes)
      (planned : origin.flushFault =
        some (origin.flushes + flushCount (earlier ++ [report]), fault))
      (smooth : failures taken = []) : Cause origin earlier report taken fault

/-- The account of one step: a fault that it reports has a cause, and a failed read or flush that it
meets is reported. -/
structure Accounted (origin : Device) (earlier : List Report) (report : Report)
    (taken : List Event) : Prop where
  caused : ∀ fault, report.result = .error (.io fault) → Cause origin earlier report taken fault
  read : ∀ fault, .fault fault ∈ taken → fault.isInterrupted = false →
    failures taken = [fault] ∧ report.result = .error (.io fault)
  flush : ∀ fault, MakesFailingFlush origin earlier report fault →
    report.result = .error (.io fault)

theorem flushCount_concat (earlier : List Report) (report : Report) :
    flushCount (earlier ++ [report]) = flushCount earlier + report.flushes := by
  rw [flushCount_append]
  exact congrArg _ (Nat.add_zero _)

theorem written_concat (earlier : List Report) (report : Report) :
    written (earlier ++ [report]) = written earlier ++ report.output := by
  rw [written_append]
  exact congrArg _ (List.append_nil _)

/-- Of the flushes of a session each is made in exactly one step. -/
theorem existsUnique_makesFlush (reports : List Report) {origin place : Nat}
    (late : origin < place) (early : place ≤ origin + flushCount reports) :
    ∃! index, ∃ report, reports[index]? = some report ∧
      MakesFlush origin (reports.take index) report place := by
  induction reports generalizing origin with
  | nil => exact absurd early (Nat.not_le.mpr late)
  | cons report reports ih =>
    rw [flushCount_cons] at early
    have none : flushCount [] = 0 := rfl
    by_cases here : place ≤ origin + report.flushes
    · refine ⟨0, ⟨report, rfl, ?_, ?_⟩, ?_⟩
      · exact late
      · rw [List.take_zero, flushCount_concat, none]
        omega
      · rintro (_ | index) ⟨other, _, after, _⟩
        · rfl
        · rw [List.take_succ_cons, flushCount_cons] at after
          omega
    · obtain ⟨index, ⟨found, isFound, after, before⟩, only⟩ :=
        @ih (origin + report.flushes) (by omega) (by omega)
      have shift (index : Nat) (found : Report) :
          MakesFlush origin ((report :: reports).take (index + 1)) found place ↔
            MakesFlush (origin + report.flushes) (reports.take index) found place := by
        rw [List.take_succ_cons, MakesFlush, MakesFlush, List.cons_append, flushCount_cons,
          flushCount_cons]
        omega
      refine ⟨index + 1, ⟨found, isFound, (shift index found).mpr ⟨after, before⟩⟩, ?_⟩
      rintro (_ | other) ⟨second, isSecond, makes⟩
      · cases isSecond
        have early := makes.2
        rw [List.take_zero, flushCount_concat, none] at early
        omega
      · exact congrArg (· + 1) (only other ⟨second, isSecond, (shift other second).mp makes⟩)

/-- Only a flush that the session comes to is made in a step. -/
theorem MakesFlush.bounds {origin index place : Nat} {reports : List Report} {report : Report}
    (within : reports[index]? = some report)
    (makes : MakesFlush origin (reports.take index) report place) :
    origin < place ∧ place ≤ origin + flushCount reports := by
  have whole : reports = reports.take (index + 1) ++ reports.drop (index + 1) :=
    (List.take_append_drop (index + 1) reports).symm
  have next : reports.take (index + 1) = reports.take index ++ [report] := by
    rw [List.take_add_one, within]
    rfl
  have total := congrArg flushCount whole
  rw [next, flushCount_append] at total
  obtain ⟨late, early⟩ := makes
  omega

section Behind

variable {origin before : Device} {earlier : List Report} {report : Report} {taken : List Event}

/-- Which flush is the failing one may be counted from any step. -/
theorem makesFailingFlush_behind
    (spent : origin.Spent (written earlier).length (flushCount earlier) before) (fault : Fault) :
    MakesFailingFlush origin earlier report fault ↔ MakesFailingFlush before [] report fault := by
  unfold MakesFailingFlush MakesFlush
  rw [spent.flushFault, spent.flushes, flushCount_concat, flushCount_concat]
  have none : flushCount [] = 0 := rfl
  simp only [none, Nat.zero_add, Nat.add_zero, Nat.add_assoc]

/-- The account of a step is a part of the account of the session. -/
theorem Accounted.behind
    (spent : origin.Spent (written earlier).length (flushCount earlier) before)
    (alone : Accounted before [] report taken) : Accounted origin earlier report taken where
  caused := by
    intro fault failed
    cases alone.caused fault failed with
    | read last smooth lasting noFlush =>
      refine .read last smooth lasting fun other makes => ?_
      exact noFlush other ((makesFailingFlush_behind spent other).mp makes)
    | @full left present full smooth noFlush =>
      rw [spent.limit] at present
      obtain ⟨limit, member, rfl⟩ := Option.map_eq_some_iff.mp present
      have room := spent.room limit member
      have whole : (written (earlier ++ [report])).length = limit.room := by
        rw [written_concat, List.length_append] at full ⊢
        have none : (written []).length = 0 := rfl
        have left : (limit.spend (written earlier).length).room =
          limit.room - (written earlier).length := rfl
        omega
      have cause := Cause.full (Option.mem_def.mpr member) whole smooth fun other makes =>
        noFlush other ((makesFailingFlush_behind spent other).mp makes)
      exact cause
    | flush made planned smooth =>
      refine .flush made ?_ smooth
      rw [spent.flushFault, spent.flushes, flushCount_concat] at planned
      rw [planned, flushCount_concat]
      have none : flushCount [] = 0 := rfl
      rw [none, Nat.zero_add, Nat.add_assoc]
  read := alone.read
  flush fault makes := alone.flush fault ((makesFailingFlush_behind spent fault).mp makes)

/-- The failed reads that a step took are the one that it reports as such, or none. -/
theorem Accounted.failures_eq (account : Accounted origin earlier report taken) :
    failures taken = (report.readFault? taken).toList := by
  rw [readFault?]
  split
  · next clean => exact clean
  · next met =>
    obtain ⟨fault, within⟩ := List.exists_mem_of_ne_nil _ met
    obtain ⟨happened, lasting⟩ := mem_failures.mp within
    obtain ⟨one, failed⟩ := account.read fault happened lasting
    rw [one, fault?, failed]
    rfl

/-- A step that reports no fault has met none. -/
theorem Accounted.clean (account : Accounted origin earlier report taken)
    (silent : report.fault? = none) :
    failures taken = [] ∧ ∀ fault, ¬ MakesFailingFlush origin earlier report fault := by
  refine ⟨?_, fun fault makes => ?_⟩
  · rw [account.failures_eq, readFault?, silent, ite_self]
    rfl
  · rw [fault?, account.flush fault makes] at silent
    cases silent

/-- An interruption is reported only of a flush: a read is tried again, and a full device does not
interrupt. -/
theorem Accounted.interrupted (account : Accounted origin earlier report taken) {fault : Fault}
    (failed : report.result = .error (.io fault)) (interrupted : fault.isInterrupted = true) :
    MakesFailingFlush origin earlier report fault := by
  cases account.caused fault failed with
  | read _ _ lasting =>
    rw [lasting] at interrupted
    cases interrupted
  | @full limit =>
    have never := limit.not_interrupted
    cases reason : limit.fault with
    | none =>
      rw [reason] at interrupted
      cases interrupted
    | some other =>
      rw [reason] at interrupted never
      simp only [Option.getD_some] at interrupted
      simp only [Option.all_some, interrupted, Bool.not_true, Bool.false_eq_true] at never
  | flush made planned =>
    refine ⟨_, planned, ?_, Nat.le_refl _⟩
    rw [flushCount_concat]
    omega

end Behind

end Report

namespace Session

def taken (session : Session) (next : Step) : List Event :=
  session.console.input.trace.take
    (session.console.input.trace.length - (session.step next).2.console.input.trace.length)

def takings (session : Session) : List Step → List (List Event)
  | [] => []
  | next :: steps => session.taken next :: takings (session.step next).2 steps

section Step

variable {session : Session}

/-- The account that a step gives as a composed action, read off its report. -/
theorem step_ends (moves : session.console.device.Moves) (next : Step) :
    ∃ lines, Went session.cleared.console (session.step next).1.output
        (session.step next).1.flushes lines (session.step next).2.console ∧
      Ends session.cleared.console (session.step next).1.output (session.step next).1.flushes lines
        (session.step next).1.result := by
  obtain ⟨written, flushes, lines, went, ends⟩ :=
    (next.composed_action session.settings session.opponent).accounts session.cleared.console moves
  have output : (session.step next).1.output = written :=
    (output_step session next).trans went.output
  have flushed : (session.step next).1.flushes = flushes := by
    rw [step_eq]
    exact Nat.sub_eq_of_eq_add' went.device.flushes
  rw [output, flushed, step_eq]
  exact ⟨lines, went, ends⟩

/-- What a step takes is the front of the input. -/
theorem taken_eq {next : Step} {piece : List Event} (front : session.console.input.trace =
      piece ++ (session.step next).2.console.input.trace) : session.taken next = piece := by
  rw [taken, front, List.length_append, Nat.add_sub_cancel, List.take_left]

theorem taken_of_smooth {next : Step} {lines : Nat}
    (input : (session.step next).2.console.input = session.console.input.after lines)
    (smooth : session.console.input.Smooth lines) :
    session.console.input.trace =
        session.taken next ++ (session.step next).2.console.input.trace ∧
      failures (session.taken next) = [] := by
  obtain ⟨piece, whole, clean⟩ := Script.exists_trace_of_smooth smooth
  rw [← input] at whole
  rw [taken_eq whole]
  exact ⟨whole, clean⟩

theorem taken_of_failure {next : Step} {count : Nat} {fault : Fault}
    (input : (session.step next).2.console.input = session.console.input.after (count + 1))
    (smooth : session.console.input.Smooth count)
    (failed : session.console.input.line count = .error fault) :
    session.console.input.trace =
        session.taken next ++ (session.step next).2.console.input.trace ∧
      ∃ front, session.taken next = front ++ [.fault fault] ∧ failures front = [] ∧
        fault.isInterrupted = false := by
  obtain ⟨front, whole, clean, lasting⟩ := Script.exists_trace_of_failure smooth failed
  rw [← input] at whole
  rw [taken_eq whole]
  exact ⟨whole, front, rfl, clean, lasting⟩

theorem step_trace (moves : session.console.device.Moves) (next : Step) :
    session.console.input.trace =
      session.taken next ++ (session.step next).2.console.input.trace := by
  obtain ⟨lines, went, ends⟩ := step_ends moves next
  generalize (session.step next).1.result = result at ends
  cases ends with
  | undisturbed _ smooth => exact (taken_of_smooth went.input smooth).1
  | write _ _ smooth => exact (taken_of_smooth went.input smooth).1
  | flush _ _ smooth => exact (taken_of_smooth went.input smooth).1
  | read last smooth failed =>
    subst last
    exact (taken_of_failure went.input smooth failed).1

/-- A step whose flushes are steady does not make the failing one. -/
theorem not_makesFailingFlush {report : Report}
    (steady : session.console.device.Steady report.flushes) (fault : Fault) :
    ¬ Report.MakesFailingFlush session.console.device [] report fault := by
  rintro ⟨place, planned, late, early⟩
  have apart := steady place fault planned
  rw [Report.flushCount_concat] at early
  have none : Report.flushCount [] = 0 := rfl
  omega

/-- A step can be accounted for by itself. -/
theorem step_accounted (moves : session.console.device.Moves) (next : Step) :
    Report.Accounted session.console.device [] (session.step next).1 (session.taken next) where
  caused := by
    intro fault failed
    obtain ⟨lines, went, ends⟩ := step_ends moves next
    rw [failed] at ends
    cases ends with
    | undisturbed own => exact absurd rfl (own fault)
    | read last smooth unread steady =>
      subst last
      obtain ⟨_, front, whole, clean, lasting⟩ := taken_of_failure went.input smooth unread
      exact .read whole clean lasting (not_makesFailingFlush steady)
    | write present full smooth steady =>
      refine .full present ?_ (taken_of_smooth went.input smooth).2 (not_makesFailingFlush steady)
      rw [Report.written_concat]
      exact full
    | flush made planned smooth =>
      refine .flush made ?_ (taken_of_smooth went.input smooth).2
      rw [Report.flushCount_concat]
      exact planned.trans (by rw [show Report.flushCount [] = 0 from rfl, Nat.zero_add]; rfl)
  read := by
    intro fault happened lasting
    have within := mem_failures.mpr ⟨happened, lasting⟩
    obtain ⟨lines, went, ends⟩ := step_ends moves next
    generalize (session.step next).1.result = result at ends ⊢
    have clean (smooth : session.console.input.Smooth lines) : False := by
      rw [(taken_of_smooth went.input smooth).2] at within
      exact List.not_mem_nil within
    cases ends with
    | undisturbed _ smooth => exact (clean smooth).elim
    | write _ _ smooth => exact (clean smooth).elim
    | flush _ _ smooth => exact (clean smooth).elim
    | read last smooth unread =>
      subst last
      obtain ⟨_, front, whole, noOther, lasts⟩ := taken_of_failure went.input smooth unread
      rw [whole, failures_append, noOther, failures_fault lasts] at within ⊢
      cases List.mem_singleton.mp within
      exact ⟨rfl, rfl⟩
  flush := by
    intro fault makes
    obtain ⟨lines, went, ends⟩ := step_ends moves next
    generalize (session.step next).1.result = result at ends ⊢
    cases ends with
    | undisturbed _ _ steady => exact (not_makesFailingFlush steady fault makes).elim
    | read _ _ _ steady => exact (not_makesFailingFlush steady fault makes).elim
    | write _ _ _ steady => exact (not_makesFailingFlush steady fault makes).elim
    | flush _ planned =>
      obtain ⟨place, other, _⟩ := makes
      cases planned.symm.trans other
      rfl

/-- What a step uses up of the device is what it reports. -/
theorem step_spent (moves : session.console.device.Moves) (next : Step) :
    session.console.device.Spent (session.step next).1.output.length
      (session.step next).1.flushes (session.step next).2.console.device := by
  obtain ⟨lines, went, _⟩ := step_ends moves next
  exact ⟨went.device.room, went.device.limit, went.device.chunk, went.device.flushFault,
    went.device.flushes⟩

end Step

/-- What some steps use up of the device is what they report together. -/
theorem after_spent {session : Session} (moves : session.console.device.Moves)
    (steps : List Step) :
    session.console.device.Spent (Report.written (session.reports steps)).length
      (Report.flushCount (session.reports steps)) (session.after steps).console.device := by
  induction steps generalizing session with
  | nil => exact Device.spent_none _ 0
  | cons next steps ih =>
    have first := step_spent moves next
    rw [reports_cons, Report.written_cons, List.length_append, Report.flushCount_cons]
    exact first.trans (ih (first.moves moves))

theorem takings_getElem? (session : Session) (steps : List Step) (index : Nat) :
    (session.takings steps)[index]? =
      steps[index]?.map fun next => (session.after (steps.take index)).taken next := by
  induction steps generalizing session index with
  | nil => rfl
  | cons next steps ih =>
    cases index with
    | zero => rfl
    | succ index => exact ih (session.step next).2 index

private theorem take_reports (session : Session) (steps : List Step) (count : Nat) :
    (session.reports steps).take count = session.reports (steps.take count) := by
  induction steps generalizing session count with
  | nil => rw [List.take_nil, reports, run, List.map_nil, List.take_nil]
  | cons next steps ih =>
    cases count with
    | zero => rfl
    | succ count => exact congrArg (_ :: ·) (ih (session.step next).2 count)

/-- Every step of a session can be accounted for. -/
theorem accounted {session : Session} (moves : session.console.device.Moves) {steps : List Step}
    {index : Nat} {report : Report} {taken : List Event}
    (reported : (session.reports steps)[index]? = some report)
    (took : (session.takings steps)[index]? = some taken) :
    Report.Accounted session.console.device ((session.reports steps).take index) report taken := by
  rw [reports_getElem?] at reported
  rw [takings_getElem?] at took
  obtain ⟨next, here, rfl⟩ := Option.map_eq_some_iff.mp reported
  rw [here] at took
  cases took
  have spent := after_spent moves (steps.take index)
  rw [take_reports]
  exact (step_accounted (spent.moves moves) next).behind spent

/-- The steps take the input from front to back. -/
private theorem takings_trace {session : Session} (moves : session.console.device.Moves)
    (steps : List Step) :
    session.console.input.trace =
      (session.takings steps).flatten ++ (session.after steps).console.input.trace := by
  induction steps generalizing session with
  | nil => rfl
  | cons next steps ih =>
    rw [takings, List.flatten_cons, List.append_assoc, step_trace moves next]
    exact congrArg (session.taken next ++ ·) (ih ((step_spent moves next).moves moves))

/-- The failed reads that the steps take are those that are reported, in the order of the steps. -/
theorem failures_takings {session : Session} (moves : session.console.device.Moves)
    (steps : List Step) :
    failures (session.takings steps).flatten =
      Report.readFaults (session.reports steps) (session.takings steps) := by
  induction steps generalizing session with
  | nil => rfl
  | cons next steps ih =>
    rw [takings, List.flatten_cons, failures_append, (step_accounted moves next).failures_eq,
      ih ((step_spent moves next).moves moves), reports_cons, Report.readFaults, Report.readFaults,
      List.zipWith_cons_cons, List.filterMap_cons]
    cases (session.step next).1.readFault? (session.taken next) <;> rfl

/-- A step asks for a move where none is to come: behind rejected lines the input is closed, and the
step takes nothing behind that. -/
def FindsClosed (session : Session) (next : Step) : Prop :=
  (next = .readMove ∨ next = .run) ∧ ∃ count,
    (∀ place < count, Action.verdict? (session.console.input.line place) = none) ∧
      session.console.input.line count = .ok [] ∧
      (session.step next).2.console.input = session.console.input.after (count + 1)

theorem step_closed {session : Session} {next : Step}
    (closed : (session.step next).1.result = .error .inputClosed) : session.FindsClosed next := by
  have ended {α : Type} {action : Action α} {answer : α → Answer}
      (same : (Step.answering action answer session.cleared.console).1 = .error .inputClosed) :
      (action session.cleared.console).1 = .error .inputClosed := by
    rw [Step.answering_apply] at same
    cases result : (action session.cleared.console).1 with
    | ok value => rw [result] at same; cases same
    | error error => rw [result] at same; cases same; rfl
  rw [FindsClosed, step_eq]
  rw [step_eq] at closed
  cases next with
  | welcome => exact absurd (ended closed) (Action.neverCloses_print _ _)
  | announce round => exact absurd (ended closed) (Action.neverCloses_print _ _)
  | waitForClose => exact absurd (ended closed) (Action.neverCloses_waitForClose _ _)
  | readMove =>
    have course := Action.readMove_course session.settings session.cleared.console
    rw [show (Action.readMove session.settings session.cleared.console).1 = _ from ended closed]
      at course
    rw [act, Step.action, Step.answering_apply]
    exact ⟨.inl rfl, course.closed⟩
  | run =>
    have course := Action.play_closed (ended closed)
    rw [act, Step.action, Step.answering_apply]
    exact ⟨.inr rfl, course.closed⟩

/-- Over a whole session a fault is reported only by a step that met it, and every failed read or
flush by the step that met it. -/
theorem faults_accounted (session : Session) (steps : List Step)
    (moves : session.console.device.Moves) :
    let device := session.console.device
    let reports := session.reports steps
    let takings := session.takings steps
    (∀ index report taken, reports[index]? = some report → takings[index]? = some taken →
      Report.Accounted device (reports.take index) report taken ∧
        (report.fault? = none → failures taken = [] ∧
          ∀ fault, ¬ Report.MakesFailingFlush device (reports.take index) report fault) ∧
        -- An interrupted read is tried again, so an interruption can only be that of a flush.
        ∀ fault, report.result = .error (.io fault) → fault.isInterrupted = true →
          Report.MakesFailingFlush device (reports.take index) report fault) ∧
      -- The steps take the input in its order, and what fails in it is reported in that order.
      session.console.input.trace = takings.flatten ++ (session.after steps).console.input.trace ∧
      failures takings.flatten = Report.readFaults reports takings ∧
      (∀ place fault, device.flushFault = some (place, fault) →
        if device.flushes < place ∧ place ≤ device.flushes + Report.flushCount reports then
          ∃! index, ∃ report, reports[index]? = some report ∧
            report.result = .error (.io fault) ∧
            Report.MakesFlush device.flushes (reports.take index) report place
        else
          ∀ index report, reports[index]? = some report →
            ¬ Report.MakesFlush device.flushes (reports.take index) report place) ∧
      ∀ index next, steps[index]? = some next →
        ((session.after (steps.take index)).step next).1.result = .error .inputClosed →
          (session.after (steps.take index)).FindsClosed next := by
  intro device reports takings
  have took {index : Nat} {report : Report} (reported : reports[index]? = some report) :
      ∃ taken, takings[index]? = some taken := by
    obtain ⟨next, here, _⟩ := Option.map_eq_some_iff.mp
      ((reports_getElem? session steps index).symm.trans reported)
    exact ⟨_, by rw [takings_getElem?, here]; rfl⟩
  refine ⟨?_, takings_trace moves steps, failures_takings moves steps, ?_, ?_⟩
  · intro index report taken reported took
    have account := accounted moves reported took
    exact ⟨account, account.clean, fun fault => account.interrupted⟩
  · intro place fault planned
    split
    · next reached =>
      obtain ⟨index, ⟨report, reported, makes⟩, only⟩ :=
        Report.existsUnique_makesFlush reports reached.1 reached.2
      obtain ⟨taken, took⟩ := took reported
      have failed := (accounted moves reported took).flush fault ⟨place, planned, makes⟩
      refine ⟨index, ⟨report, reported, failed, makes⟩, ?_⟩
      rintro other ⟨second, isSecond, _, alsoMakes⟩
      exact only other ⟨second, isSecond, alsoMakes⟩
    · next unreached =>
      intro index report reported makes
      exact unreached (Report.MakesFlush.bounds reported makes)
  · intro index next _ closed
    exact step_closed closed

/-- A read fails behind a rejected line, then the flush of the next prompt, and then the device is
full; the interruption before is not reported. -/
theorem faults_accounted_threefold :
    let script : Script := [.bytes [120, 10], .fault ⟨.interrupted, none⟩, .fault ⟨.timedOut, none⟩]
    let device : Device := ⟨some 7, some ⟨200, none, rfl⟩, some (3, ⟨.brokenPipe, none⟩), 0, []⟩
    let session : Session := ⟨.standard, .always .rock, script, device, []⟩
    let steps : List Step := [.readMove, .waitForClose, .welcome]
    device.Moves ∧
      Report.readFaults (session.reports steps) (session.takings steps) = [⟨.timedOut, none⟩] ∧
      (session.reports steps).map Report.fault? =
        [some ⟨.timedOut, none⟩, some ⟨.brokenPipe, none⟩, some .nothingWritten] ∧
      ∃! index, ∃ report, (session.reports steps)[index]? = some report ∧
        report.result = .error (.io ⟨.brokenPipe, none⟩) ∧
        Report.MakesFlush 0 ((session.reports steps).take index) report 3 := by
  intro script device session steps
  have moves : device.Moves := by unfold Device.Moves; decide
  obtain ⟨_, _, reads, flushed, _⟩ := faults_accounted session steps moves
  have failed : failures (session.takings steps).flatten = [⟨.timedOut, none⟩] := by
    decide +kernel
  have reported : (session.reports steps).map Report.fault? =
      [some ⟨.timedOut, none⟩, some ⟨.brokenPipe, none⟩, some .nothingWritten] := by
    decide +kernel
  have reached : device.flushes < 3 ∧
      3 ≤ device.flushes + Report.flushCount (session.reports steps) := by decide +kernel
  have once := flushed 3 ⟨.brokenPipe, none⟩ rfl
  rw [if_pos reached] at once
  exact ⟨moves, reads.symm.trans failed, reported, once⟩

end Session

end Roshambo
