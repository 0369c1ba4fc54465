import TaskQueue.Proofs.Client.Phases
import TaskQueue.Proofs.Json.Reading
import TaskQueue.Transport.Memory

/-!
# `TaskQueue.Proofs.Client.Reports`: what a handle makes of the reports of a worker

A worker may report several times on one task, also before the task has ended. A handle takes the
first report that it can read and keeps it. `Conduct.body_eq` says so of the calls that a handle
makes: its body is the one it had, or else the first that a call brought.

So what a handle says of its task is what that report says. `TaskState.Settled` are the states of
tasks that have ended and those of the application, and `TaskState.settled_ofStatus` names the four
statuses that lead to no such state. `Handle.Reports` puts together how the answers of a handle
depend on its body, and `Session.reports_of_run` says which body that is after any run.

`Session.reports_of_run_early` is a run in which a task that has only started is taken for one that
has failed.
-/

set_option autoImplicit false

namespace TaskQueue

namespace TaskState

/-- The task has ended, or its state is one of the application. -/
def Settled (s : TaskState) : Prop := s.isTerminal = true ∨ ∃ status, s = .custom status

/-- The statuses that a worker reports of a task that has not ended. -/
def interimStatuses : List String := ["PENDING", "RECEIVED", "STARTED", "RETRY"]

/-- All other statuses are those of a task that has ended, or of the application. -/
theorem settled_ofStatus {status : String} :
    (ofStatus status).Settled ↔ status ∉ interimStatuses := by
  simp only [interimStatuses, List.mem_cons, List.not_mem_nil, or_false, not_or, ofStatus]
  repeat' split
  all_goals simp_all [Settled, isTerminal, successStatus]

/-- Only one status leads to the state that a handle without a body is in. -/
theorem ofStatus_eq_pending {status : String} : ofStatus status = pending ↔ status = "PENDING" := by
  constructor
  · intro h
    rw [← text_ofStatus status, h]
    rfl
  · rintro rfl
    rfl

end TaskState

/-- The body that a handle ends with is the one it had, or else the first that a call brought. -/
theorem Conduct.body_eq {body body' : Option ResultBody} {calls : List Call}
    (h : Conduct body calls body') : body' = body.or (calls.findSome? Call.body?) := by
  cases h with
  | waiting hcalls => exact (List.findSome?_eq_none_iff.2 hcalls).symm
  | @resolved before after c b hbefore hc hafter =>
    exact (List.findSome?_eq_some_iff.2 ⟨before, c, after, rfl, hc, hbefore⟩).symm
  | known hcalls => rfl

namespace Handle

variable {κ β : Type}

/-- What a handle says of its task, and what it will say in any world when it is asked once more. -/
structure Reports (t : Transport κ β) (h : Handle κ) : Prop where
  state : ∀ b, h.body = some b →
    h.state = .ofStatus b.status ∧ (h.state.Settled ↔ b.status ∉ TaskState.interimStatuses)
  pending : h.state = .pending ↔ h.body = none ∨ ∃ b, h.body = some b ∧ b.status = "PENDING"
  ready : ∀ w, (h.isReady t w).1 = .ok true ↔ (h.isReady t w).2.1.body ≠ none
  failed : ∀ w, (h.failed t w).1 = .ok true ↔
    ∃ b, (h.failed t w).2.1.body = some b ∧ b.status ≠ "SUCCESS"

/-- A look says that the result is there if and only if the handle then has it. -/
theorem isReady_iff_body (t : Transport κ β) (h : Handle κ) (w : World β) :
    (h.isReady t w).1 = .ok true ↔ (h.isReady t w).2.1.body ≠ none := by
  cases hb : h.body with
  | none => exact isReady_body t h hb w
  | some b => simp [isReady_of_body t hb, hb]

/-- A task is taken for one that has failed if and only if the handle then has a report of
anything else than success. -/
theorem failed_iff_body (t : Transport κ β) (h : Handle κ) (w : World β) :
    (h.failed t w).1 = .ok true ↔
      ∃ b, (h.failed t w).2.1.body = some b ∧ b.status ≠ "SUCCESS" := by
  have hready := isReady_iff_body t h w
  unfold failed isReadyAnd
  rcases hr : h.isReady t w with ⟨e | _ | _, h', w'⟩
  · simp_all
  · simp_all
  · rw [hr] at hready
    obtain ⟨b, hb⟩ : ∃ b, h'.body = some b := Option.ne_none_iff_exists'.1 (hready.1 rfl)
    simp [cached, hb, Except.map, ResultBody.isSuccess, TaskState.successStatus]

/-- A handle reports what its body says, and a task without a body is pending. -/
theorem reports (t : Transport κ β) (h : Handle κ) : Reports t h where
  state b hb := by
    have hstate : h.state = .ofStatus b.status := by simp only [Handle.state, hb, ResultBody.state]
    exact ⟨hstate, by rw [hstate, TaskState.settled_ofStatus]⟩
  pending := by
    cases hb : h.body with
    | none => simp [Handle.state, hb]
    | some b => simp [Handle.state, hb, ResultBody.state, TaskState.ofStatus_eq_pending]
  ready := isReady_iff_body t h
  failed := failed_iff_body t h

end Handle

namespace Session

variable {κ β ε : Type}

/-- After any run of steps that are about one handle alone, the body of the handle is the one it
had, or else the first that a call brought, whatever status it reports; and the handle reports
what that body says. -/
theorem reports_of_run (t : Transport κ β) (react : ε → World β → World β)
    (s : Session κ (β × List Call)) (name : String) (h : Handle κ)
    (hs : s.handles.get? name = some h) (steps : List (Step ε))
    (ha : ∀ step ∈ steps, step.Alone name) :
    ∃ h' calls,
      (run t.watched (watchedReact react) s steps).2.handles.get? name = some h' ∧
      (run t.watched (watchedReact react) s steps).2.world.broker.2 =
        s.world.broker.2 ++ calls ∧
      h'.body = h.body.or (calls.findSome? Call.body?) ∧
      Handle.Reports t.watched h' := by
  obtain ⟨h', hs', -, calls, hlog, hconduct⟩ := keeps_run t react s ha h hs
  exact ⟨h', calls, hs', hlog, hconduct.body_eq, Handle.reports t.watched h'⟩

/-- A handle that keeps what it reads at the broker in memory. -/
def keeper : Handle Memory.Connector := .new ⟨"7f3a"⟩ "add" "(1, 2)" { keepMessages := true } .given

/-- The message with which a worker reports a status and nothing else. -/
def statusMessage (status : String) : ResultMessage :=
  .ofJsonText (Json.object [("status", .string status)]).text

/-- The worker reports a status. -/
def report (status : String) (w : World Memory.Broker) : World Memory.Broker :=
  w.setBroker (w.broker.put ⟨"7f3a"⟩ (statusMessage status) 0)

/-- The task starts, and is asked for; it succeeds, and is asked for again. -/
def earlySteps : List (Step String) :=
  [.outside "STARTED", .handle "sum" .isReady, .outside "SUCCESS", .handle "sum" .failed]

/-- A worker reports twice, and the handle keeps to the body that it fetched first. -/
theorem reports_of_run_kept :
    (∀ step ∈ earlySteps, step.Alone "sum") ∧
      ∃ h' calls,
        (run Memory.transport.watched (watchedReact report)
            ⟨.start ({}, []) ⟨0, 0⟩ 0, [], [("sum", keeper)], [], ""⟩
            earlySteps).2.handles.get? "sum" = some h' ∧
        (run Memory.transport.watched (watchedReact report)
            ⟨.start ({}, []) ⟨0, 0⟩ 0, [], [("sum", keeper)], [], ""⟩
            earlySteps).2.world.broker.2 = [] ++ calls ∧
        h'.body = Option.or none (calls.findSome? Call.body?) ∧
        Handle.Reports Memory.transport.watched h' :=
  have halone : ∀ step ∈ earlySteps, step.Alone "sum" := by simp [earlySteps, Step.Alone]
  ⟨halone, reports_of_run Memory.transport report _ "sum" keeper rfl earlySteps halone⟩

/-- A message with nothing but a status has a body without a value. -/
theorem statusMessage_decode (status : String) :
    (statusMessage status).decode = .ok ⟨status, .null, none, []⟩ := by
  have hfits : (Json.object [("status", .string status)]).Fits := by
    simp [Json.Fits, Json.FitsMembers]
  simp only [statusMessage, ResultMessage.decode, ResultMessage.validate, ResultMessage.mistyped?,
    ResultMessage.ofJsonText, ResultMessage.ofJsonBytes,
    Decode.bytes_encode ResultBody.decode hfits]
  rfl

/-- The handle takes in any status that is reported first. -/
theorem keeper_isReady (status : String) :
    ∃ h w, keeper.isReady Memory.transport (report status (.start {} ⟨0, 0⟩ 0)) =
        (.ok true, h, w) ∧
      h.body = some ⟨status, .null, none, []⟩ := by
  have hlook :
      (keeper.isReady Memory.transport (report status (.start {} ⟨0, 0⟩ 0))).1 = .ok true ∧
        (keeper.isReady Memory.transport (report status (.start {} ⟨0, 0⟩ 0))).2.1.body =
          some ⟨status, .null, none, []⟩ := by
    simp [report, Handle.isReady, keeper, Handle.new, Handle.ask, Handle.connected, Handle.opened,
      Memory.transport, Memory.Broker.fetch, Memory.Broker.put, Memory.Results.put,
      Memory.Results.get?, World.setBroker, World.start, Handle.receive, statusMessage_decode]
  -- From here on only the answer and the body count, not how the look came to them.
  generalize keeper.isReady Memory.transport (report status (.start {} ⟨0, 0⟩ 0)) = look at hlook ⊢
  obtain ⟨answer, h, w⟩ := look
  obtain ⟨hanswer, hbody⟩ := hlook
  exact ⟨h, w, by rw [show answer = .ok true from hanswer], hbody⟩

/-- A look at a task that has only started says that the result is there, and that the task has
failed. This stays so after the task has succeeded. A report that the task is pending is taken in
as well, and then the state does not tell it from no report. -/
theorem reports_of_run_early :
    (∃ h w, keeper.isReady Memory.transport (report "STARTED" (.start {} ⟨0, 0⟩ 0)) =
        (.ok true, h, w) ∧
      h.state = .started ∧ ¬ TaskState.started.Settled ∧
      ∃ w', h.failed Memory.transport (report "SUCCESS" w) = (.ok true, h, w')) ∧
    ∃ h w, keeper.isReady Memory.transport (report "PENDING" (.start {} ⟨0, 0⟩ 0)) =
        (.ok true, h, w) ∧
      h.state = .pending := by
  obtain ⟨h, w, hready, hbody⟩ := keeper_isReady "STARTED"
  obtain ⟨h', w', hready', hbody'⟩ := keeper_isReady "PENDING"
  have hresolved := Handle.resolved_of_body Memory.transport hbody
  have hstate : h.state = .started := by rw [hresolved.state]; decide
  have hfailed : ∀ v, h.failed Memory.transport v = (.ok true, h, v) := by
    intro v
    rw [hresolved.failed v]
    simp [ResultBody.isSuccess, TaskState.successStatus]
  have hstate' : h'.state = .pending := by
    rw [(Handle.resolved_of_body Memory.transport hbody').state]
    decide
  exact ⟨⟨h, w, hready, hstate, by simp [TaskState.Settled, TaskState.isTerminal], _, hfailed _⟩,
    h', w', hready', hstate'⟩

end Session
end TaskQueue
