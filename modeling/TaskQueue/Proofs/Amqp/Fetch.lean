import TaskQueue.Amqp.Direct
import TaskQueue.Amqp.Native
import TaskQueue.Proofs.Client.Polling
import TaskQueue.Proofs.Dialogue

/-!
# `TaskQueue.Proofs.Amqp.Fetch`: a fetch over AMQP from its parts

Both AMQP connectors fetch in the same parts: they open a channel, declare the queue, take a
message, settle it, and close what they have opened. The native connector looks once, the direct
one again and again. `FetchRules` is what has to be known of the parts to know something of the
whole, and `FetchRules.native` and `FetchRules.direct` are the two wholes. The answering party may
be anybody, so each question about a fetch takes one proof a part and none for the connectors.
-/

set_option autoImplicit false

namespace TaskQueue
namespace Amqp

variable {σ : Type} {answer : (q : Request) → σ → Answer q × σ} {Post : Found → σ → Prop}

/-- Something of which `Post` tells the outcome, from a state in which `P` holds. -/
def Ending (answer : (q : Request) → σ → Answer q × σ) (P : σ → Prop)
    (t : Try (Option ResultMessage)) (Post : Found → σ → Prop) : Prop :=
  Attempt.Triple answer P t (fun r => Post (.ok r)) fun e => Post (.error e)

/-- What is said of success and of failure is said of the outcome. -/
theorem outcome_post_iff {r : Found} {s : σ} :
    Attempt.Outcome (fun r => Post (.ok r)) (fun e => Post (.error e)) r s ↔ Post r s := by
  cases r with
  | ok found => exact Iff.rfl
  | error e => exact Iff.rfl

/-- It holds of the run, from any state in which it may begin. -/
theorem Ending.holds {P : σ → Prop} {t : Try (Option ResultMessage)}
    (h : Ending answer P t Post) (s : σ) (hs : P s) :
    Post (t.run.run answer s).1 (t.run.run answer s).2.2 :=
  outcome_post_iff.1 (Dialogue.Triple.holds h s hs)

/-! ## Requests -/

section
variable {α : Type} {P : σ → Prop} {M : Except String α → σ → Prop}

/-- A demand succeeds with what it is told, and fails with the fault that it makes of the reason. -/
theorem demand_triple (fault : String → ConnectorError) {t : Talk (Except String α)}
    (ht : Dialogue.Triple answer P t M) :
    Attempt.Triple answer P (demand fault t) (fun a => M (.ok a))
      (fun e s => ∃ reason, e = fault reason ∧ M (.error reason) s) := by
  refine Dialogue.Triple.bind ht fun r => ?_
  cases r with
  | ok a => exact .done fun _ h => h
  | error reason => exact .done fun _ h => ⟨reason, rfl, h⟩

/-- Something that is closed may fail to be. That is only logged. -/
theorem closing_triple (what : String) {m : Method}
    (hm : ∀ s, P s → P (answer (.call m) s).2) :
    Dialogue.Triple answer P (closing what m) fun _ => P := by
  refine Dialogue.Triple.bind (.ask (M := fun _ => P) hm fun _ => .done fun _ h => h) fun r => ?_
  cases r with
  | ok => exact .done fun _ h => h
  | error reason => exact .note (.done fun _ h => h)

end

/-! ## The parts and the whole -/

/-- The parts of a fetch. On a connection of which `Linked` holds a channel is opened; then `Ready`
holds, and `Got` when a message was taken or there was none. `Post` is what holds at the end. -/
structure FetchRules (answer : (q : Request) → σ → Answer q × σ) (d : Descriptor) (id : TaskId)
    (remove : Bool) (Linked Ready : σ → Prop) (Got : Option Delivery → σ → Prop)
    (Post : Found → σ → Prop) : Prop where
  channelOpen : Dialogue.Triple answer Linked (call .channelOpen) fun
    | .ok _ => Ready
    | .error reason => Post (.error (.connection reason))
  declare : Attempt.Triple answer Ready (declareResultQueue d id.resultQueue) (fun _ => Ready)
    fun e => Post (.error e)
  getOne : Attempt.Triple answer Ready (getOne id.resultQueue) Got fun e => Post (.error e)
  settle (delivery : Delivery) : Attempt.Triple answer (Got (some delivery))
    (settle id.resultQueue delivery remove) (fun m => Post (.ok (some m)))
    fun e => Post (.error e)
  notReady : Ending answer (Got none) (notReady id) Post
  again (s : σ) : Got none s → Ready s
  clock (s : σ) : (answer .clock s).2 = s
  sleep (nanoseconds : Nat) (s : σ) : Got none s → Got none (answer (.sleep nanoseconds) s).2
  closeChannel (r : Found) : Dialogue.Triple answer (Post r) closeChannel fun _ => Post r
  closeConnection (r : Found) : Dialogue.Triple answer (Post r) closeConnection fun _ => Post r

namespace FetchRules

variable {d : Descriptor} {id : TaskId} {remove : Bool} {Start Linked Ready : σ → Prop}
  {Got : Option Delivery → σ → Prop}

/-- What is closed afterwards does not change what `Post` says. -/
theorem close_after {r : Found} {close : Talk Unit}
    (hclose : Dialogue.Triple answer (Post r) close fun _ => Post r) :
    Dialogue.Triple answer
      (Attempt.Outcome (fun r => Post (.ok r)) (fun e => Post (.error e)) r) close
      fun _ => Attempt.Outcome (fun r => Post (.ok r)) (fun e => Post (.error e)) r :=
  hclose.mono (fun _ h => outcome_post_iff.1 h) fun _ _ h => outcome_post_iff.2 h

variable (h : FetchRules answer d id remove Linked Ready Got Post)
include h

/-- A fetch of the native connector on its channel: the queue is declared and looked at once. -/
theorem fetchOnce : Ending answer Ready (Native.fetchOnce d id remove) Post := by
  refine .bind h.declare fun _ => ?_
  refine .bind h.getOne fun taken => ?_
  cases taken with
  | none => exact h.notReady
  | some delivery => exact .bind (h.settle delivery) fun _ => .pure fun _ hs => hs

/-- A fetch of the native connector, from how it takes up its connection. -/
theorem native (hlease : Attempt.Triple answer Start
      (demand (fun reason => .pool (Native.unavailable reason)) (lease d.amqpUri))
      (fun _ => Linked) fun e => Post (.error e)) :
    Ending answer Start (Native.fetch d id remove) Post := by
  refine .bind hlease fun _ => .bind (R := fun _ => Ready) ?_ fun _ => ?_
  · refine Dialogue.Triple.bind h.channelOpen fun r => ?_
    cases r with
    | ok => exact .done fun _ hs => hs
    | error reason => exact .done fun _ hs => hs
  refine Dialogue.Triple.bind h.fetchOnce fun r => ?_
  exact Dialogue.Triple.bind (close_after (h.closeChannel r)) fun _ => .done fun _ hs => hs

/-- Looking at the clock changes nothing. -/
theorem now {P : σ → Prop} {E : ConnectorError → σ → Prop} :
    Attempt.Triple answer P Direct.now (fun _ => P) E :=
  Dialogue.Triple.ask (M := fun _ => P) (fun s hs => by rw [h.clock]; exact hs)
    fun _ => .done fun _ hs => hs

/-- One look, if looking again is known when there is nothing. -/
theorem look (deadline : Nat) {again : Try (Option ResultMessage)}
    (hagain : Ending answer (Got none) again Post) :
    Ending answer Ready (Direct.look deadline id remove again) Post := by
  refine .bind h.getOne fun taken => ?_
  cases taken with
  | none =>
    refine .bind h.now fun n => ?_
    split
    · exact h.notReady
    · exact hagain
  | some delivery => exact .bind (h.settle delivery) fun _ => .pure fun _ hs => hs

/-- Looking again and again comes to the same as looking once. -/
theorem lookUntil (deadline retries : Nat) :
    Ending answer Ready (Direct.lookUntil deadline id remove retries) Post := by
  -- Each further look is made only after one that found nothing, hence on a channel that is
  -- still ready.
  induction retries with
  | zero => exact h.look deadline h.notReady
  | succ retries ih =>
    refine h.look deadline (.bind (R := fun _ => Got none) ?_ fun _ => ?_)
    · exact Dialogue.Triple.ask (M := fun _ => Got none) (fun s hs => h.sleep _ s hs)
        fun _ => .done fun _ hs => hs
    · exact .mono ih h.again (fun _ _ hs => hs) fun _ _ hs => hs

/-- A fetch of a direct connector that is connected, from how it dials. -/
theorem direct {c : Direct} (hd : c.descriptor = d) (hc : c.connected = true)
    (hdial : Attempt.Triple answer Start (demand .connection (dial c.url)) (fun _ => Linked)
      fun e => Post (.error e)) :
    Ending answer Start (c.fetch id remove) Post := by
  subst hd
  rw [Direct.fetch, Direct.inSession, hc]
  refine .bind hdial fun _ => ?_
  refine Dialogue.Triple.bind h.channelOpen fun r => ?_
  -- Without a channel only the connection is closed; otherwise both are, and the outcome of the
  -- work stays.
  cases r with
  | error reason =>
    exact Dialogue.Triple.bind (h.closeConnection (.error (.connection reason)))
      fun _ => .done fun _ hs => hs
  | ok =>
    have hwork : Ending answer Ready (do
        let deadline := (← Direct.now) + c.descriptor.waitDuration.nanoseconds
        declareResultQueue c.descriptor id.resultQueue
        Direct.lookUntil deadline id remove (Direct.retries c.descriptor)) Post :=
      .bind h.now fun _ => .bind h.declare fun _ => h.lookUntil _ _
    refine Dialogue.Triple.bind hwork fun r => ?_
    refine Dialogue.Triple.bind (close_after (h.closeChannel r)) fun _ => ?_
    exact Dialogue.Triple.bind (close_after (h.closeConnection r)) fun _ => .done fun _ hs => hs

end FetchRules
end Amqp
end TaskQueue
