import TaskQueue.Proofs.Amqp.Faults

/-!
# `TaskQueue.Proofs.Amqp.Settlement`: what a fetch over AMQP leaves of the queue

`Settlement` lists what a fetch may come to and what is then left in the queue of the task, when
any of its requests may have failed. `Trial.native_settled` and `Trial.direct_settled` say that
there are no other cases. Messages are lost in two ways: a fetch that removes deletes the queue
with all that is left in it, even if the message turns out to be malformed; and one that fails
between the acknowledgement and the end of the deletion may have lost the message that it does not
return.
-/

set_option autoImplicit false

namespace TaskQueue
namespace Amqp

/-- What a fetch may come to on a broker `b`, and what is then left in the queue of the task. -/
inductive Settlement (b : Broker) (id : TaskId) (remove : Bool) (qs : Queues) : Found → Prop where
  /-- There is no message. -/
  | nothing (empty : b.queues.messages id.resultQueue = []) (same : Same b id.resultQueue qs) :
      Settlement b id remove qs (.ok none)
  /-- The first message is returned and kept. -/
  | kept {m : ResultMessage} (first : (b.queues.messages id.resultQueue).head? = some m)
      (keeps : remove = false) (same : Same b id.resultQueue qs) :
      Settlement b id remove qs (.ok (some m))
  /-- The first message is returned, and the queue is deleted. -/
  | removed {m : ResultMessage} (first : (b.queues.messages id.resultQueue).head? = some m)
      (removes : remove = true) (gone : Gone id.resultQueue qs) :
      Settlement b id remove qs (.ok (some m))
  /-- The fetch failed and left everything. -/
  | failed {e : ConnectorError} (same : Same b id.resultQueue qs) :
      Settlement b id remove qs (.error e)
  /-- The first message is malformed, and the queue is deleted. -/
  | malformed {m : ResultMessage} {reason : String}
      (first : (b.queues.messages id.resultQueue).head? = some m) (removes : remove = true)
      (gone : Gone id.resultQueue qs) : Settlement b id remove qs (.error (.malformed reason))
  /-- The fetch failed while it acknowledged the first message and deleted the queue. -/
  | torn {m : ResultMessage} {reason : String}
      (first : (b.queues.messages id.resultQueue).head? = some m) (removes : remove = true)
      (torn : Torn b id.resultQueue qs) : Settlement b id remove qs (.error (.ack reason))

namespace Settlement

variable {b : Broker} {id : TaskId} {remove : Bool} {qs : Queues} {r : Found}

/-- From a queue without messages none is returned, and it still has none. -/
theorem of_empty (h : Settlement b id remove qs r)
    (hempty : b.queues.messages id.resultQueue = []) :
    (∀ m, r ≠ .ok (some m)) ∧ qs.messages id.resultQueue = [] := by
  have hfirst : ∀ m, (b.queues.messages id.resultQueue).head? ≠ some m := by
    rw [hempty]
    nofun
  cases h with
  | nothing _ same => exact ⟨nofun, same.trans hempty⟩
  | kept first => exact absurd first (hfirst _)
  | removed first => exact absurd first (hfirst _)
  | failed same => exact ⟨nofun, same.trans hempty⟩
  | malformed first => exact absurd first (hfirst _)
  | torn first => exact absurd first (hfirst _)

/-- A message that is returned was the first. Either everything is kept, or the queue is deleted. -/
theorem of_some {m : ResultMessage} (h : Settlement b id remove qs (.ok (some m))) :
    (b.queues.messages id.resultQueue).head? = some m ∧
      if remove then Gone id.resultQueue qs else Same b id.resultQueue qs := by
  cases h with
  | kept first keeps same =>
    subst keeps
    exact ⟨first, same⟩
  | removed first removes gone =>
    subst removes
    exact ⟨first, gone⟩

/-- Where none is returned there was none. -/
theorem of_none (h : Settlement b id remove qs (.ok none)) :
    b.queues.messages id.resultQueue = [] ∧ Same b id.resultQueue qs := by
  cases h with
  | nothing empty same => exact ⟨empty, same⟩

/-- After an error that invites to try again everything is kept, unless the fetch was about to
acknowledge the message and to delete the queue. -/
theorem of_retryable {e : ConnectorError} (h : Settlement b id remove qs (.error e))
    (he : e.toError.isRetryable = true) :
    Same b id.resultQueue qs ∨ remove = true ∧ (∃ reason, e = .ack reason) ∧
      (∃ m, (b.queues.messages id.resultQueue).head? = some m) ∧ Torn b id.resultQueue qs := by
  cases h with
  | failed same => exact .inl same
  | malformed => cases he
  | @torn m reason first removes torn => exact .inr ⟨removes, ⟨reason, rfl⟩, ⟨m, first⟩, torn⟩

end Settlement

/-- A message passes its check as it is. -/
theorem eq_of_checked {m m' : ResultMessage} (h : checked m = .ok m') : m' = m := by
  rw [checked] at h
  split at h
  · cases h
    rfl
  · cases h

/-- A message that does not pass is malformed. -/
theorem malformed_of_checked {m : ResultMessage} {e : ConnectorError} (h : checked m = .error e) :
    ∃ reason, e = .malformed reason := by
  rw [checked] at h
  split at h
  · cases h
  · cases h
    exact ⟨_, rfl⟩

namespace Trial

variable {b : Broker} (d : Descriptor) (id : TaskId) (remove : Bool)

/-- The queues are settled as the outcome says. -/
def Settled (b : Broker) (id : TaskId) (remove : Bool) (r : Found) (t : Trial) : Prop :=
  Quiet (fun qs => Settlement b id remove qs r) t.peer

/-- A request that fails before the message is settled leaves everything. -/
theorem settled_of_failed {fault : String → ConnectorError} (e : ConnectorError) (t : Trial)
    (h : ∃ reason, e = fault reason ∧ Quiet (Same b id.resultQueue) t.peer) :
    Settled b id remove (.error e) t := by
  obtain ⟨-, -, hquiet⟩ := h
  exact hquiet.mono fun _ => .failed

/-- The queue is declared and bound. -/
theorem declareResultQueue_triple :
    Attempt.Triple answer (fun t => Ready b id.resultQueue t.peer)
      (declareResultQueue d id.resultQueue) (fun _ t => Ready b id.resultQueue t.peer)
      (fun e => Settled b id remove (.error e)) := by
  have hready : ∀ p, Ready b id.resultQueue p → Settles (Same b id.resultQueue) p :=
    fun _ h => h.atRest.quiet.settles
  refine .bind (R := fun _ t => Ready b id.resultQueue t.peer) ?_ fun _ => ?_
  · exact .mono (demand_triple .consume (call_triple (fun _ h => answer_declare h _ _ _) hready
      (fun _ => hready) fun _ h => h.1.quiet)) (fun _ h => h) (fun _ _ h => h)
      (settled_of_failed id remove)
  · exact .mono (demand_triple .consume (call_triple (fun _ h => answer_bind h _ _ _) hready
      (fun _ => hready) fun _ h => h.1.quiet)) (fun _ h => h) (fun _ _ h => h)
      (settled_of_failed id remove)

/-- The first message of the queue is taken. -/
theorem getOne_triple :
    Attempt.Triple answer (fun t => Ready b id.resultQueue t.peer) (getOne id.resultQueue)
      (fun taken t => Got b id.resultQueue taken t.peer)
      (fun e => Settled b id remove (.error e)) :=
  .mono (demand_triple .consume (call_triple (fun _ h => answer_get h)
    (fun _ h => h.atRest.quiet.settles) (fun _ _ h => Got.settles h) fun _ h => h.1.quiet))
    (fun _ h => h) (fun _ _ h => h) (settled_of_failed id remove)

/-- Without a message there is nothing to report. -/
theorem notReady_triple :
    Ending answer (fun t => Got b id.resultQueue none t.peer) (notReady id)
      (Settled b id remove) := by
  refine .bind (R := fun _ t => Got b id.resultQueue none t.peer) (.log fun _ h => h) fun _ => ?_
  exact .pure fun _ h => h.1.atRest.quiet.mono fun _ => .nothing h.2

/-- A message that is kept is put back and then checked. -/
theorem settle_kept_triple (delivery : Delivery) :
    Attempt.Triple answer (fun t => InHand b id.resultQueue delivery t.peer)
      (settle id.resultQueue delivery false) (fun m => Settled b id false (.ok (some m)))
      (fun e => Settled b id false (.error e)) := by
  refine .bind (.mono (demand_triple .ack (call_triple (fun _ h => answer_nack h)
    (fun _ h => h.settles) (fun _ _ h => h.1.quiet.settles) fun _ h => h.elim)) (fun _ h => h)
    (fun _ _ h => h) (settled_of_failed id false)) fun _ => .ofExcept fun t h => ?_
  cases hc : checked delivery.message with
  | ok m =>
    rw [eq_of_checked hc]
    exact h.1.quiet.mono fun _ => .kept h.2 rfl
  | error e => exact h.1.quiet.mono fun _ => .failed

/-- A message that is removed is acknowledged, its queue is deleted, and then it is checked. -/
theorem settle_removed_triple (delivery : Delivery) :
    Attempt.Triple answer (fun t => InHand b id.resultQueue delivery t.peer)
      (settle id.resultQueue delivery true) (fun m => Settled b id true (.ok (some m)))
      (fun e => Settled b id true (.error e)) := by
  -- Which message came first does not depend on the state, so it is fixed for the whole proof.
  refine .assuming (C := (b.queues.messages id.resultQueue).head? = some delivery.message)
    (fun t h => h.first) fun hfirst => ?_
  have htorn : ∀ e t, (∃ reason, e = ConnectorError.ack reason ∧
      Quiet (Torn b id.resultQueue) t.peer) → Settled b id true (.error e) t := by
    rintro e t ⟨reason, rfl, h⟩
    exact h.mono fun _ => .torn hfirst rfl
  refine .bind (.mono (demand_triple .ack (call_triple (fun _ h => answer_ack_acked h)
    (fun _ h severs => (h.settles severs).mono fun _ hsame => .inl hsame)
    (fun _ _ h => h.quiet.settles) fun _ h => h.elim)) (fun _ h => h) (fun _ _ h => h) htorn)
    fun _ => ?_
  refine .bind (.mono (demand_triple .ack (call_triple (fun _ h => answer_delete_acked h)
    (fun _ h => h.quiet.settles) (fun _ _ h severs => (h.settles severs).mono
      fun _ hgone => .inr (.inr hgone)) fun _ h => h)) (fun _ h => h) (fun _ _ h => h) htorn)
    fun _ => .ofExcept fun t h => ?_
  cases hc : checked delivery.message with
  | ok m =>
    rw [eq_of_checked hc]
    exact h.mono fun _ => .removed hfirst rfl
  | error e =>
    obtain ⟨reason, rfl⟩ := malformed_of_checked hc
    exact h.mono fun _ => .malformed hfirst rfl

/-- Either way the message is settled. -/
theorem settle_triple (delivery : Delivery) :
    Attempt.Triple answer (fun t => InHand b id.resultQueue delivery t.peer)
      (settle id.resultQueue delivery remove) (fun m => Settled b id remove (.ok (some m)))
      (fun e => Settled b id remove (.error e)) := by
  cases remove with
  | false => exact settle_kept_triple id delivery
  | true => exact settle_removed_triple id delivery

/-- The parts of a fetch, in a trial. -/
theorem fetchRules :
    FetchRules answer d id remove
      (fun t => Linked b id.resultQueue t.peer ∧ AtRest b id.resultQueue t.peer)
      (fun t => Ready b id.resultQueue t.peer) (fun taken t => Got b id.resultQueue taken t.peer)
      (Settled b id remove) where
  channelOpen := by
    refine .mono (call_triple
      (P := fun p => Linked b id.resultQueue p ∧ AtRest b id.resultQueue p)
      (fun _ h => answer_channelOpen h.1) (fun _ h => h.2.quiet.settles)
      (fun _ _ h => h.atRest.quiet.settles) fun _ h => h.1.quiet) (fun _ h => h) fun r t h => ?_
    cases r with
    | ok => exact h
    | error reason => exact h.mono fun _ => .failed
  declare := declareResultQueue_triple d id remove
  getOne := getOne_triple id remove
  settle delivery := settle_triple id remove delivery
  notReady := notReady_triple id remove
  again _ h := h.1
  clock _ := rfl
  sleep _ _ h := by
    -- None of these conditions is about the time.
    obtain ⟨⟨⟨⟨hl, hf, hm⟩, hup, hopen⟩, hc⟩, hnone⟩ := h
    exact ⟨⟨⟨⟨hl, hf, hm⟩, hup, hopen⟩, hc⟩, hnone⟩
  closeChannel _ := closeChannel_triple
  closeConnection _ := closeConnection_triple

/-- The native connector settles the queue as its outcome says. -/
theorem native_settled :
    Ending answer (fun t => AtRest b id.resultQueue t.peer) (Native.fetch d id remove)
      (Settled b id remove) :=
  (fetchRules d id remove).native (.mono (lease_triple _ d.amqpUri) (fun _ h => h)
    (fun _ _ h => h) (settled_of_failed id remove))

/-- The direct connector does, too. If it is not connected, it does not say a word. -/
theorem direct_settled (c : Direct) :
    Ending answer (fun t => AtRest b id.resultQueue t.peer) (c.fetch id remove)
      (Settled b id remove) := by
  cases hc : c.connected with
  | false =>
    rw [Direct.fetch, Direct.inSession, hc]
    exact .done fun _ h => h.quiet.mono fun _ => .failed
  | true =>
    exact (fetchRules c.descriptor id remove).direct rfl hc (.mono (dial_triple .connection c.url)
      (fun _ h => h) (fun _ _ h => h) (settled_of_failed id remove))

end Trial
end Amqp
end TaskQueue
