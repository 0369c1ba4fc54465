import TaskQueue.Proofs.Client.Polling
import TaskQueue.Proofs.Client.Stages

/-!
# `TaskQueue.Proofs.Client.Watched`: which calls a handle makes

`Transport.watched` is a transport with a log beside the broker: it notes every call with what
came of it, and otherwise acts as the transport that it watches. That transport can be any, so
its answers can come in any order and need not make sense.

`Conduct` says which calls a handle makes while its body changes from one to another. A handle
without a body may call what it likes until a fetch brings a message that decodes. From then on
it closes connectors at most. `Conduct.append` puts two stretches together. `Handle.Conducts` is
the same as a relation between a handle with its world before and after, and there is one lemma
for each operation of a handle.
-/

set_option autoImplicit false

namespace TaskQueue

/-- A call that a transport answered. -/
inductive Call where
  | create
  | connect
  | publish
  | fetch (found : Found)
  | close

namespace Call

/-- The body of a result that a call brought. -/
def body? : Call → Option ResultBody
  | fetch (.ok (some m)) => m.decode.toOption
  | _ => none

end Call

namespace Transport

variable {κ β : Type}

/-- The world as a broker meets it that is not watched. -/
def unwatched (w : World (β × List Call)) : World β := w.around w.broker.1

/-- The world after a call that changed the unwatched one. -/
def logged (w : World (β × List Call)) (c : Call) (v : World β) : World (β × List Call) :=
  v.around (v.broker, w.broker.2 ++ [c])

/-- The transport with a log of its calls. -/
def watched (t : Transport κ β) : Transport κ (β × List Call) where
  create s d w :=
    let (r, v) := t.create s d (unwatched w)
    (r, logged w .create v)
  kind := t.kind
  descriptor := t.descriptor
  isConnected := t.isConnected
  connect c w :=
    let (r, c, v) := t.connect c (unwatched w)
    (r, c, logged w .connect v)
  publish c routingKey body properties w :=
    let (r, c, v) := t.publish c routingKey body properties (unwatched w)
    (r, c, logged w .publish v)
  fetch c id remove w :=
    let (r, c, v) := t.fetch c id remove (unwatched w)
    (r, c, logged w (.fetch r) v)
  close c w :=
    let (r, c, v) := t.close c (unwatched w)
    (r, c, logged w .close v)

end Transport

/-! ## Conduct -/

/-- Which calls a handle makes while it goes from one body to another: none of them brings a
body and it stays without; or one brings a body, and after it connectors are closed at most; or
it has its body already, and connectors are closed at most. -/
inductive Conduct : Option ResultBody → List Call → Option ResultBody → Prop
  | waiting {calls : List Call} : (∀ c ∈ calls, c.body? = none) → Conduct none calls none
  | resolved {before after : List Call} {c : Call} {b : ResultBody} :
    (∀ c ∈ before, c.body? = none) → c.body? = some b → (∀ c ∈ after, c = .close) →
    Conduct none (before ++ c :: after) (some b)
  | known {calls : List Call} {b : ResultBody} : (∀ c ∈ calls, c = .close) →
    Conduct (some b) calls (some b)

namespace Conduct

/-- Without calls the body stays as it is. -/
theorem nil (body : Option ResultBody) : Conduct body [] body := by
  cases body with
  | none => exact .waiting (by simp)
  | some b => exact .known (by simp)

/-- Two stretches make one. -/
theorem append {b₁ b₂ b₃ : Option ResultBody} {xs ys : List Call} (h₁ : Conduct b₁ xs b₂)
    (h₂ : Conduct b₂ ys b₃) : Conduct b₁ (xs ++ ys) b₃ := by
  -- Each case of the first stretch leaves only the cases of the second that begin with its body.
  cases h₁ with
  | waiting hx =>
    cases h₂ with
    | waiting hy =>
      refine .waiting fun c hc => ?_
      exact (List.mem_append.1 hc).elim (hx c) (hy c)
    | @resolved before after c b hbefore hc hafter =>
      rw [← List.append_assoc]
      refine .resolved (fun c hc => ?_) hc hafter
      exact (List.mem_append.1 hc).elim (hx c) (hbefore c)
  | @resolved before after c b hbefore hc hafter =>
    cases h₂ with
    | known hy =>
      rw [List.append_assoc, List.cons_append]
      refine .resolved hbefore hc fun c hc => ?_
      exact (List.mem_append.1 hc).elim (hafter c) (hy c)
  | known hx =>
    cases h₂ with
    | known hy =>
      refine .known fun c hc => ?_
      exact (List.mem_append.1 hc).elim (hx c) (hy c)

/-- A call that brings no body. -/
theorem call {c : Call} (hc : c.body? = none) : Conduct none [c] none :=
  .waiting fun c' hc' => by rw [List.mem_singleton.1 hc', hc]

/-- Closing a connector changes nothing. -/
theorem close (body : Option ResultBody) : Conduct body [.close] body := by
  cases body with
  | none => exact .call rfl
  | some b => exact .known fun c hc => List.mem_singleton.1 hc

/-- A fetch brings the body that it delivers. -/
theorem fetch (found : Found) :
    Conduct none [.fetch found] (Handle.delivered (Handle.verdict found)) := by
  rcases found with e | _ | m
  · exact .call rfl
  · exact .call rfl
  · rcases hm : m.decode with e | b
    · simp only [Handle.verdict, hm]
      exact .call (by simp only [Call.body?, hm, Except.toOption])
    · simp only [Handle.verdict, hm]
      exact @Conduct.resolved [] [] _ _ (by simp)
        (by simp only [Call.body?, hm, Except.toOption]) (by simp)

end Conduct

namespace Handle

variable {κ β : Type} {h h₁ h₂ h₃ : Handle κ} {w w₁ w₂ w₃ : World (β × List Call)}

/-- Between the two worlds the handle became the other one, and did so by the calls that were
logged in between. -/
def Conducts (h₁ : Handle κ) (w₁ : World (β × List Call)) (h₂ : Handle κ)
    (w₂ : World (β × List Call)) : Prop :=
  Same h₁ h₂ ∧ ∃ calls, w₂.broker.2 = w₁.broker.2 ++ calls ∧ Conduct h₁.body calls h₂.body

/-- Nothing is called if the log stays as it is. -/
theorem Conducts.idle (h : Handle κ) (hw : w₂.broker.2 = w₁.broker.2) : Conducts h w₁ h w₂ :=
  ⟨.refl h, [], by rw [hw, List.append_nil], .nil _⟩

/-- A handle that keeps to its conduct in two spans of time keeps to it in both together. -/
theorem Conducts.trans (a : Conducts h₁ w₁ h₂ w₂) (b : Conducts h₂ w₂ h₃ w₃) :
    Conducts h₁ w₁ h₃ w₃ := by
  obtain ⟨hs, xs, hx, hcx⟩ := a
  obtain ⟨hs', ys, hy, hcy⟩ := b
  exact ⟨hs.trans hs', xs ++ ys, by rw [hy, hx, List.append_assoc], hcx.append hcy⟩

/-! ## Operations -/

section
variable (t : Transport κ β)

/-- Opening a connector calls nothing that brings a body. -/
theorem opened_log {r : Except Error κ} (ho : h.opened t.watched w = (r, w₁)) :
    ∃ calls, w₁.broker.2 = w.broker.2 ++ calls ∧ ∀ c ∈ calls, c.body? = none := by
  cases hc : h.connector with
  | some c =>
    simp only [opened, hc] at ho
    cases ho
    exact ⟨[], by rw [List.append_nil], by simp⟩
  | none =>
    simp only [opened, hc, Transport.watched] at ho
    cases ho
    exact ⟨[.create], rfl, by simp [Call.body?]⟩

/-- Connecting is logged as such. -/
theorem connect_log {c c' : κ} {r : Except ConnectorError Unit}
    (hc : t.watched.connect c w = (r, c', w₁)) : w₁.broker.2 = w.broker.2 ++ [.connect] := by
  simp only [Transport.watched] at hc
  cases hc
  rfl

/-- A fetch is logged with what it found. -/
theorem fetch_log {c c' : κ} {id : TaskId} {remove : Bool} {found : Found}
    (hf : t.watched.fetch c id remove w = (found, c', w₁)) :
    w₁.broker.2 = w.broker.2 ++ [.fetch found] := by
  simp only [Transport.watched] at hf
  cases hf
  rfl

/-- Closing is logged as such. -/
theorem close_log {c c' : κ} {r : Except ConnectorError Unit}
    (hc : t.watched.close c w = (r, c', w₁)) : w₁.broker.2 = w.broker.2 ++ [.close] := by
  simp only [Transport.watched] at hc
  cases hc
  rfl

/-- A look makes no more calls than are allowed. -/
theorem conducts_isReady (h : Handle κ) (w : World (β × List Call)) :
    Conducts h w (h.isReady t.watched w).2.1 (h.isReady t.watched w).2.2 := by
  refine ⟨isReady_same _ h w, ?_⟩
  cases hb : h.body with
  | some b =>
    rw [isReady_of_body _ hb, hb]
    exact ⟨[], by rw [List.append_nil], .nil _⟩
  | none =>
    rw [isReady_of_none _ hb]
    rcases ask_cases t.watched h w with ⟨e, w₁, ho, ha⟩ | ⟨c, w₁, e, c₂, w₂, ho, hc, ha⟩ |
      ⟨c, w₁, c₂, w₂, found, c₃, w₃, ho, hc, hf, ha⟩
    · -- As far as a look gets, its calls bring no body; only the fetch at its end can bring one.
      obtain ⟨calls, hl, hcalls⟩ := opened_log t ho
      rw [ha, hb]
      exact ⟨calls, hl, .waiting hcalls⟩
    · obtain ⟨calls, hl, hcalls⟩ := opened_log t ho
      rw [ha]
      refine ⟨calls ++ [.connect], ?_, ?_⟩
      · rw [connect_log t hc, hl, List.append_assoc]
      · simp only [hb]
        exact (Conduct.waiting hcalls).append (.call rfl)
    · obtain ⟨calls, hl, hcalls⟩ := opened_log t ho
      obtain ⟨-, hh, hbroker, -⟩ :=
        receive_verdict { h with connector := some c₃ } hb (t.watched.kind c₂).name found w₃
      rw [ha, hh, hbroker]
      refine ⟨calls ++ [.connect] ++ [.fetch found], ?_, ?_⟩
      · rw [fetch_log t hf, connect_log t hc, hl, ← List.append_assoc, ← List.append_assoc]
      · exact ((Conduct.waiting hcalls).append (.call rfl)).append (.fetch found)

/-- Asking for the result if it is there changes as much as a look. -/
theorem resultIfReady_after (t : Transport κ β) (h : Handle κ) (w : World β) :
    (h.resultIfReady t w).2 = (h.isReady t w).2 := by
  unfold resultIfReady
  rcases h.isReady t w with ⟨_ | _ | _, h', w'⟩ <;> rfl

/-- Asking whether the result meets a condition changes as much as a look. -/
theorem isReadyAnd_after (t : Transport κ β) (condition : ResultBody → Bool) (h : Handle κ)
    (w : World β) : (h.isReadyAnd t condition w).2 = (h.isReady t w).2 := by
  unfold isReadyAnd
  rcases h.isReady t w with ⟨_ | _ | _, h', w'⟩ <;> rfl

/-- Waiting makes no more calls than are allowed. -/
theorem conducts_poll (limit interval : Duration) (deadline : Option Nat) (tries : Nat)
    (h : Handle κ) (w : World (β × List Call)) :
    Conducts h w (poll t.watched limit interval deadline tries h w).2.1
      (poll t.watched limit interval deadline tries h w).2.2 := by
  refine poll_keeps t.watched (conducts_isReady t) (fun h w v hbroker _ => ?_) .trans limit interval
    deadline tries h w
  -- Neither a pause nor a timeout calls anybody.
  exact .idle h (congrArg Prod.snd hbroker)

/-- Closing makes no more calls than are allowed. -/
theorem conducts_close (h : Handle κ) (w : World (β × List Call)) :
    Conducts h w (h.close t.watched w).2.1 (h.close t.watched w).2.2 := by
  cases hc : h.connector with
  | none =>
    simp only [close, hc]
    exact .idle h rfl
  | some c =>
    rcases hcl : t.watched.close c w with ⟨e | _, c', v⟩
    · simp only [close, hc, hcl]
      exact ⟨.of_fields h _ _, [.close], close_log t hcl, .close _⟩
    · simp only [close, hc, hcl]
      exact ⟨.of_fields h _ _, [.close], close_log t hcl, .close _⟩

end

end Handle
end TaskQueue
