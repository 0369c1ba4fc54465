import TaskQueue.Proofs.Client.Reports
import TaskQueue.Proofs.Client.Restoring
import TaskQueue.Proofs.Json.Strays

/-!
# `TaskQueue.Proofs.Session.Restored`: restored handles at work

A handle that was written down comes back as another one that differs from it in its connector and
in where it takes connectors from (`Handle.restored`). `Session.restored_alike` compares the two.
They need not work with the same transport, nor in the same world.

If there is a body, any run of steps makes both answer alike, and the restored handle calls nobody
all the while (`Session.Mirrors`). If there is none, the restored handle calls nobody until it is
polled, and then opens a connector first (`Session.Lazily`). Both rest on `Handle.after_idle`: a
handle without a connector that has a body, or is not polled, does nothing.

The two handles do not answer alike to what is about the connector itself. A handle without one can
always be closed and shows none in diagnostics (`Session.Echo`). `Session.restored_close` is a
session in which the original cannot be closed.
-/

set_option autoImplicit false

namespace TaskQueue

/-- A body that was read from a message is sound. -/
theorem ResultMessage.sound_of_decode {m : ResultMessage} {b : ResultBody}
    (h : m.decode = .ok b) : b.Sound := by
  unfold decode at h
  split at h
  · cases h
  · split at h
    · rename_i b' hb
      cases h
      exact ResultBody.decode_ok (Decode.document_ok.1 hb).1
    · cases h

namespace Handle

variable {κ κ' β β' : Type}

/-- The handle as it comes back from its text. -/
def restored (source : Source) (h : Handle κ) : Handle κ' :=
  ⟨h.id, h.taskName, h.arguments, h.descriptor, h.body, none, source⟩

/-- What is written does not depend on the connector. -/
theorem serialized_restored (source : Source) (h : Handle κ) :
    (h.restored source : Handle κ').serialized = h.serialized := rfl

/-- The body comes back as well. -/
theorem restored_known (source : Source) (h : Handle κ) {b : ResultBody} (hb : h.body = some b) :
    (h.restored source : Handle κ').body ≠ none := by
  show h.body ≠ none
  rw [hb]
  exact Option.some_ne_none b

/-- A handle comes back from its text. -/
theorem ofText_restored {h : Handle κ} (hh : h.Restorable) (source : Source) :
    (ofText source h.serialized : Except Fault (Handle κ')) = .ok (h.restored source) := by
  have hrestorable : (h.restored source : Handle κ').Restorable :=
    ⟨hh.apart, hh.body, hh.whole, hh.depth⟩
  exact ofText_serialized hrestorable source

/-! ## Handles that call nobody -/

/-- Without a connector, a handle that has a body or is not polled stays as it is and leaves the
broker alone. -/
theorem after_idle (t : Transport κ β) {h : Handle κ} (hc : h.connector = none) (w : World β)
    {a : Session.HandleAct} (ha : h.body ≠ none ∨ ¬ a.Polls) :
    (h.after t w a).1 = h ∧ (h.after t w a).2.broker = w.broker := by
  have hpolls : a.Polls → ∃ b, h.body = some b := fun hp =>
    Option.ne_none_iff_exists'.1 (ha.resolve_right (not_not_intro hp))
  cases a with
  | isReady | isSuccess | failed | resultIfReady =>
    obtain ⟨b, hb⟩ := hpolls trivial
    rw [after, isReady_of_body t hb]
    exact ⟨rfl, rfl⟩
  -- A wait for a body that is there returns at its first look.
  | get limit interval =>
    obtain ⟨b, hb⟩ := hpolls trivial
    rw [after, (resolved_of_body t hb).get _ limit interval w (Session.tries_pos ..)]
    exact ⟨rfl, rfl⟩
  | close =>
    rw [after, close, hc]
    exact ⟨rfl, rfl⟩
  | status | result | traceback | state | info | forget | revoke | debug | serialize =>
    exact ⟨rfl, rfl⟩

/-- With a body, a handle keeps everything but its connector. -/
theorem after_known (t : Transport κ β) {h : Handle κ} {b : ResultBody} (hb : h.body = some b)
    (w : World β) (a : Session.HandleAct) :
    ∃ c, (h.after t w a).1 = { h with connector := c } := by
  cases a with
  | isReady | isSuccess | failed | resultIfReady =>
    rw [after, isReady_of_body t hb]
    exact ⟨h.connector, rfl⟩
  | get limit interval =>
    rw [after, (resolved_of_body t hb).get _ limit interval w (Session.tries_pos ..)]
    exact ⟨h.connector, rfl⟩
  -- Closing drops the connector if there is one, and nothing else.
  | close =>
    rw [after, close]
    split
    · exact ⟨h.connector, rfl⟩
    · split <;> exact ⟨none, rfl⟩
  | status | result | traceback | state | info | forget | revoke | debug | serialize =>
    exact ⟨h.connector, rfl⟩

/-- Without a connector and without a body, a look opens a connector first. -/
theorem isReady_opens (t : Transport κ β) {h : Handle κ} (hc : h.connector = none)
    (hb : h.body = none) (w : World (β × List Call)) :
    ∃ calls, (h.isReady t.watched w).2.2.broker.2 = w.broker.2 ++ .create :: calls := by
  -- However far the look gets, the first that is logged is that a connector was made.
  have hopened : ∀ {r w₁}, h.opened t.watched w = (r, w₁) →
      w₁.broker.2 = w.broker.2 ++ [.create] := by
    intro r w₁ ho
    simp only [opened, hc, Transport.watched] at ho
    cases ho
    rfl
  rw [isReady_of_none _ hb]
  rcases ask_cases t.watched h w with ⟨e, w₁, ho, ha⟩ | ⟨c, w₁, e, c₂, w₂, ho, hc, ha⟩ |
    ⟨c, w₁, c₂, w₂, found, c₃, w₃, ho, hc, hf, ha⟩
  · rw [ha]
    exact ⟨[], hopened ho⟩
  · rw [ha]
    refine ⟨[.connect], ?_⟩
    show w₂.broker.2 = _
    rw [connect_log t hc, hopened ho, List.append_assoc]
    rfl
  · obtain ⟨-, -, hbroker, -⟩ :=
      receive_verdict { h with connector := some c₃ } hb (t.watched.kind c₂).name found w₃
    rw [ha, hbroker]
    refine ⟨[.connect, .fetch found], ?_⟩
    rw [fetch_log t hf, connect_log t hc, hopened ho, List.append_assoc, List.append_assoc]
    rfl

/-- The rounds of a wait after its first look add to the log. -/
theorem poll_adds (t : Transport κ β) (limit interval : Duration) (deadline : Option Nat)
    (tries : Nat) (h : Handle κ) (w : World (β × List Call)) :
    ∃ calls, (poll t.watched limit interval deadline (tries + 1) h w).2.2.broker.2 =
      (h.isReady t.watched w).2.2.broker.2 ++ calls := by
  obtain ⟨v, hbroker, -, hends | ⟨-, hgoes⟩⟩ :=
    poll_round t.watched limit interval deadline tries h w
  · rw [hends, hbroker]
    exact ⟨[], (List.append_nil _).symm⟩
  · obtain ⟨-, calls, hcalls, -⟩ := conducts_poll t limit interval deadline tries
      (h.isReady t.watched w).2.1 v
    rw [hgoes, ← hbroker]
    exact ⟨calls, hcalls⟩

/-- So does anything that polls. -/
theorem after_opens (t : Transport κ β) {h : Handle κ} (hc : h.connector = none)
    (hb : h.body = none) (w : World (β × List Call)) {a : Session.HandleAct} (ha : a.Polls) :
    ∃ calls, (h.after t.watched w a).2.broker.2 = w.broker.2 ++ .create :: calls := by
  obtain ⟨calls, hcalls⟩ := isReady_opens t hc hb w
  cases a with
  | isReady | isSuccess | failed | resultIfReady => exact ⟨calls, hcalls⟩
  | get limit interval =>
    obtain ⟨tries, htries⟩ :=
      Nat.exists_eq_add_one.2 (Session.tries_pos w.clock limit interval)
    obtain ⟨more, hmore⟩ := poll_adds t limit interval (deadline? w.clock limit) tries h w
    refine ⟨calls ++ more, ?_⟩
    rw [after, htries, get, hmore, hcalls, List.append_assoc, List.cons_append]
  | _ => exact ha.elim

/-! ## Answers -/

/-- The handle in diagnostics, with what is said of its connector. -/
def diagnostics (h : Handle κ) (connection : String) : String :=
  "AsyncResult \x7b task_id: TaskId(" ++ Text.quoted h.id.text ++ "), task_name: " ++
    Text.quoted h.taskName ++ ", state: " ++ stateText h.state ++ ", connected: " ++
    connection ++ " \x7d"

/-- The text of a handle in diagnostics depends on its connector in one place. -/
theorem debugText_eq (t : Transport κ β) (h : Handle κ) :
    h.debugText t = h.diagnostics (h.connectionText t) := rfl

/-- A handle can be closed or it fails to. -/
theorem close_answers (t : Transport κ β) (s : Session κ β) (name : String) (h : Handle κ) :
    (Session.actOnHandle t s name h .close).1 = .done ∨
      ∃ e, (Session.actOnHandle t s name h .close).1 = .failed e := by
  simp only [Session.actOnHandle]
  rcases h.close t s.world with ⟨e | _, h', w⟩
  · exact .inr ⟨e, rfl⟩
  · exact .inl rfl

end Handle

namespace Session

variable {κ κ' β β' ε : Type}

/-- What a handle and the restored one answer to a step of a run. -/
def Echo (h : Handle κ) : Step ε → Answer → Answer → Prop
  | .handle _ .close, original, restored =>
    restored = .done ∧ (original = .done ∨ ∃ e, original = .failed e)
  | .handle _ .debug, original, restored =>
    restored = .text (h.diagnostics "None") ∧
      ∃ connection, original = .text (h.diagnostics connection)
  | _, original, restored => original = restored

/-- A handle with a body answers like the restored one, whatever connector it has. -/
theorem echo_act (t : Transport κ β) (t' : Transport κ' β') (s : Session κ β)
    (s' : Session κ' β') (name : String) (source : Source) {h : Handle κ} {b : ResultBody}
    (hb : h.body = some b) (c : Option κ) (a : HandleAct) :
    Echo h (Step.handle name a : Step ε)
      (actOnHandle t s name { h with connector := c } a).1
      (actOnHandle t' s' name (h.restored source) a).1 := by
  -- Both are in the second phase with the same body, and what is answered there is up to that.
  have hb₁ : ({ h with connector := c } : Handle κ).body = some b := hb
  have hb₂ : (h.restored source : Handle κ').body = some b := hb
  have h₁ := Handle.resolved_of_body t hb₁
  have h₂ := Handle.resolved_of_body t' hb₂
  cases a with
  | isReady =>
    show Answer.ofExcept _ (Handle.isReady t _ _).1 = Answer.ofExcept _ (Handle.isReady t' _ _).1
    rw [h₁.isReady, h₂.isReady]
  | isSuccess =>
    show Answer.ofExcept _ (Handle.isSuccess t _ _).1 =
      Answer.ofExcept _ (Handle.isSuccess t' _ _).1
    rw [h₁.isSuccess, h₂.isSuccess]
  | failed =>
    show Answer.ofExcept _ (Handle.failed t _ _).1 = Answer.ofExcept _ (Handle.failed t' _ _).1
    rw [h₁.failed, h₂.failed]
  | resultIfReady =>
    show Answer.ofExcept _ (Handle.resultIfReady t _ _).1 =
      Answer.ofExcept _ (Handle.resultIfReady t' _ _).1
    rw [h₁.resultIfReady, h₂.resultIfReady]
  | get limit interval =>
    show (actOnHandle t s name _ (.get limit interval)).1 =
      (actOnHandle t' s' name _ (.get limit interval)).1
    simp only [actOnHandle, h₁.get _ limit interval s.world (tries_pos ..),
      h₂.get _ limit interval s'.world (tries_pos ..)]
  | close => exact ⟨rfl, Handle.close_answers t s name _⟩
  | debug =>
    exact ⟨congrArg Answer.text (Handle.debugText_eq t' _), _,
      congrArg Answer.text (Handle.debugText_eq t _)⟩
  | status | result | traceback | state | info | forget | revoke | serialize => rfl

/-! ## Runs -/

/-- The step polls a handle. -/
def Step.Polls : Step ε → Prop
  | .handle _ a => a.Polls
  | _ => False

/-- A handle without a connector that has a body, or is not polled, is as idle in a step as in what
is done with it. -/
theorem idle_step (t : Transport κ β) (react : ε → World β → World β)
    {s : Session κ (β × List Call)} {name : String} {h : Handle κ}
    (hs : s.handles.get? name = some h) (hc : h.connector = none) {step : Step ε}
    (halone : step.Alone name) (hidle : h.body ≠ none ∨ ¬ step.Polls) :
    (s.step t.watched (watchedReact react) step).2.handles.get? name = some h ∧
      (s.step t.watched (watchedReact react) step).2.world.broker.2 = s.world.broker.2 := by
  cases step with
  | outside | pause => exact ⟨hs, rfl⟩
  -- The step is about this very handle, which does nothing to the transport while it is idle.
  | handle n a =>
    cases halone
    obtain ⟨hget, hworld⟩ := Handle.actOnHandle_after t.watched hs a
    obtain ⟨hsame, hbroker⟩ := Handle.after_idle t.watched hc s.world hidle
    simp only [Session.step, hs]
    exact ⟨by rw [hget, hsame], by rw [hworld, hbroker]⟩
  | _ => exact halone.elim

/-- So it is in a run. -/
theorem idle_run (t : Transport κ β) (react : ε → World β → World β)
    {s : Session κ (β × List Call)} {name : String} {h : Handle κ}
    (hs : s.handles.get? name = some h) (hc : h.connector = none) {steps : List (Step ε)}
    (halone : ∀ step ∈ steps, step.Alone name)
    (hidle : h.body ≠ none ∨ ∀ step ∈ steps, ¬ step.Polls) :
    (run t.watched (watchedReact react) s steps).2.handles.get? name = some h ∧
      (run t.watched (watchedReact react) s steps).2.world.broker.2 = s.world.broker.2 := by
  induction steps generalizing s with
  | nil => exact ⟨hs, rfl⟩
  -- Each step leaves the handle and the calls as they are, so the next one begins where it did.
  | cons step rest ih =>
    obtain ⟨hs₁, hlog₁⟩ := idle_step t react hs hc (halone step List.mem_cons_self)
      (hidle.imp_right fun hall => hall step List.mem_cons_self)
    obtain ⟨hs₂, hlog₂⟩ := ih hs₁ (fun x hx => halone x (List.mem_cons_of_mem _ hx))
      (hidle.imp_right fun hall x hx => hall x (List.mem_cons_of_mem _ hx))
    exact ⟨hs₂, hlog₂.trans hlog₁⟩

/-- A handle with a body has it after a step as well. -/
theorem known_step (t : Transport κ β) (react : ε → World β → World β) {s : Session κ β}
    {name : String} {h : Handle κ} {b : ResultBody} (hb : h.body = some b)
    (hs : s.handles.get? name = some h) {step : Step ε} (halone : step.Alone name) :
    ∃ c, (s.step t react step).2.handles.get? name = some { h with connector := c } := by
  cases step with
  | outside | pause => exact ⟨h.connector, hs⟩
  | handle n a =>
    cases halone
    obtain ⟨c, hkept⟩ := Handle.after_known t hb s.world a
    obtain ⟨hget, -⟩ := Handle.actOnHandle_after t hs a
    simp only [Session.step, hs]
    exact ⟨c, by rw [hget, hkept]⟩
  | _ => exact halone.elim

/-- A step makes a handle with a body and the restored one answer alike. -/
theorem echo_step (t : Transport κ β) (react : ε → World β → World β) (t' : Transport κ' β')
    (react' : ε → World β' → World β') (source : Source) {h : Handle κ} {b : ResultBody}
    (hb : h.body = some b) {s : Session κ β} {s' : Session κ' β'} {name : String} {c : Option κ}
    (hs : s.handles.get? name = some { h with connector := c })
    (hs' : s'.handles.get? name = some (h.restored source)) {step : Step ε}
    (halone : step.Alone name) :
    Echo h step (s.step t react step).1 (s'.step t' react' step).1 := by
  cases step with
  | outside | pause => rfl
  | handle n a =>
    cases halone
    simp only [Session.step, hs, hs']
    exact echo_act t t' s s' name source hb c a
  | _ => exact halone.elim

/-- So does a run, in which the restored handle stays as it is and calls nobody. -/
theorem echo_run (t : Transport κ β) (react : ε → World β → World β) (t' : Transport κ' β')
    (react' : ε → World β' → World β') (source : Source) {h : Handle κ} {b : ResultBody}
    (hb : h.body = some b) {s : Session κ β} {s' : Session κ' (β' × List Call)} {name : String}
    {c : Option κ} (hs : s.handles.get? name = some { h with connector := c })
    (hs' : s'.handles.get? name = some (h.restored source)) {steps : List (Step ε)}
    (halone : ∀ step ∈ steps, step.Alone name) :
    List.Forall₂ (fun step answers => Echo h step answers.1 answers.2) steps
      ((run t react s steps).1.zip (run t'.watched (watchedReact react') s' steps).1) := by
  -- The original may lose its connector on the way, so it is followed with any.
  induction steps generalizing s s' c with
  | nil => exact .nil
  | cons step rest ih =>
    have hstep := halone step List.mem_cons_self
    have hknown : (h.restored source : Handle κ').body ≠ none := h.restored_known source hb
    obtain ⟨c₁, hs₁⟩ := known_step (h := { h with connector := c }) t react hb hs hstep
    obtain ⟨hs₂, -⟩ := idle_step t' react' hs' rfl hstep (.inl hknown)
    exact .cons (echo_step t react t'.watched (watchedReact react') source hb hs hs' hstep)
      (ih hs₁ hs₂ fun x hx => halone x (List.mem_cons_of_mem _ hx))

/-- Next to a handle with a body, the restored one answers alike in any run of the same steps and
calls nobody. -/
def Mirrors (t : Transport κ β) (react : ε → World β → World β) (t' : Transport κ' β')
    (react' : ε → World β' → World β') (h : Handle κ) (h' : Handle κ') : Prop :=
  ∀ (s : Session κ β) (s' : Session κ' (β' × List Call)) (name : String) (steps : List (Step ε)),
    s.handles.get? name = some h → s'.handles.get? name = some h' →
    (∀ step ∈ steps, step.Alone name) →
    List.Forall₂ (fun step answers => Echo h step answers.1 answers.2) steps
      ((run t react s steps).1.zip (run t'.watched (watchedReact react') s' steps).1) ∧
    (run t'.watched (watchedReact react') s' steps).2.world.broker.2 = s'.world.broker.2

/-- As long as nobody polls the handle, it calls nobody, and it opens a connector before anything
else when it is polled. -/
def Lazily (t : Transport κ β) (react : ε → World β → World β) (h : Handle κ) : Prop :=
  ∀ (s s' : Session κ (β × List Call)) (name : String) (steps : List (Step ε)),
    s.handles.get? name = some h → (∀ step ∈ steps, step.Alone name) →
    (∀ step ∈ steps, ¬ step.Polls) → (run t.watched (watchedReact react) s steps).2 = s' →
    s'.world.broker.2 = s.world.broker.2 ∧
      ∀ a : HandleAct, a.Polls → ∃ calls,
        (s'.step t.watched (watchedReact react) (.handle name a)).2.world.broker.2 =
          s.world.broker.2 ++ .create :: calls

/-- A handle with a body is mirrored by the one that comes back from its text. -/
theorem mirrors_restored (t : Transport κ β) (react : ε → World β → World β)
    (t' : Transport κ' β') (react' : ε → World β' → World β') (source : Source) {h : Handle κ}
    {b : ResultBody} (hb : h.body = some b) :
    Mirrors t react t' react' h (h.restored source) := by
  intro s s' name steps hs hs' halone
  have hknown : (h.restored source : Handle κ').body ≠ none := h.restored_known source hb
  exact ⟨echo_run t react t' react' source hb (c := h.connector) hs hs' halone,
    (idle_run t' react' hs' rfl halone (.inl hknown)).2⟩

/-- A handle that has neither a body nor a connector opens one when it is first polled. -/
theorem lazily_restored (t : Transport κ β) (react : ε → World β → World β) {h : Handle κ}
    (hb : h.body = none) (hc : h.connector = none) : Lazily t react h := by
  intro s s' name steps hs halone hquiet hrun
  obtain ⟨hget, hlog⟩ := idle_run t react hs hc halone (.inr hquiet)
  rw [hrun] at hget hlog
  refine ⟨hlog, fun a ha => ?_⟩
  obtain ⟨calls, hcalls⟩ := Handle.after_opens t hc hb s'.world ha
  refine ⟨calls, ?_⟩
  simp only [Session.step, hget]
  rw [(Handle.actOnHandle_after t.watched hget a).2, hcalls, hlog]

/-- Take any handle whose body, if it has one, was read from a message, and whose descriptor passes
no option through under the key of a named one. It comes back from its text with everything but its
connector and is written as the same text again. If it has a body, it answers like the original, but
for what is about the connector, and calls nobody. If it has none, it opens a connector when it is
first polled. -/
theorem restored_alike {h : Handle κ} (hapart : h.descriptor.tls.Apart)
    (hbody : ∀ b, h.body = some b → ∃ m : ResultMessage, m.decode = .ok b)
    (hwhole : h.toJson.Whole) (hdepth : h.toJson.depth ≤ 127) (source : Source)
    (t : Transport κ β) (react : ε → World β → World β) (t' : Transport κ' β')
    (react' : ε → World β' → World β') :
    ∃ h' : Handle κ', Handle.ofText source h.serialized = .ok h' ∧
      h'.id = h.id ∧ h'.taskName = h.taskName ∧ h'.arguments = h.arguments ∧
      h'.descriptor = h.descriptor ∧ h'.body = h.body ∧ h'.connector = none ∧
      h'.serialized = h.serialized ∧
      (h.body ≠ none → Mirrors t react t' react' h h') ∧
      (h.body = none → Lazily t' react' h') := by
  have hsound : ∀ b, h.body = some b → b.Sound := by
    intro b hb
    obtain ⟨m, hm⟩ := hbody b hb
    exact ResultMessage.sound_of_decode hm
  refine ⟨h.restored source,
    Handle.ofText_restored ⟨hapart, hsound, hwhole, hdepth⟩ source, rfl, rfl, rfl, rfl, rfl, rfl,
    h.serialized_restored source, fun hb => ?_, fun hb => lazily_restored t' react' hb rfl⟩
  obtain ⟨b, hb⟩ := Option.ne_none_iff_exists'.1 hb
  exact mirrors_restored t react t' react' source hb

/-! ## A handle that cannot be closed -/

/-- A session with a handle that has not asked yet. Its first fetch will bring the result, and no
connector can be closed. -/
def clinging : Session Script.Connector Script.Broker where
  world := .start {
    fetches := [⟨0, .ok (some (statusMessage "SUCCESS"))⟩]
    closes := [⟨0, .error .notConnected⟩, ⟨0, .error .notConnected⟩] } ⟨0, 0⟩ 0
  handles := [("sum", .new ⟨"t-1"⟩ "tasks.add" "[2,2]" {} .given)]

/-- The handle after it asked. -/
def answered : Handle Script.Connector :=
  ⟨⟨"t-1"⟩, "tasks.add", "[2,2]", {}, some ⟨"SUCCESS", .null, none, []⟩, some ⟨.redis, {}, true⟩,
    .given⟩

/-- Nothing happens outside of the program. -/
def undisturbed {β : Type} : Empty → World β → World β := nofun

/-- This handle comes back from its text. -/
theorem answered_restorable : answered.Restorable where
  apart := nofun
  body b hb := by
    cases hb
    exact ResultMessage.sound_of_decode (statusMessage_decode "SUCCESS")
  whole := by
    simp [answered, Handle.toJson, Handle.members, Descriptor.toJson, Descriptor.members,
      TlsOptions.isEmpty, ResultBody.toJson, Json.Whole, Json.WholeMembers]
  depth := by decide

/-- The handle is restored without its transport, and mirrors the original from the broker in
memory. -/
theorem restored_alike_answered :
    answered.descriptor.tls.Apart ∧
      (∀ b, answered.body = some b → ∃ m : ResultMessage, m.decode = .ok b) ∧
      answered.toJson.Whole ∧ answered.toJson.depth ≤ 127 ∧
      ∃ h' : Handle Memory.Connector, Handle.ofText .registry answered.serialized = .ok h' ∧
        h'.body = answered.body ∧
        Mirrors Script.transport undisturbed Memory.transport undisturbed answered h' := by
  obtain ⟨hapart, -, hwhole, hdepth⟩ := answered_restorable
  have hbody : ∀ b, answered.body = some b → ∃ m : ResultMessage, m.decode = .ok b := by
    intro b hb
    cases hb
    exact ⟨_, statusMessage_decode "SUCCESS"⟩
  obtain ⟨h', hs, -, -, -, -, hkept, -, -, hmirrors, -⟩ := restored_alike hapart hbody
    hwhole hdepth .registry Script.transport undisturbed Memory.transport undisturbed
  exact ⟨hapart, hbody, hwhole, hdepth, h', hs, hkept, hmirrors nofun⟩

/-- The handle gets its result and comes back from its text. In the same session the original then
fails to close, and the restored one does not. -/
theorem restored_close :
    ∃ s, (run Script.transport undisturbed clinging [.handle "sum" .isReady]).2 = s ∧
      s.handles.get? "sum" = some answered ∧ answered.Restorable ∧
      ∃ h' : Handle Script.Connector, Handle.ofText .given answered.serialized = .ok h' ∧
        (actOnHandle Script.transport s "sum" answered .close).1 =
          .failed ConnectorError.notConnected.toError ∧
        (actOnHandle Script.transport s "sum" h' .close).1 = .done := by
  -- Of the world after the look only the script for closing matters.
  obtain ⟨v, hlook, hcloses⟩ : ∃ v, (Handle.new ⟨"t-1"⟩ "tasks.add" "[2,2]" {} .given).isReady
      Script.transport clinging.world = (.ok true, answered, v) ∧
        v.broker.closes = clinging.world.broker.closes := by
    simp [clinging, answered, Handle.isReady, Handle.new, Handle.ask, Handle.connected,
      Handle.opened, Script.transport, Script.create, Script.connect, Script.take,
      Script.Broker.record, Handle.receive, statusMessage_decode, World.start, World.setBroker,
      World.sleep, World.count, World.note]
  have hget : clinging.handles.get? "sum" =
      some (.new ⟨"t-1"⟩ "tasks.add" "[2,2]" {} .given) := rfl
  have hrun : (run Script.transport undisturbed clinging [.handle "sum" .isReady]).2 =
      clinging.withHandle "sum" answered v := by
    simp only [run, step, hget, actOnHandle, hlook]
  have hclose : (answered.close Script.transport v).1 =
      .error ConnectorError.notConnected.toError := by
    simp [Handle.close, answered, Script.transport, hcloses, clinging, Script.take, World.start]
  refine ⟨_, hrun, Named.get?_set_self .., answered_restorable, _,
    Handle.ofText_restored answered_restorable .given, ?_, rfl⟩
  show Answer.ofExcept _ (answered.close Script.transport v).1 = _
  rw [hclose]
  rfl

end Session
end TaskQueue
