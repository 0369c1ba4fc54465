import TaskQueue.Proofs.Client.Phases
import TaskQueue.Proofs.Client.Stages
import TaskQueue.Proofs.Json.Decoded
import TaskQueue.Transport.Beside

/-!
# `TaskQueue.Proofs.Client.Beside`: clients and handles that have the network beside them

A transport like the broker in memory makes connectors whatever source they are asked from. A real
program is given a transport and has the registry of backends beside it, and the two are told apart:
`Transport.beside` asks the given transport for what comes from there, and the network for the rest.

What takes its connectors from the given transport does the same with the network beside it, and the
network stays as it is. There is one equation for each operation of a handle, a producer and a
client, such as `Handle.isReady_beside` and `Client.post_beside`.

A handle that was restored without the transport takes its connectors from the registry
(`Handle.Far`). Whatever is done with it, the given broker stays as it is (`Handle.after_far`).
-/

set_option autoImplicit false

namespace TaskQueue

variable {κ β ε α : Type}

/-! ## What stands beside the network -/

/-- The world with a network beside its broker. -/
def World.beside (n : Network) (w : World β) : World (β × Network) := w.around (w.broker, n)

/-- The handle with its connector, if it has one, on the given side. -/
def Handle.beside (h : Handle κ) : Handle (κ ⊕ Connector) :=
  ⟨h.id, h.taskName, h.arguments, h.descriptor, h.body, h.connector.map .inl, h.source⟩

/-- The client with its connectors on the given side. -/
def Client.beside (c : Client κ) : Client (κ ⊕ Connector) := ⟨.inl c.broker, .inl c.backend⟩

section
variable (t : Transport κ β) (n : Network)

/-! ## Connectors -/

namespace Transport

/-- A connector that is asked from the given transport is one of its own. -/
theorem beside_create (d : Descriptor) (w : World β) :
    t.beside.create .given d (w.beside n) =
      ((t.create .given d w).1.map .inl, (t.create .given d w).2.beside n) := rfl

/-- A connector of the given transport connects as it does without the network. -/
theorem beside_connect (c : κ) (w : World β) :
    t.beside.connect (.inl c) (w.beside n) =
      ((t.connect c w).1, .inl (t.connect c w).2.1, (t.connect c w).2.2.beside n) := rfl

/-- It publishes as it does without the network. -/
theorem beside_publish (c : κ) (routingKey : String) (body : Bytes)
    (properties : PublishProperties) (w : World β) :
    t.beside.publish (.inl c) routingKey body properties (w.beside n) =
      ((t.publish c routingKey body properties w).1,
        .inl (t.publish c routingKey body properties w).2.1,
        (t.publish c routingKey body properties w).2.2.beside n) := rfl

/-- It fetches as it does without the network. -/
theorem beside_fetch (c : κ) (id : TaskId) (remove : Bool) (w : World β) :
    t.beside.fetch (.inl c) id remove (w.beside n) =
      ((t.fetch c id remove w).1, .inl (t.fetch c id remove w).2.1,
        (t.fetch c id remove w).2.2.beside n) := rfl

/-- It closes as it does without the network. -/
theorem beside_close (c : κ) (w : World β) :
    t.beside.close (.inl c) (w.beside n) =
      ((t.close c w).1, .inl (t.close c w).2.1, (t.close c w).2.2.beside n) := rfl

end Transport

/-! ## Handles -/

namespace Handle

/-- What comes of an operation, with the network beside it. -/
def across (x : α × Handle κ × World β) : α × Handle (κ ⊕ Connector) × World (β × Network) :=
  (x.1, x.2.1.beside, x.2.2.beside n)

variable {t} {h : Handle κ}

/-- A handle that takes its connectors from the given transport is connected to the given broker. -/
theorem connected_beside (hs : h.source = .given) (w : World β) :
    h.beside.connected t.beside (w.beside n) =
      ((h.connected t w).1.map .inl, (h.connected t w).2.1.beside,
        (h.connected t w).2.2.beside n) := by
  obtain ⟨id, taskName, arguments, descriptor, body, connector, source⟩ := h
  obtain rfl : source = .given := hs
  cases connector with
  -- The connector that is still to be made is made on the near side, since the source is the given
  -- one.
  | none =>
    simp only [connected, opened, beside, Option.map_none, Transport.beside_create]
    rcases t.create .given descriptor w with ⟨_ | c, w₁⟩
    · rfl
    · simp only [Except.map, Transport.beside_connect]
      rcases t.connect c w₁ with ⟨_ | _, c₂, w₂⟩ <;> rfl
  | some c =>
    simp only [connected, opened, beside, Option.map_some, Transport.beside_connect]
    rcases t.connect c w with ⟨_ | _, c₂, w₂⟩ <;> rfl

/-- What a fetch found is taken in the same way, wherever it came from. -/
theorem receive_beside (backend : String) (found : Found) (w : World β) :
    h.beside.receive backend found (w.beside n) = across n (h.receive backend found w) := by
  unfold receive
  split
  · rfl
  · rfl
  · rfl
  · split <;> rfl

/-- Asking for a result does the same beside the network. -/
theorem ask_beside (hs : h.source = .given) (w : World β) :
    h.beside.ask t.beside (w.beside n) = across n (h.ask t w) := by
  simp only [ask, connected_beside n hs]
  rcases h.connected t w with ⟨_ | c, h₁, w₁⟩
  · rfl
  · let h₂ : Handle κ :=
      { h₁ with connector := some (t.fetch c h₁.id h₁.descriptor.removesResults w₁).2.1 }
    exact receive_beside n (h := h₂) (t.kind c).name
      (t.fetch c h₁.id h₁.descriptor.removesResults w₁).1 _

/-- So does a look, which asks only if the result is not known. -/
theorem isReady_beside (hs : h.source = .given) (w : World β) :
    h.beside.isReady t.beside (w.beside n) = across n (h.isReady t w) := by
  cases hb : h.body with
  | none => simpa only [isReady, beside, hb] using ask_beside n hs w
  | some b => simp only [isReady, beside, hb, across]

/-- So does a look that gives the result as well. -/
theorem resultIfReady_beside (hs : h.source = .given) (w : World β) :
    h.beside.resultIfReady t.beside (w.beside n) = across n (h.resultIfReady t w) := by
  simp only [resultIfReady, isReady_beside n hs]
  rcases h.isReady t w with ⟨_ | _ | _, h₁, w₁⟩ <;> rfl

/-- So does a look that also checks a condition. -/
theorem isReadyAnd_beside (condition : ResultBody → Bool) (hs : h.source = .given) (w : World β) :
    h.beside.isReadyAnd t.beside condition (w.beside n) =
      across n (h.isReadyAnd t condition w) := by
  simp only [isReadyAnd, isReady_beside n hs]
  rcases h.isReady t w with ⟨_ | _ | _, h₁, w₁⟩ <;> rfl

/-- So does waiting, which is one look after the other. -/
theorem poll_beside (limit interval : Duration) (deadline : Option Nat) (tries : Nat)
    (hs : h.source = .given) (w : World β) :
    poll t.beside limit interval deadline tries h.beside (w.beside n) =
      across n (poll t limit interval deadline tries h w) := by
  -- No look changes the source, so the handle stays with the given transport.
  induction tries generalizing h w with
  | zero => rfl
  | succ tries ih =>
    have hsame := isReady_same t h w
    simp only [poll, isReady_beside n hs]
    rcases hr : h.isReady t w with ⟨_ | _ | _, h₁, w₁⟩
    · rfl
    · rw [hr] at hsame
      have hs₁ : h₁.source = .given := hsame.source.trans hs
      cases deadline with
      | none => exact ih hs₁ (w₁.sleep interval.nanoseconds)
      | some d =>
        have hclock : (w₁.beside n).clock = w₁.clock := rfl
        simp only [across, hclock]
        split
        · rfl
        · exact ih hs₁ (w₁.sleep (min interval.nanoseconds (d - w₁.clock)))
    · rfl

/-- A handle that is closed lets go of the connector of the given transport. -/
theorem close_beside (h : Handle κ) (w : World β) :
    h.beside.close t.beside (w.beside n) = across n (h.close t w) := by
  obtain ⟨id, taskName, arguments, descriptor, body, connector, source⟩ := h
  cases connector with
  | none => rfl
  | some c =>
    simp only [close, beside, Option.map_some, Transport.beside_close]
    rcases t.close c w with ⟨_ | _, c₂, w₂⟩ <;> rfl

/-- The handle in diagnostics does not tell what is beside it. -/
theorem debugText_beside (h : Handle κ) : h.beside.debugText t.beside = h.debugText t := by
  obtain ⟨id, taskName, arguments, descriptor, body, connector, source⟩ := h
  cases connector <;> rfl

/-- What is decoded has no connector yet, so it is the same handle beside the network. -/
theorem decode_beside (source : Source) (r : Reading) (d : Draft) :
    (decode source : Decoder (Handle (κ ⊕ Connector))) r d =
      ((decode source : Decoder (Handle κ)) r d).map beside := by
  refine Decode.record_map (fun p => ?_) r d
  simp only [Except.map_bind]
  rfl

/-- A handle is read from its text as it is without the network. -/
theorem ofText_beside (source : Source) (s : String) :
    (ofText source s : Except Fault (Handle (κ ⊕ Connector))) =
      (ofText source s : Except Fault (Handle κ)).map beside := by
  simp only [ofText, Decode.string, Decode.document, decode_beside, bind, Except.bind]
  rcases (decode source : Decoder (Handle κ)) .json
    (Draft.ofPieces (s.toList.map Utf8.Piece.char)).root with _ | h
  · rfl
  · simp only [Except.map]
    split <;> rfl

end Handle

/-! ## Producers and clients -/

namespace Producer

/-- Counting and logging what a publication came to does not depend on the broker. -/
theorem settle_beside (e : Envelope) (exchange backend : String) (started : Nat)
    (outcome : Except ConnectorError Bool) (w : World β) :
    settle e exchange backend started outcome (w.beside n) =
      ((settle e exchange backend started outcome w).1,
        (settle e exchange backend started outcome w).2.beside n) := by
  rcases outcome with _ | _ | _ <;> rfl

/-- Publishing an envelope does the same beside the network. -/
theorem publish_beside (c : κ) (e : Envelope) (routingKey : Option String) (w : World β) :
    publish t.beside (.inl c) e routingKey (w.beside n) =
      ((publish t c e routingKey w).1, .inl (publish t c e routingKey w).2.1,
        (publish t c e routingKey w).2.2.beside n) := by
  rcases publish_cases t c e routingKey w with
    ⟨fault, c₁, w₁, hc, heq⟩ | ⟨c₁, w₁, outcome, c₂, w₂, hc, hp, heq⟩
  -- If the connection fails, there is nothing more to compare.
  · have hconnect := Transport.beside_connect t n c w
    rw [hc] at hconnect
    simp only [publish, hconnect, hc]
  · have hconnect := Transport.beside_connect t n c w
    have hpublish := Transport.beside_publish t n c₁ (routingKey.getD (t.descriptor c).binding)
      e.toBytes (properties (t.descriptor c)) (announced t c e w₁)
    rw [hc] at hconnect
    rw [hp] at hpublish
    rw [heq, publish_of_connect t.beside hconnect hpublish]
    simp only [settle_beside]
    rfl

/-- So does submitting a task: the id and the time come from the world, which is the same. -/
theorem submit_beside (c : κ) (task : String) (arguments : Json.Value) (o : TaskOptions)
    (w : World β) :
    submit t.beside (.inl c) task arguments o (w.beside n) =
      ((submit t c task arguments o w).1, .inl (submit t c task arguments o w).2.1,
        (submit t c task arguments o w).2.2.beside n) := by
  have hfresh : (w.beside n).freshId = (w.freshId.1, w.freshId.2.beside n) := rfl
  have hnow : (w.freshId.2.beside n).now = w.freshId.2.now := rfl
  simp only [submit, hfresh, hnow]
  rcases Envelope.build w.freshId.2.now w.freshId.1 task arguments o with _ | e
  · rfl
  · simp only [publish_beside]
    rcases publish t c e o.routingKey w.freshId.2 with ⟨_ | _, c₁, w₁⟩ <;> rfl

end Producer

namespace Client

/-- What comes of an operation, with the network beside it. -/
def across (x : α × Client κ × World β) : α × Client (κ ⊕ Connector) × World (β × Network) :=
  (x.1, x.2.1.beside, x.2.2.beside n)

/-- A task that was submitted, with its handle on the given side. -/
def submittedBeside : Submitted κ → Submitted (κ ⊕ Connector)
  | .result h => .result h.beside
  | .sent id => .sent id

variable (c : Client κ)

/-- A client is made with two connectors of the given transport. -/
theorem create_beside (broker backend : Descriptor) (w : World β) :
    create t.beside broker backend (w.beside n) =
      ((create t broker backend w).1.map beside, (create t broker backend w).2.beside n) := by
  simp only [create, Transport.beside_create]
  rcases t.create .given broker w with ⟨_ | b, w₁⟩
  · rfl
  · simp only [Except.map, Transport.beside_create]
    rcases t.create .given backend w₁ with ⟨_ | c, w₂⟩ <;> rfl

/-- The client connects as it does without the network. -/
theorem connect_beside (w : World β) :
    c.beside.connect t.beside (w.beside n) = across n (c.connect t w) := rfl

/-- Posting a task does the same beside the network, and the handle is on the given side. -/
theorem post_beside (task : String) (arguments : Except String Json.Value) (o : TaskOptions)
    (wantResult : Bool) (w : World β) :
    c.beside.post t.beside task arguments o wantResult (w.beside n) =
      ((c.post t task arguments o wantResult w).1.map submittedBeside,
        (c.post t task arguments o wantResult w).2.1.beside,
        (c.post t task arguments o wantResult w).2.2.beside n) := by
  cases arguments with
  | error reason => rfl
  | ok arguments =>
    simp only [post, beside, Producer.submit_beside]
    rcases Producer.submit t c.broker task arguments o w with ⟨_ | e, b, w₁⟩
    · rfl
    · cases wantResult <;> rfl

/-- Fetching a message does the same beside the network. -/
theorem fetchMessage_beside (taskName : String) (id : TaskId) (remove : Bool) (w : World β) :
    c.beside.fetchMessage t.beside taskName id remove (w.beside n) =
      across n (c.fetchMessage t taskName id remove w) := by
  simp only [fetchMessage, beside, Transport.beside_connect]
  rcases t.connect c.backend w with ⟨_ | _, c₁, w₁⟩
  · rfl
  · simp only [Transport.beside_fetch]
    rcases t.fetch c₁ id remove w₁ with ⟨_ | _, c₂, w₂⟩ <;> rfl

/-- The client closes its connectors as it does without the network. -/
theorem close_beside (w : World β) :
    c.beside.close t.beside (w.beside n) = across n (c.close t w) := by
  simp only [close, beside, Transport.beside_close]
  rcases t.close c.broker w with ⟨_ | _, c₁, w₁⟩ <;> rfl

end Client

end

/-! ## Handles that have lost the transport -/

namespace Transport

variable (t : Transport κ β) {w : World (β × Network)}

/-- After a call in the world `w` the connector is one of the network, and the given broker is as it
was. -/
def IsFar (w : World (β × Network)) (c : κ ⊕ Connector) (v : World (β × Network)) : Prop :=
  (∃ c', c = .inr c') ∧ v.broker.1 = w.broker.1

/-- A connector that is asked from elsewhere is one of the network. -/
theorem create_far {source : Source} (hs : source ≠ .given) (d : Descriptor) :
    (t.beside.create source d w).2.broker.1 = w.broker.1 ∧
      ∀ c, (t.beside.create source d w).1 = .ok c → ∃ c', c = .inr c' := by
  -- Every source but the given one is made on the far side.
  have hcreate : t.beside.create source d w =
      ((Network.transport.create source d (farWorld w)).1.map .inr,
        withFar w (Network.transport.create source d (farWorld w)).2) := by
    cases source with
    | given => exact absurd rfl hs
    | registry | kind _ => rfl
  rw [hcreate]
  refine ⟨rfl, fun c hc => ?_⟩
  cases hmade : (Network.transport.create source d (farWorld w)).1 with
  | error e =>
    rw [hmade] at hc
    cases hc
  | ok c' =>
    rw [hmade] at hc
    cases hc
    exact ⟨c', rfl⟩

/-- Connecting it leaves the given broker as it is. -/
theorem connect_far {c : Connector} {r : Except ConnectorError Unit} {c₂ : κ ⊕ Connector}
    {w₂ : World (β × Network)} (h : t.beside.connect (.inr c) w = (r, c₂, w₂)) :
    IsFar w c₂ w₂ := by
  cases h
  exact ⟨⟨_, rfl⟩, rfl⟩

/-- So does fetching with it. -/
theorem fetch_far {c : Connector} {id : TaskId} {remove : Bool} {found : Found}
    {c₂ : κ ⊕ Connector} {w₂ : World (β × Network)}
    (h : t.beside.fetch (.inr c) id remove w = (found, c₂, w₂)) : IsFar w c₂ w₂ := by
  cases h
  exact ⟨⟨_, rfl⟩, rfl⟩

end Transport

namespace Handle

/-- The handle takes its connectors from elsewhere, and has none of the given transport. -/
structure Far (h : Handle (κ ⊕ Connector)) : Prop where
  source : h.source ≠ .given
  connector : ∀ c, h.connector ≠ some (.inl c)

variable (t : Transport κ β) {h : Handle (κ ⊕ Connector)}

/-- Whatever connector it works with belongs to the network. -/
theorem opened_far (hh : h.Far) (w : World (β × Network)) :
    (h.opened t.beside w).2.broker.1 = w.broker.1 ∧
      ∀ c, (h.opened t.beside w).1 = .ok c → ∃ c', c = .inr c' := by
  unfold opened
  split
  · rename_i c hc
    refine ⟨rfl, fun c' heq => ?_⟩
    cases heq
    cases c with
    | inl c => exact absurd hc (hh.connector c)
    | inr c => exact ⟨c, rfl⟩
  · exact t.create_far hh.source h.descriptor

/-- A look of such a handle goes to the network, and leaves the given broker as it is. -/
theorem isReady_far (hh : h.Far) (w : World (β × Network)) :
    (h.isReady t.beside w).2.1.Far ∧ (h.isReady t.beside w).2.2.broker.1 = w.broker.1 := by
  cases hb : h.body with
  | some b =>
    rw [isReady_of_body t.beside hb]
    exact ⟨hh, rfl⟩
  | none =>
    obtain ⟨hnear, hfar⟩ := opened_far t hh w
    rw [isReady_of_none t.beside hb]
    -- The connector was opened by this handle, so it is one of the far side, and so is what becomes
    -- of it.
    rcases ask_cases t.beside h w with ⟨e, w₁, ho, ha⟩ | ⟨c, w₁, e, c₂, w₂, ho, hc, ha⟩ |
      ⟨c, w₁, c₂, w₂, found, c₃, w₃, ho, hc, hf, ha⟩ <;> rw [ho] at hnear hfar
    · rw [ha]
      exact ⟨hh, hnear⟩
    · obtain ⟨c', rfl⟩ := hfar c rfl
      obtain ⟨⟨c₂, rfl⟩, h₂⟩ := t.connect_far hc
      rw [ha]
      exact ⟨⟨hh.source, nofun⟩, h₂.trans hnear⟩
    · obtain ⟨c', rfl⟩ := hfar c rfl
      obtain ⟨⟨c₂, rfl⟩, h₂⟩ := t.connect_far hc
      obtain ⟨⟨c₃, rfl⟩, h₃⟩ := t.fetch_far hf
      obtain ⟨-, hh', hbroker, -⟩ := receive_verdict { h with connector := some (Sum.inr c₃) } hb
        (t.beside.kind (.inr c₂)).name found w₃
      rw [ha, hh', hbroker]
      exact ⟨⟨hh.source, nofun⟩, (h₃.trans h₂).trans hnear⟩

/-- Closing lets go of a connector of the network, so it does not reach the given broker either. -/
theorem close_far (hh : h.Far) (w : World (β × Network)) :
    (h.close t.beside w).2.1.Far ∧ (h.close t.beside w).2.2.broker.1 = w.broker.1 := by
  cases hc : h.connector with
  | none =>
    simp only [close, hc]
    exact ⟨hh, trivial⟩
  | some c =>
    cases c with
    | inl c => exact absurd hc (hh.connector c)
    | inr c =>
      have hnear : (t.beside.close (.inr c) w).2.2.broker.1 = w.broker.1 := rfl
      simp only [close, hc]
      generalize t.beside.close (.inr c) w = closed at hnear ⊢
      have hnone : ∀ c, none ≠ some (Sum.inl c : κ ⊕ Connector) :=
        fun c => (Option.some_ne_none (Sum.inl c)).symm
      rcases closed with ⟨_ | ⟨⟩, c', w'⟩ <;> exact ⟨⟨hh.source, hnone⟩, hnear⟩

/-- Whatever is done with such a handle, the given broker stays as it is. -/
theorem after_far (hh : h.Far) (w : World (β × Network)) (a : Session.HandleAct) :
    (h.after t.beside w a).1.Far ∧ (h.after t.beside w a).2.broker.1 = w.broker.1 := by
  cases a with
  | isReady | isSuccess | failed | resultIfReady => exact isReady_far t hh w
  | get limit interval =>
    -- Every look keeps to it, and between the looks nothing but time passes.
    exact poll_keeps
      (R := fun h w h' w' => h.Far → h'.Far ∧ w'.broker.1 = w.broker.1) t.beside
      (fun h w hh => isReady_far t hh w) (fun h w v hbroker _ hh => ⟨hh, by rw [hbroker]⟩)
      (fun hfirst hrest hh => ⟨(hrest (hfirst hh).1).1,
        (hrest (hfirst hh).1).2.trans (hfirst hh).2⟩) limit interval _ _ h w hh
  | close => exact close_far t hh w
  | status | result | traceback | state | info | forget | revoke | debug | serialize =>
    exact ⟨hh, rfl⟩

end Handle
end TaskQueue
