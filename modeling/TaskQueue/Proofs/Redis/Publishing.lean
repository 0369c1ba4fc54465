import TaskQueue.Proofs.Dialogue
import TaskQueue.Proofs.Json.Order
import TaskQueue.Proofs.Task.Envelope
import TaskQueue.Proofs.Text.Base64
import TaskQueue.Redis.Connector
import TaskQueue.Redis.Server

/-!
# `TaskQueue.Proofs.Redis.Publishing`: what is pushed onto a list

On Redis an envelope travels in a message, which is a JSON text on the list of the exchange.
`Message.Carries` is what a consumer finds in that text: the envelope byte for byte, and beside it
the properties that it was published with. A message can be made if and only if the envelope names a
task (`Message.Names`), and `Message.names_toBytes` says that every envelope does that was built, if
its document can be read at all.

`Connector.publish_message` puts this together with the commands that a publication sends. These
are few: `Connector.Pushed` lists all that can happen, whoever answers.
-/

set_option autoImplicit false

namespace TaskQueue

open Json Members

/-- What stands at the end of a path of keys. -/
def Json.at? : Json → List String → Option Json
  | v, [] => some v
  | v, key :: path => (v.get? key).bind (·.at? path)

namespace Redis

namespace Message

/-! ## The id in an envelope -/

/-- The envelope is a JSON document of at most 127 levels whose id is a text. -/
def Names (envelope : Bytes) (id : String) : Prop :=
  ∃ document, Json.parseBytes envelope = .ok document ∧ document.get? "id" = some (.string id)

/-- The identifier is read from an envelope exactly if the envelope names it. -/
theorem idOf_iff {envelope : Bytes} {id : String} :
    idOf envelope = .ok id ↔ Names envelope id := by
  unfold idOf Names
  cases Json.parseBytes envelope with
  | error f => exact ⟨nofun, fun ⟨_, h, _⟩ => nomatch h⟩
  | ok document =>
    -- A member that is no text counts as none.
    have htext : (document.get? "id").bind Json.text? = some id ↔
        document.get? "id" = some (.string id) := by
      rw [Option.bind_eq_some_iff]
      constructor
      · rintro ⟨v, hv, ht⟩
        cases v <;> cases ht
        exact hv
      · exact fun h => ⟨_, h, rfl⟩
    have hdocument : (∃ x, (Except.ok document : Except Fault Json) = .ok x ∧
        x.get? "id" = some (.string id)) ↔ document.get? "id" = some (.string id) :=
      ⟨fun ⟨_, hx, hid⟩ => by cases hx; exact hid, fun h => ⟨_, rfl, h⟩⟩
    rw [hdocument, ← htext]
    dsimp only
    cases (document.get? "id").bind Json.text? with
    | none => exact ⟨nofun, nofun⟩
    | some s => exact ⟨fun h => congrArg some (Except.ok.inj h),
        fun h => congrArg Except.ok (Option.some.inj h)⟩

/-- An envelope names one task at most. -/
theorem names_or_not (envelope : Bytes) :
    (∃ id, idOf envelope = .ok id ∧ Names envelope id) ∨
      ∃ reason, idOf envelope = .error reason ∧ ∀ id, ¬ Names envelope id := by
  cases h : idOf envelope with
  | ok id => exact .inl ⟨id, rfl, idOf_iff.1 h⟩
  | error reason =>
    refine .inr ⟨reason, rfl, fun id hid => ?_⟩
    rw [← idOf_iff, h] at hid
    cases hid

/-- An envelope that was built names its task, if its document can be read. -/
theorem names_toBytes {now : Instant} {id : TaskId} {task : String} {arguments : Json.Value}
    {o : TaskOptions} {e : Envelope} (h : Envelope.build now id task arguments o = .ok e)
    (ha : arguments.json.Fits) (ho : FitsMembers o.extensions.entries)
    (hdepth : e.toJson.depth ≤ 127) :
    Names e.toBytes id.text := by
  refine ⟨_, Json.parseBytes_encode (Envelope.build_fits h ha ho) hdepth, ?_⟩
  have hsound := Envelope.build_sound h
  -- The id is the first member, and neither the other own members nor an extension have its key.
  have honly : "id" ∉ keys e.members.tail := by
    have hown : "id" ∉ keys e.own.tail := (List.nodup_cons.1 (Envelope.nodup_own e)).1
    show "id" ∉ keys (e.own.tail ++ e.extensions)
    rw [keys, List.map_append, List.mem_append, not_or]
    refine ⟨hown, fun hmem => ?_⟩
    obtain ⟨m, hm, hid⟩ := List.mem_map.1 hmem
    exact hsound m hm (by rw [hid]; exact List.mem_cons_self)
  have hmembers : e.members = [] ++ ("id", .string e.id.text) :: e.members.tail := rfl
  rw [Envelope.toJson, hmembers, get?_reread _ _ honly, Envelope.build_id h,
    reread_string]

/-! ## The document -/

/-- What a consumer finds in the document of a message. -/
structure Carries (document : Json) (d : Descriptor) (routingKey : String) (envelope : Bytes)
    (p : PublishProperties) (id : String) : Prop where
  body : ∃ s, document.at? ["body"] = some (.string s) ∧ Base64.decode? s = some envelope
  headers : document.at? ["headers"] =
    some (.object (p.headers.entries.map fun h => (h.1, .string h.2)))
  contentType : document.at? ["content-type"] = some (.string p.contentType)
  contentEncoding : document.at? ["content-encoding"] =
    some (.string (Text.lower p.contentEncoding))
  routingKey : document.at? ["properties", "delivery_info", "routing_key"] =
    some (.string routingKey)
  exchange : document.at? ["properties", "delivery_info", "exchange"] = some (.string d.exchange)
  deliveryTag : document.at? ["properties", "delivery_tag"] = some (.string id)
  replyTo : document.at? ["properties", "reply_to"] = some (.string id)
  deliveryMode : document.at? ["properties", "delivery_mode"] =
    some (.int (p.deliveryMode.getD 2).toNat)
  bodyEncoding : document.at? ["properties", "body_encoding"] = some (.string "base64")

/-- The message for an envelope. -/
def letter (d : Descriptor) (routingKey : String) (envelope : Bytes) (p : PublishProperties)
    (id : String) : Message where
  body := envelope
  headers := p.headers
  contentType := p.contentType
  contentEncoding := Text.lower p.contentEncoding
  taskId := id
  routingKey := routingKey
  exchange := d.exchange
  deliveryMode := p.deliveryMode.getD defaultMode

/-- An envelope that names a task is wrapped into the letter that carries it. -/
theorem ofEnvelope_of_names {envelope : Bytes} {id : String} (h : Names envelope id)
    (d : Descriptor) (routingKey : String) (p : PublishProperties) :
    ofEnvelope d routingKey envelope p = .ok (letter d routingKey envelope p id) := by
  rw [ofEnvelope, idOf_iff.2 h]
  rfl

/-- Headers are not nested. -/
theorem depth_headers (headers : List (String × String)) :
    depthMembers (headers.map fun h => (h.1, .string h.2)) = 0 := by
  induction headers with
  | nil => rfl
  | cons h hs ih => simp only [List.map_cons, depthMembers, depth, ih, Nat.max_self]

/-- Headers are texts, and a text comes back as it is. -/
theorem whole_headers (headers : List (String × String)) :
    WholeMembers (headers.map fun h => (h.1, .string h.2)) := by
  induction headers with
  | nil => trivial
  | cons h hs ih => exact ⟨trivial, ih⟩

/-- The document of a message as it is read: the members of each object are sorted. -/
theorem reread_letter (d : Descriptor) (routingKey : String) (envelope : Bytes)
    (p : PublishProperties) (id : String) :
    (letter d routingKey envelope p id).toJson.reread = .object [
      ("body", .string (Base64.encode envelope)),
      ("content-encoding", .string (Text.lower p.contentEncoding)),
      ("content-type", .string p.contentType),
      ("headers", .object (p.headers.entries.map fun h => (h.1, .string h.2))),
      ("properties", .object [
        ("body_encoding", .string "base64"),
        ("delivery_info", .object [
          ("exchange", .string d.exchange),
          ("priority", .int 0),
          ("routing_key", .string routingKey)]),
        ("delivery_mode", .int (p.deliveryMode.getD 2).toNat),
        ("delivery_tag", .string id),
        ("reply_to", .string id)])] := by
  -- All members are known but those of the headers, and these are in order already.
  have hascending : Ascending (p.headers.entries.map fun h => (h.1, Json.string h.2)) := by
    have hheaders := p.headers.ascending
    rwa [Ascending, keys, List.map_map]
  have hordered : OrderedMembers (p.headers.entries.map fun h => (h.1, Json.string h.2)) := by
    refine orderedMembers_iff.2 fun m hm => ?_
    obtain ⟨h, -, rfl⟩ := List.mem_map.1 hm
    trivial
  have hwhole : (Json.object (p.headers.entries.map fun h => (h.1, Json.string h.2))).Whole :=
    whole_headers p.headers.entries
  have hheaders := reread_of_whole hwhole ⟨hascending, hordered⟩
  rw [letter, toJson, reread]
  simp only [rereadMembers, hheaders, reread_string]
  rw [reread]
  simp only [rereadMembers]
  rw [reread]
  simp only [rereadMembers, reread_string, reread_int]
  simp +decide only [sort, List.foldl_cons, List.foldl_nil, Members.insert, if_true, if_false,
    defaultMode, PublishProperties.persistentMode]

/-- The text of a message is read as a document that carries everything. -/
theorem carries_letter (d : Descriptor) (routingKey : String) (envelope : Bytes)
    (p : PublishProperties) (id : String) :
    ∃ document, Json.parse (letter d routingKey envelope p id).text = .ok document ∧
      Carries document d routingKey envelope p id := by
  have hmode := (p.deliveryMode.getD defaultMode).toNat_lt
  have hwhole : (letter d routingKey envelope p id).toJson.Whole := by
    simp only [letter, toJson, Whole, WholeMembers, whole_headers, true_and, and_true]
    omega
  have hdepth : (letter d routingKey envelope p id).toJson.depth ≤ 127 := by
    simp only [letter, toJson, depth, depthMembers, depth_headers]
    omega
  refine ⟨_, Json.parse_text hwhole.fits hdepth, ?_⟩
  rw [reread_letter d routingKey envelope p id]
  exact ⟨⟨_, rfl, Base64.decode?_encode envelope⟩, rfl, rfl, rfl, rfl, rfl, rfl, rfl, rfl, rfl⟩

end Message

namespace Connector

/-! ## What is sent -/

variable {σ : Type}

/-- What a publication comes to and what it asks for, by what it is answered.

- `unconnected`: a connector that is not connected asks for nothing;
- `starved`: there is no connection to borrow;
- `refused`: the text was sent, and the server did not take it;
- `accepted`: the text was sent, and the server took it. -/
inductive Pushed (answer : (q : Request) → σ → Answer q × σ) (s : σ) (c : Connector)
    (text : String) : Except ConnectorError Bool → List Request → Prop
  | unconnected : c.connected = false → Pushed answer s c text (.error .notConnected) []
  | starved {reason : String} : c.connected = true → (answer .lease s).1 = .error reason →
    Pushed answer s c text (.error (.pool reason)) [.lease]
  | refused {reason : String} : c.connected = true → (answer .lease s).1 = .ok () →
    (answer (.call (.push c.descriptor.exchange text)) (answer .lease s).2).1 = .error reason →
    Pushed answer s c text (.error (.publish reason))
      [.lease, .call (.push c.descriptor.exchange text)]
  | accepted {length : Nat} : c.connected = true → (answer .lease s).1 = .ok () →
    (answer (.call (.push c.descriptor.exchange text)) (answer .lease s).2).1 = .ok length →
    Pushed answer s c text (.ok true) [.lease, .call (.push c.descriptor.exchange text)]

/-- What is left of a publication when the message is made. -/
def pushing (c : Connector) (routingKey text : String) :
    Dialogue Request Answer (Except ConnectorError Bool) :=
  .ask .lease fun
    | .ok () => .ask (.call (.push c.descriptor.exchange text)) fun
      | .ok _ => .note (.message .debug "Pushed task envelope"
          [("list", .shown c.descriptor.exchange), ("routing_key", .text routingKey)])
          (.done (.ok true))
      | .error reason => .done (.error (.publish reason))
    | .error reason => .done (.error (.pool reason))

/-- A publication that has a letter to send goes by the connection alone. -/
theorem publish_run (c : Connector) (routingKey : String) {envelope : Bytes}
    (p : PublishProperties) {id : String} (h : Message.Names envelope id) :
    (c.publish routingKey envelope p).run =
      if c.connected then
        c.pushing routingKey (Message.letter c.descriptor routingKey envelope p id).text
      else .done (.error .notConnected) := by
  simp only [publish, Message.ofEnvelope_of_names h, demandConnected]
  -- Both sides ask for the connection and then push, so they agree answer by answer.
  cases c.connected with
  | false => rfl
  | true =>
    show Dialogue.ask _ _ = Dialogue.ask _ _
    congr 1
    funext r
    rcases r with reason | _
    · rfl
    · show Dialogue.ask _ _ = Dialogue.ask _ _
      congr 1
      funext r
      cases r <;> rfl

/-- An envelope that names no task is refused without a word. -/
theorem publish_run_unnamed (c : Connector) (routingKey : String) {envelope : Bytes}
    (p : PublishProperties) {reason : String} (h : Message.idOf envelope = .error reason) :
    (c.publish routingKey envelope p).run = .done (.error (.publish reason)) := by
  rw [publish, Message.ofEnvelope, h]
  rfl

/-- Whoever answers, what happens is one of the four things that can. -/
theorem pushed_of_names (answer : (q : Request) → σ → Answer q × σ) (s : σ) (c : Connector)
    (routingKey : String) {envelope : Bytes} (p : PublishProperties) {id : String}
    (h : Message.Names envelope id) :
    Pushed answer s c (Message.letter c.descriptor routingKey envelope p id).text
      ((c.publish routingKey envelope p).run.run answer s).1
      ((c.publish routingKey envelope p).run.asked answer s) := by
  rw [publish_run c routingKey p h]
  generalize (Message.letter c.descriptor routingKey envelope p id).text = text
  cases hc : c.connected with
  | false => exact .unconnected hc
  | true =>
    rw [if_pos rfl, pushing, Dialogue.run, Dialogue.asked]
    -- There are two requests at most: for a connection, and the push over it.
    rcases hl : answer .lease s with ⟨reason | _, s₁⟩
    · exact .starved hc (by rw [hl])
    · have hlease : (answer .lease s).1 = .ok () := by rw [hl]
      rcases hp : answer (.call (.push c.descriptor.exchange text)) s₁ with ⟨reason | length, s₂⟩
      · have hpush : (answer (.call (.push c.descriptor.exchange text)) (answer .lease s).2).1 =
            .error reason := by rw [hl, hp]
        have hrefused := Pushed.refused hc hlease hpush
        simp only [Dialogue.run, Dialogue.asked, hp]
        exact hrefused
      · have hpush : (answer (.call (.push c.descriptor.exchange text)) (answer .lease s).2).1 =
            .ok length := by rw [hl, hp]
        have haccepted := Pushed.accepted hc hlease hpush
        simp only [Dialogue.run, Dialogue.asked, hp]
        exact haccepted

end Connector

/-- A publication to Redis fails before it asks for anything, with an error of publishing, if and
only if the envelope names no task. If it does name one, the publication asks for a connection and
then sends one text to the list of the exchange, and it succeeds if and only if the server takes the
text. What is sent is read as a document that carries the envelope and its properties. Every
envelope that was built names its task, if its document is nested in at most 127 levels. -/
theorem publish_message {σ : Type} (answer : (q : Request) → σ → Answer q × σ) (s : σ)
    (c : Connector) (routingKey : String) (envelope : Bytes) (p : PublishProperties) :
    ((∃ reason, ((c.publish routingKey envelope p).run.run answer s).1 =
          .error (.publish reason)) ∧
        (c.publish routingKey envelope p).run.asked answer s = [] ↔
      ∀ id, ¬ Message.Names envelope id) ∧
    (∀ id, Message.Names envelope id → ∃ text document,
      Connector.Pushed answer s c text
        ((c.publish routingKey envelope p).run.run answer s).1
        ((c.publish routingKey envelope p).run.asked answer s) ∧
      Json.parse text = .ok document ∧
      Message.Carries document c.descriptor routingKey envelope p id) ∧
    ∀ (now : Instant) (id : TaskId) (task : String) (arguments : Json.Value) (o : TaskOptions)
      (e : Envelope), Envelope.build now id task arguments o = .ok e → arguments.json.Fits →
      FitsMembers o.extensions.entries → e.toJson.depth ≤ 127 →
      Message.Names e.toBytes id.text := by
  refine ⟨⟨?_, fun hnone => ?_⟩, fun id hid => ?_, fun now id task arguments o e h ha ho hdepth =>
    Message.names_toBytes h ha ho hdepth⟩
  · -- If the envelope names a task, an error of publishing comes after something was sent.
    rintro ⟨⟨reason, hfailed⟩, hasked⟩ id hid
    have hpushed := Connector.pushed_of_names answer s c routingKey p hid
    rw [hfailed, hasked] at hpushed
    cases hpushed
  · obtain ⟨id, -, hid⟩ | ⟨reason, hreason, -⟩ := Message.names_or_not envelope
    · exact absurd hid (hnone id)
    · rw [Connector.publish_run_unnamed c routingKey p hreason]
      exact ⟨⟨reason, rfl⟩, rfl⟩
  · obtain ⟨document, hparse, hcarries⟩ :=
      Message.carries_letter c.descriptor routingKey envelope p id
    exact ⟨_, document, Connector.pushed_of_names answer s c routingKey p hid, hparse, hcarries⟩

/-- An envelope with two numbers. -/
def sumEnvelope : Envelope := ⟨⟨"t-1"⟩, "tasks.add", [.int 2, .int 2], [], 0, none, none, []⟩

/-- It is published with a header, by a connector that is connected. -/
theorem publish_message_sum :
    ∃ text document, Connector.Pushed Server.answer {} ⟨{}, true⟩ text
      ((Connector.publish ⟨{}, true⟩ "celery" sumEnvelope.toBytes
        (PublishProperties.json.header "lang" "py")).run.run Server.answer {}).1
      ((Connector.publish ⟨{}, true⟩ "celery" sumEnvelope.toBytes
        (PublishProperties.json.header "lang" "py")).run.asked Server.answer {}) ∧
      Json.parse text = .ok document ∧
      Message.Carries document {} "celery" sumEnvelope.toBytes
        (PublishProperties.json.header "lang" "py") "t-1" := by
  obtain ⟨-, hcarried, hbuilt⟩ := publish_message Server.answer {} ⟨{}, true⟩ "celery"
    sumEnvelope.toBytes (PublishProperties.json.header "lang" "py")
  have hnumbers : (Json.array [.int 2, .int 2]).Fits := by simp [Fits, FitsItems]
  have hnames := hbuilt ⟨0, 0⟩ ⟨"t-1"⟩ "tasks.add" (.array [.int 2, .int 2]) {} sumEnvelope rfl
    hnumbers trivial (by decide)
  exact hcarried "t-1" hnames

end Redis
end TaskQueue
