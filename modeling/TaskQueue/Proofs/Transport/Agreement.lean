import TaskQueue.Proofs.Json.Strays
import TaskQueue.Proofs.Transport.Shelves

/-!
# `TaskQueue.Proofs.Transport.Agreement`: one result on several brokers

Over AMQP the bytes of a message are decoded as the body of a result. Redis takes the bytes of a
value for a text first, then for a JSON object, and only then for a body. Whoever passes the last
of these has passed all of them, since a body is read from the text of an object only
(`ResultBody.text_of_bytes`). So the two ways differ in nothing but the words for what is
malformed, with one exception: bytes that are no text are malformed over AMQP, and cannot be
fetched from Redis. `Handle.first_looks_agree` says so of first looks over the three connectors.
-/

set_option autoImplicit false

namespace TaskQueue

/-! ## What the bytes mean -/

/-- Bytes from which a body is read are the text of an object. -/
theorem ResultBody.text_of_bytes {bs : Bytes} {b : ResultBody}
    (h : Decode.bytes ResultBody.decode bs = .ok b) :
    ∃ s, Utf8.decode? bs = some s ∧ ∃ ms, Json.parse s = .ok (.object ms) := by
  obtain ⟨hroot, htrailing⟩ := Decode.document_ok.1 h
  -- The body has fields that are looked at without their values being kept, and each still asks for
  -- a value.
  have hstrict : ∀ f ∈ [("status", Decode.check Decode.text),
      ("result", Decode.check Decode.json),
      ("traceback", Decode.check (Decode.optional Decode.text))], Decode.Strict f.2 := by
    simp only [List.mem_cons, List.not_mem_nil, or_false]
    rintro f (rfl | rfl | rfl)
    · exact Decode.strict_text
    · exact Decode.strict_json
    · exact Decode.strict_text.optional
  obtain ⟨ms, hms⟩ := Decode.openRecord_value hstrict hroot
  have hparse : Json.parseBytes bs = .ok (.object ms) := Decode.document_ok.2 ⟨hms, htrailing⟩
  obtain ⟨s, hs⟩ := Json.parseBytes_text hparse
  refine ⟨s, hs, ms, ?_⟩
  rw [Json.parse, ← Decode.bytes_of_text Decode.json hs]
  exact hparse

/-- The body that bytes stand for, if they stand for one. -/
def meaning? (bs : Bytes) : Option ResultBody := (Decode.bytes ResultBody.decode bs).toOption

/-- Bytes that are not the text of an object stand for no body. -/
theorem meaning?_eq_none {bs : Bytes}
    (h : ∀ s, Utf8.decode? bs = some s → ¬ ∃ ms, Json.parse s = .ok (.object ms)) :
    meaning? bs = none := by
  rw [meaning?]
  cases hbody : Decode.bytes ResultBody.decode bs with
  | error f => rfl
  | ok b =>
    obtain ⟨s, hs, hobject⟩ := ResultBody.text_of_bytes hbody
    exact (h s hs hobject).elim

/-- Bytes that are not text have no meaning. -/
theorem meaning?_of_stray {bs : Bytes} (h : Utf8.decode? bs = none) : meaning? bs = none := by
  refine meaning?_eq_none fun s hs => ?_
  rw [h] at hs
  cases hs

namespace Handle

variable {κ β : Type}

/-- What is told of bytes with this meaning: the body, or that they are malformed. -/
def Tells : Option ResultBody → Except Error (Option ResultBody) → Prop
  | some b, v => v = .ok (some b)
  | none, v => ∃ reason, v = .error (.malformedResult reason)

/-- What a fetch reports of the bytes of a message labelled as JSON tells what they mean. -/
theorem tells_ofJsonBytes (bs : Bytes) :
    Tells (meaning? bs) (verdict (.ok (some (.ofJsonBytes bs)))) := by
  rw [verdict, meaning?]
  cases hread : Decode.bytes ResultBody.decode bs with
  -- The labels of the message are those of JSON, so its body alone decides.
  | ok b =>
    have hdecode : (ResultMessage.ofJsonBytes bs).decode = .ok b := by
      simp [ResultMessage.decode, ResultMessage.validate, ResultMessage.mistyped?,
        ResultMessage.ofJsonBytes, hread]
    rw [hdecode]
    rfl
  | error f =>
    have hdecode : (ResultMessage.ofJsonBytes bs).decode =
        .error (.malformedResult ("undecodable result body: " ++ f.message)) := by
      simp [ResultMessage.decode, ResultMessage.validate, ResultMessage.mistyped?,
        ResultMessage.ofJsonBytes, hread]
    rw [hdecode]
    exact ⟨_, rfl⟩

/-- What Redis makes of the bytes of a text is what they mean. -/
theorem tells_readValue {bs : Bytes} {s : String} (hs : Utf8.decode? bs = some s) (key : String) :
    Tells (meaning? bs) (verdict
      ((Redis.Connector.readValue key bs).map fun text => some (.ofJsonText text))) := by
  by_cases hobject : ∃ ms, Json.parse s = .ok (.object ms)
  · -- The text is encoded again, and read like the bytes that it came from.
    obtain ⟨ms, hms⟩ := hobject
    have hsame : meaning? (Utf8.encode s) = meaning? bs := by
      rw [meaning?, meaning?, Decode.bytes_of_text _ hs, Decode.bytes_of_text _
        (Utf8.decode?_eq_some_iff.2 (Utf8.pieces_encode s))]
    have hread : Redis.Connector.readValue key bs = .ok s := by
      simp only [Redis.Connector.readValue, hs, hms]
    rw [hread, ← hsame]
    exact tells_ofJsonBytes (Utf8.encode s)
  · -- What is no object is no body either.
    have hread : Redis.Connector.readValue key bs =
        .error (.malformed ("value under " ++ key ++ " is not a JSON object")) := by
      simp only [Redis.Connector.readValue, hs]
      split
      · rename_i ms hms
        exact (hobject ⟨ms, hms⟩).elim
      · rfl
    have hmeaning : meaning? bs = none := by
      refine meaning?_eq_none fun s' hs' => ?_
      rw [hs] at hs'
      cases hs'
      exact hobject
    rw [hread, hmeaning]
    exact ⟨_, rfl⟩

/-! ## First looks -/

/-- A look of a handle without a body, over a connector that its broker answers, answers by what
is on the shelf, and keeps the body that is there. -/
theorem look_calm {S : Shelf κ β} {t : Transport κ β} (hS : S.Guarded t) {h : Handle κ}
    {w w' : World β} {c : κ} (hb : h.body = none) (ho : h.opened t w = (.ok c, w'))
    (hserves : S.serves c) (hcalm : S.calm c w'.broker) :
    (h.isReady t w).1 = readiness (verdict (S.found h.id w'.broker)) ∧
      (h.isReady t w).2.1.body = delivered (verdict (S.found h.id w'.broker)) := by
  rw [isReady_of_none t hb]
  rcases ask_cases t h w with ⟨e, w₁, ho', -⟩ | ⟨c₁, w₁, e, c₂, w₂, ho', hc, -⟩ |
    ⟨c₁, w₁, c₂, w₂, found, c₃, w₃, ho', hc, hf, ha⟩
  · rw [ho] at ho'
    cases ho'
  · rw [ho] at ho'
    cases ho'
    have hconnect := hS.connect c w' hserves
    rw [hc] at hconnect
    exact ((hconnect.error e rfl).2 hcalm).elim
  · rw [ho] at ho'
    cases ho'
    have hconnect := hS.connect c w' hserves
    rw [hc] at hconnect
    have hfetch := hS.fetch c₂ h.id h.descriptor.removesResults w₂ hconnect.serves
      (hconnect.ok rfl)
    rw [hf] at hfetch
    obtain ⟨hr, hh, -⟩ := receive_verdict { h with connector := some c₃ } hb (t.kind c₂).name
      found w₃
    -- On a calm broker no fetch fails, so it brings what is on the shelf.
    have hfound : found = S.found h.id w'.broker := by
      rcases hfetch.answer with hanswer | ⟨e, -, -, hnot⟩
      · exact hanswer.trans (hconnect.found h.id)
      · exact (hnot (hconnect.calm hcalm)).elim
    rw [ha, hr, hh, hfound]
    exact ⟨rfl, rfl⟩

/-- What a handle learns from a look at bytes with this meaning: that the result is there, and it
keeps the body, or that it is malformed. -/
def Learns (t : Transport κ β) (h : Handle κ) (w : World β) : Option ResultBody → Prop
  | some b => (h.isReady t w).1 = .ok true ∧ (h.isReady t w).2.1.body = some b
  | none => ∃ reason, (h.isReady t w).1 = .error (.malformedResult reason)

/-- A handle learns a meaning from a look that reported it. -/
theorem learns_of_tells {t : Transport κ β} {h : Handle κ} {w : World β}
    {v : Except Error (Option ResultBody)} (hr : (h.isReady t w).1 = readiness v)
    (hbody : (h.isReady t w).2.1.body = delivered v) {meaning : Option ResultBody}
    (hv : Tells meaning v) : h.Learns t w meaning := by
  cases meaning with
  | some b =>
    cases hv
    exact ⟨hr, hbody⟩
  | none =>
    obtain ⟨reason, rfl⟩ := hv
    exact ⟨reason, hr⟩

end Handle

/-- The broker of a connector answers it and has these bytes as the result of a task: over AMQP in
the only message of the queue, on Redis under the key. -/
def Network.Stored (id : TaskId) (bs : Bytes) : Connector → Network → Prop
  | .redis c, n =>
    n.redis.keys.get? id.resultKey = some (.string bs) ∧ n.redis.Calm c.descriptor.redisUrl
  | c, n =>
    n.amqp.queues.messages id.resultQueue = [.ofJsonBytes bs] ∧ n.amqp.Calm (Network.url c)

namespace Handle

/-- The handle looks for the first time, over such a connector, and these bytes are the result of
its task. -/
structure FirstLook (id : TaskId) (bs : Bytes) (P : Connector → Prop) (h : Handle Connector)
    (w : World Network) : Prop where
  task : h.id = id
  body : h.body = none
  opens : ∃ c w', h.opened Network.transport w = (.ok c, w') ∧ P c ∧
    Network.Stored id bs c w'.broker

section
variable {id : TaskId} {bs : Bytes} {h : Handle Connector} {w : World Network}

/-- A first look with a connector of one kind is one with a connector of any wider kind. -/
theorem FirstLook.mono {P Q : Connector → Prop} (hlook : FirstLook id bs P h w)
    (hP : ∀ c, P c → Q c) : FirstLook id bs Q h w := by
  obtain ⟨c, w', ho, hc, hstored⟩ := hlook.opens
  exact ⟨hlook.task, hlook.body, c, w', ho, hP c hc, hstored⟩

/-- A first look over AMQP teaches the handle what the stored bytes mean. -/
theorem learns_amqp (hlook : FirstLook id bs (fun c => ∀ r, c ≠ .redis r) h w) :
    h.Learns Network.transport w (meaning? bs) := by
  obtain ⟨rfl, hb, c, w', ho, hc, hstored⟩ := hlook
  -- Both AMQP connectors take the first message of the queue, which is the only one.
  have hamqp : Network.amqpShelf.serves c ∧
      w'.broker.amqp.queues.messages h.id.resultQueue = [.ofJsonBytes bs] ∧
      w'.broker.amqp.Calm (Network.url c) := by
    cases c with
    | redis r => exact (hc r rfl).elim
    | native d link => exact ⟨.inl ⟨d, link, rfl⟩, hstored⟩
    | direct c => exact ⟨.inr ⟨c, rfl⟩, hstored⟩
  obtain ⟨hserves, hmessages, hcalm⟩ := hamqp
  have hfound : Network.amqpShelf.found h.id w'.broker = .ok (some (.ofJsonBytes bs)) := by
    simp only [Network.amqpShelf, Amqp.Broker.found, hmessages, List.head?_cons]
    rfl
  obtain ⟨hr, hbody⟩ := look_calm Network.amqpShelf_guarded hb ho hserves hcalm
  rw [hfound] at hr hbody
  exact learns_of_tells hr hbody (tells_ofJsonBytes bs)

/-- A first look over Redis reports what reading the value as text gives. -/
theorem look_redis (hlook : FirstLook id bs (fun c => ∃ r, c = .redis r) h w) :
    ∃ key, (h.isReady Network.transport w).1 = readiness (verdict
        ((Redis.Connector.readValue key bs).map fun text => some (.ofJsonText text))) ∧
      (h.isReady Network.transport w).2.1.body = delivered (verdict
        ((Redis.Connector.readValue key bs).map fun text => some (.ofJsonText text))) := by
  obtain ⟨rfl, hb, c, w', ho, ⟨r, rfl⟩, hkey, hcalm⟩ := hlook
  have hfound : Network.redisShelf.found h.id w'.broker =
      (Redis.Connector.readValue h.id.resultKey bs).map fun text => some (.ofJsonText text) := by
    simp only [Network.redisShelf, Redis.Server.found, hkey]
  have hlooked := look_calm Network.redisShelf_guarded hb ho ⟨r, rfl⟩ hcalm
  rw [hfound] at hlooked
  exact ⟨_, hlooked⟩

/-- Bytes that are no text cannot be fetched from Redis. -/
theorem look_redis_stray (hlook : FirstLook id bs (fun c => ∃ r, c = .redis r) h w)
    (hbs : Utf8.decode? bs = none) :
    ∃ reason, (h.isReady Network.transport w).1 = .error (.connectionFailed reason) := by
  obtain ⟨key, hr, -⟩ := look_redis hlook
  simp only [Redis.Connector.readValue, hbs] at hr
  exact ⟨_, hr⟩

/-- For the same bytes first looks over the native, the direct and the Redis connector come to the
same, whether they remove the result or not, exactly if the bytes are a text. Bytes that are none
are malformed over AMQP, and on Redis the connection is said to have failed. -/
theorem first_looks_agree {native direct redis : Handle Connector} {w₁ w₂ w₃ : World Network}
    (hnative : FirstLook id bs (fun c => ∃ d link, c = .native d link) native w₁)
    (hdirect : FirstLook id bs (fun c => ∃ d, c = .direct d) direct w₂)
    (hredis : FirstLook id bs (fun c => ∃ r, c = .redis r) redis w₃) :
    native.Learns Network.transport w₁ (meaning? bs) ∧
      direct.Learns Network.transport w₂ (meaning? bs) ∧
      (redis.Learns Network.transport w₃ (meaning? bs) ↔ (Utf8.decode? bs).isSome = true) ∧
      (Utf8.decode? bs = none → meaning? bs = none ∧
        ∃ reason, (redis.isReady Network.transport w₃).1 = .error (.connectionFailed reason)) := by
  refine ⟨learns_amqp (hnative.mono ?_), learns_amqp (hdirect.mono ?_), ⟨fun hl => ?_, ?_⟩,
    fun hbs => ⟨meaning?_of_stray hbs, look_redis_stray hredis hbs⟩⟩
  · rintro c ⟨d, link, rfl⟩ r hr
    cases hr
  · rintro c ⟨d, rfl⟩ r hr
    cases hr
  · -- A failed connection is neither a body nor a malformed result.
    cases hbs : Utf8.decode? bs with
    | some s => rfl
    | none =>
      rw [meaning?_of_stray hbs] at hl
      obtain ⟨reason, hmalformed⟩ := hl
      obtain ⟨reason', hfailed⟩ := look_redis_stray hredis hbs
      rw [hfailed] at hmalformed
      cases hmalformed
  · intro htext
    obtain ⟨s, hs⟩ := Option.isSome_iff_exists.1 htext
    obtain ⟨key, hr, hbody⟩ := look_redis hredis
    exact learns_of_tells hr hbody (tells_readValue hs key)

/-- The text of a report is read by all three. -/
theorem first_looks_agree_success :
    let id : TaskId := ⟨"7f3a"⟩
    let bs := Utf8.encode "\x7b\"status\": \"SUCCESS\", \"result\": 4\x7d"
    let w : World Network := .start
      { redis := Redis.Server.putString {} id.resultKey bs
        amqp := Amqp.Broker.put {} id.resultQueue (.ofJsonBytes bs) } ⟨0, 0⟩ 0
    let amqp : Descriptor := { host := "127.0.0.1", port := 5672 }
    let redis : Descriptor := { host := "127.0.0.1", port := 6379, keepMessages := true }
    let handle := fun (d : Descriptor) (kind : BackendKind) =>
      (Handle.new id "add" "(1, 2)" d (.kind kind) : Handle Connector)
    ∃ b, meaning? bs = some b ∧ (handle amqp .native).Learns Network.transport w (some b) ∧
      (handle amqp .amqp).Learns Network.transport w (some b) ∧
      (handle redis .redis).Learns Network.transport w (some b) := by
  intro id bs w amqp redis handle
  have hmessages : w.broker.amqp.queues.messages id.resultQueue = [.ofJsonBytes bs] := by
    decide +kernel
  have hkey : w.broker.redis.keys.get? id.resultKey = some (.string bs) := by decide +kernel
  have hamqp : w.broker.amqp.Calm amqp.amqpUri := ⟨rfl, by decide +kernel⟩
  have hredis : w.broker.redis.Calm redis.redisUrl := ⟨rfl, rfl, by decide +kernel⟩
  have hmeaning : (meaning? bs).isSome = true := by decide +kernel
  obtain ⟨b, hb⟩ := Option.isSome_iff_exists.1 hmeaning
  have hnative : FirstLook id bs (fun c => ∃ d link, c = .native d link)
      (handle amqp .native) w :=
    ⟨rfl, rfl, .native amqp none, w.noteAll [], rfl, ⟨_, _, rfl⟩, hmessages, hamqp⟩
  have hdirect : FirstLook id bs (fun c => ∃ d, c = .direct d) (handle amqp .amqp) w :=
    ⟨rfl, rfl, .direct ⟨amqp, .amqp, amqp.amqpUri, none, false⟩, w.noteAll [], rfl, ⟨_, rfl⟩,
      hmessages, hamqp⟩
  have hlook : FirstLook id bs (fun c => ∃ r, c = .redis r) (handle redis .redis) w :=
    ⟨rfl, rfl, .redis ⟨redis, false⟩, w.noteAll [], rfl, ⟨_, rfl⟩, hkey, hredis⟩
  have hall := first_looks_agree hnative hdirect hlook
  rw [hb] at hall
  exact ⟨b, hb, hall.1, hall.2.1, hall.2.2.1.2 (by decide +kernel)⟩

/-- A byte that no text has is malformed over AMQP, and a failed connection on Redis. -/
theorem first_looks_disagree :
    let id : TaskId := ⟨"7f3a"⟩
    let w : World Network := .start
      { redis := Redis.Server.putString {} id.resultKey [0xFF]
        amqp := Amqp.Broker.put {} id.resultQueue (.ofJsonBytes [0xFF]) } ⟨0, 0⟩ 0
    let amqp : Descriptor := { host := "127.0.0.1", port := 5672 }
    let redis : Descriptor := { host := "127.0.0.1", port := 6379 }
    let look := fun (d : Descriptor) (kind : BackendKind) =>
      ((Handle.new id "add" "(1, 2)" d (.kind kind)).isReady Network.transport w).1
    let malformed := Error.malformedResult "undecodable result body: expected value"
    look amqp .native = .error malformed ∧ look amqp .amqp = .error malformed ∧
      look redis .redis =
        .error (.connectionFailed "consume error: the value is not UTF-8 text") := by
  decide +kernel

end
end Handle
end TaskQueue
