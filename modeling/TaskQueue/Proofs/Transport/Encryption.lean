import TaskQueue.Proofs.Amqp.Sessions
import TaskQueue.Proofs.Transport.Shelves
import TaskQueue.Proofs.Url.Scheme

/-!
# `TaskQueue.Proofs.Transport.Encryption`: what becomes of the wish for an encrypted connection

A connector dials the URL it was made with, and no other, whatever is done with it and whatever it
is answered (`Connector.dials_url`). So it is the URL that decides whether a connection is
encrypted. `Url.Written` says that a URL is written and read with a scheme.

A descriptor that asks for encryption gets it from every connector but that of Redis, and it gets
that one only if it asks for Redis by name. Then its options are ignored, and a warning is logged.
`Connector.encrypted_unless_named` says so for every set of capabilities. It takes the connectors
apart by `Connector.ofDescriptor_ok`: what the registry chooses is asked for by name, or it is
the backend for TLS.
-/

set_option autoImplicit false

namespace TaskQueue

variable {α : Type}

/-! ## Whom a dialogue dials -/

/-- In whatever way a connector is used, its dialogues make such requests only. -/
structure Speaks {Q : Type} {A : Q → Type} (P : Q → Prop) (connect : Attempt Q A Unit)
    (publish : String → Bytes → PublishProperties → Attempt Q A Bool)
    (fetch : TaskId → Bool → Attempt Q A (Option ResultMessage)) : Prop where
  connect : connect.run.Asks P
  publish (routingKey : String) (envelope : Bytes) (properties : PublishProperties) :
    (publish routingKey envelope properties).run.Asks P
  fetch (id : TaskId) (remove : Bool) : (fetch id remove).run.Asks P

namespace Amqp

/-- A request that needs a connection gets it from this URL. -/
def Request.To (url : String) : Request → Prop
  | .dial u => u = url
  | .lease u => u = url
  | _ => True

variable {url : String}

/-- A method goes over the channel that is open, so it dials nothing. -/
theorem method_to (fault : String → ConnectorError) (m : Method) :
    (demand fault (call m)).run.Asks (Request.To url) :=
  demand_asks (.ask trivial fun _ => .done _)

/-- Neither does the end of a conversation. -/
theorem closing_to (what : String) (m : Method) : (closing what m).Asks (Request.To url) := by
  refine .ask trivial fun r => ?_
  cases r with
  | ok => exact .done _
  | error reason => exact .note (.done _)

/-- What neither opens nor closes anything needs no connection. -/
theorem Request.To.of_inside {q : Request} (h : q.Inside) : q.To url := by
  cases q with
  | dial _ => exact (h trivial).elim
  | lease _ => exact (h trivial).elim
  | call _ | clock | sleep _ => trivial

namespace Native

/-- The native connector dials the address of its descriptor, and its work nothing else. -/
theorem onChannel_to {d : Descriptor} {work : Try α}
    (hwork : work.run.Asks (Request.To d.amqpUri)) :
    (onChannel d work).run.Asks (Request.To d.amqpUri) :=
  Attempt.asks_bind (demand_asks (.ask rfl fun _ => .done _)) fun _ =>
    Attempt.asks_bind (method_to _ _) fun _ =>
      hwork.bind fun _ => (closing_to _ _).bind fun _ => .done _

/-- The native connector dials the URL of its descriptor. -/
theorem speaks (d : Descriptor) :
    Speaks (Request.To d.amqpUri) (connect d) (publish d) (fetch d) where
  connect := Attempt.asks_bind (demand_asks (.ask rfl fun _ => .done _)) fun _ => .note (.done _)
  publish _ _ _ := onChannel_to ((publishEnvelope_inside d _ _ _).mono fun _ => .of_inside)
  fetch id remove := onChannel_to ((fetchOnce_inside d id remove).mono fun _ => .of_inside)

end Native

namespace Direct

/-- The direct connector dials its own address, and its work nothing else. -/
theorem inSession_to {c : Direct} {work : Try α} (hwork : work.run.Asks (Request.To c.url)) :
    (c.inSession work).run.Asks (Request.To c.url) := by
  unfold inSession
  split
  · exact .done _
  · refine Attempt.asks_bind (demand_asks (.ask rfl fun _ => .done _)) fun _ => ?_
    refine .ask trivial fun r => ?_
    cases r with
    | error reason => exact (closing_to _ _).bind fun _ => .done _
    | ok =>
      exact hwork.bind fun _ => (closing_to _ _).bind fun _ => (closing_to _ _).bind fun _ =>
        .done _

/-- A direct connector dials the URL that it was made with. -/
theorem speaks (c : Direct) : Speaks (Request.To c.url) c.connect c.publish c.fetch where
  connect := by
    unfold connect
    split
    · exact .done _
    · refine Attempt.asks_bind (demand_asks (.ask rfl fun _ => .done _)) fun _ => ?_
      exact Attempt.asks_bind ((closing_to _ _).bind fun _ => .done _) fun _ => .note (.done _)
  publish _ _ _ := inSession_to ((publishEnvelope_inside _ _ _ _).mono fun _ => .of_inside)
  fetch id remove := inSession_to ((c.watch_inside id remove).mono fun _ => .of_inside)

end Direct
end Amqp

namespace Redis

/-- A request that dials dials this URL. -/
def Request.To (url : String) : Request → Prop
  | .dial u => u = url
  | _ => True

namespace Connector

/-- The Redis connector dials the Redis URL of its descriptor. -/
theorem speaks (c : Connector) :
    Speaks (Request.To c.descriptor.redisUrl) c.connect c.publish c.fetch where
  connect := by
    unfold connect
    split
    · exact .done _
    · exact Attempt.asks_bind (dial_asks rfl) fun _ =>
        Attempt.asks_bind (call_asks trivial) fun _ => .note (.done _)
  publish _ _ _ :=
    Attempt.asks_bind (.done _) fun _ => Attempt.asks_bind (demandConnected_asks c) fun _ =>
      Attempt.asks_bind (lease_asks trivial) fun _ =>
        Attempt.asks_bind (call_asks trivial) fun _ => .note (.done _)
  fetch _ _ := fetch_asks c trivial trivial fun _ => trivial

end Connector
end Redis

namespace Connector

/-- Whatever is done with the connector, connected or not, it dials this URL and no other. -/
def DialsOnly (url : String) : Connector → Prop
  | redis c => ∀ connected, let c : Redis.Connector := { c with connected := connected }
    Speaks (Redis.Request.To url) c.connect c.publish c.fetch
  | native d _ =>
    Speaks (Amqp.Request.To url) (Amqp.Native.connect d) (Amqp.Native.publish d)
      (Amqp.Native.fetch d)
  | direct c => ∀ connected, let c : Amqp.Direct := { c with connected := connected }
    Speaks (Amqp.Request.To url) c.connect c.publish c.fetch

/-- Every connector dials the one address that it was made with. -/
theorem dials_url (c : Connector) : c.DialsOnly (Network.url c) := by
  cases c with
  | redis c => exact fun connected => Redis.Connector.speaks { c with connected := connected }
  | native d link => exact Amqp.Native.speaks d
  | direct c => exact fun connected => Amqp.Direct.speaks { c with connected := connected }

/-- The URL that is dialled first of all when the connector is connected. -/
def firstDialled? : Connector → Option String
  | redis c =>
    match c.connect.run with
    | .ask (.dial url) _ => some url
    | _ => none
  | native d none =>
    match (Amqp.Native.connect d).run with
    | .ask (.dial url) _ => some url
    | _ => none
  | native _ (some _) => none
  | direct c =>
    match c.connect.run with
    | .ask (.dial url) _ => some url
    | _ => none

end Connector

/-! ## The scheme of the URL -/

/-- The URL begins with a scheme, and is read with it if it can be read at all. -/
structure Url.Written (scheme url : String) : Prop where
  front : ∃ rest, url = scheme ++ "://" ++ rest
  read (u : Url) : Url.parse url = .ok u → u.scheme = scheme

namespace Url.Written

/-- An address that begins with a scheme and two slashes is written under that scheme. -/
theorem of_front {scheme : String} (hscheme : IsScheme scheme.toList) (rest : String) :
    Written scheme (scheme ++ "://" ++ rest) :=
  ⟨⟨rest, rfl⟩, fun _ => scheme_of_written hscheme⟩

/-- An address that begins with `amqps://` is written under `amqps`. -/
theorem amqps (rest : String) : Written "amqps" ("amqps://" ++ rest) :=
  of_front (.of_check (by decide +kernel)) rest

/-- An address that begins with `redis://` is written under `redis`. -/
theorem redis (rest : String) : Written "redis" ("redis://" ++ rest) :=
  of_front (.of_check (by decide +kernel)) rest

/-- No address is written under both schemes. -/
theorem not_both {url : String} (hamqps : Written "amqps" url) : ¬ Written "redis" url := by
  intro hredis
  obtain ⟨rest, h⟩ := hamqps.front
  obtain ⟨rest', h'⟩ := hredis.front
  have hchars := congrArg (fun s => s.toList.head?) (h.symm.trans h')
  simp at hchars

end Url.Written

namespace Descriptor

/-- With options for TLS the AMQP URL is one of an encrypted connection. -/
theorem amqpUri_encrypted {d : Descriptor} (htls : d.wantsTls = true) :
    ∃ rest, d.amqpUri = "amqps://" ++ rest := by
  simp only [amqpUri, htls, if_true]
  split
  · exact ⟨_, rfl⟩
  · exact ⟨_, by simp only [String.append_assoc]; rfl⟩

/-- The Redis URL is one of a plain connection, with and without options for TLS. -/
theorem redisUrl_plain (d : Descriptor) : Url.Written "redis" d.redisUrl := by
  simp only [redisUrl, String.append_assoc]
  exact .redis _

/-- A backend of this kind is asked for by name. -/
def AsksFor (d : Descriptor) (kind : BackendKind) : Prop :=
  ∃ name, d.explicitBackend = some name ∧ BackendKind.ofName name = .ok kind

end Descriptor

/-- A URL of an encrypted connection is left as it is. -/
theorem TlsOptions.applyToUrl_encrypted (rest : String) :
    applyToUrl ("amqps://" ++ rest) = "amqps://" ++ rest := by
  simp [applyToUrl, dropFront]

/-! ## What the registry makes -/

namespace Capabilities

variable {caps : Capabilities} {d : Descriptor} {kind : BackendKind}

/-- With options for TLS a backend is chosen only if it was asked for by name or is the one for
TLS. -/
theorem resolve_encrypted (htls : d.wantsTls = true) (h : caps.resolve d = .ok kind) :
    caps.supports kind = true ∧ (d.AsksFor kind ∨ kind = .amqpTls) := by
  unfold resolve select at h
  -- A name is taken at its word. Without one, TLS leaves a single choice.
  split at h
  · rename_i name hname
    split at h
    · cases h
    · rename_i asked hasked
      split at h
      · rename_i hsupports
        cases h
        exact ⟨hsupports, .inl ⟨name, hname, hasked⟩⟩
      · cases h
  · rw [if_pos htls] at h
    split at h
    · rename_i hsupports
      cases h
      exact ⟨hsupports, .inr rfl⟩
    · cases h

/-- The backend that a descriptor asks for is chosen if it is supported, encryption or not. -/
theorem resolve_asked (hasks : d.AsksFor kind) (hsupports : caps.supports kind = true) :
    caps.resolve d = .ok kind := by
  obtain ⟨name, hname, hkind⟩ := hasks
  simp only [resolve, select, hname, hkind, hsupports, if_true]

/-- The warning that a backend which was asked for by name does not encrypt. -/
def unencrypted (kind : BackendKind) : Event :=
  .message .warn "TLS options are ignored by the requested backend"
    [("backend", .shown kind.name)]

/-- If TLS is wanted of a backend that cannot do it, a warning says so. -/
theorem unencrypted_logged (htls : d.wantsTls = true) (hasks : d.AsksFor kind)
    (hsupports : caps.supports kind = true) (hkind : kind.supportsTls = false) :
    unencrypted kind ∈ caps.resolutionEvents d := by
  have hresolve := resolve_asked hasks hsupports
  obtain ⟨name, hname, -⟩ := hasks
  simp [resolutionEvents, hresolve, selectionEvents, hname, htls, hkind, unencrypted]

end Capabilities

namespace Connector

variable {caps : Capabilities} {files : Files} {d : Descriptor} {kind : BackendKind}
  {c : Connector}

/-- A connector for AMQP over TLS has the address with the TLS options applied. -/
theorem ofKind_secure (h : ofKind files d .amqpTls = .ok c) :
    ∃ chain, c = .direct ⟨d, .amqpTls, TlsOptions.applyToUrl d.amqpUri, chain, false⟩ := by
  rw [ofKind, Amqp.Direct.secure] at h
  -- What can go wrong is about the files, and it leaves no connector.
  split at h
  · cases h
  split at h
  · cases h
  split at h
  · cases h
  · cases h
    exact ⟨_, rfl⟩

/-- A connector as it was made: not connected, and when it is, it dials its URL. -/
structure Fresh (d : Descriptor) (c : Connector) : Prop where
  descriptor : c.descriptor = d
  isConnected : c.isConnected = false
  firstDialled : c.firstDialled? = some (Network.url c)

/-- A connector that was made for a kind has its descriptor and is not connected. -/
theorem ofKind_fresh (h : ofKind files d kind = .ok c) : Fresh d c := by
  cases kind with
  | amqpTls =>
    obtain ⟨chain, rfl⟩ := ofKind_secure h
    exact ⟨rfl, rfl, rfl⟩
  | _ =>
    cases h
    exact ⟨rfl, rfl, rfl⟩

/-- With options for TLS every connector but that of Redis has the URL of an encrypted
connection. -/
theorem ofKind_encrypted (htls : d.wantsTls = true) (h : ofKind files d kind = .ok c)
    (hkind : kind ≠ .redis) : Url.Written "amqps" (Network.url c) := by
  obtain ⟨rest, huri⟩ := Descriptor.amqpUri_encrypted htls
  cases kind with
  | redis => exact (hkind rfl).elim
  | amqpTls =>
    obtain ⟨chain, rfl⟩ := ofKind_secure h
    -- The address says `amqps` already, so securing it changes nothing.
    rw [Network.url, huri, TlsOptions.applyToUrl_encrypted]
    exact .amqps rest
  | native =>
    cases h
    rw [Network.url, huri]
    exact .amqps rest
  | amqp =>
    cases h
    rw [Network.url, Amqp.Direct.plain, huri]
    exact .amqps rest

/-- A connector made from a descriptor is of the kind that the descriptor resolves to. -/
theorem ofDescriptor_ok (h : ofDescriptor caps files d = .ok c) :
    ∃ kind, caps.resolve d = .ok kind ∧ ofKind files d kind = .ok c := by
  unfold ofDescriptor at h
  split at h
  · cases h
  · exact ⟨_, ‹_›, h⟩

/-- A descriptor that asks for a supported backend gets a connector of that backend. -/
theorem ofDescriptor_asked (hasks : d.AsksFor kind) (hsupports : caps.supports kind = true) :
    ofDescriptor caps files d = ofKind files d kind := by
  rw [ofDescriptor, Capabilities.resolve_asked hasks hsupports]

/-- Making a connector fails in the selection or on the configuration, and in no other way. -/
theorem ofDescriptor_error {e : Error} (h : ofDescriptor caps files d = .error e) :
    e.isSelection = true ∨ ∃ reason, e = .configuration reason := by
  unfold ofDescriptor at h
  split at h
  · cases h
    exact .inl (Network.resolve_error ‹_›)
  · exact .inr (Network.ofKind_error h)

/-- A descriptor with options for TLS is refused before anything is dialled, or its connector
dials URLs of encrypted connections only, or it asks for Redis by name. In that case alone the
connection is a plain one, and there is a warning. -/
theorem encrypted_unless_named (caps : Capabilities) (files : Files) (d : Descriptor)
    (htls : d.wantsTls = true) :
    (∀ s w, (Network.transport.create s d w).2.broker = w.broker) ∧
    (∀ e, ofDescriptor caps files d = .error e →
      e.isSelection = true ∨ ∃ reason, e = .configuration reason) ∧
    (∀ c, ofDescriptor caps files d = .ok c →
      Fresh d c ∧ c.DialsOnly (Network.url c) ∧
        (Url.Written "amqps" (Network.url c) ∨
          Url.Written "redis" (Network.url c) ∧
            Capabilities.unencrypted .redis ∈ caps.resolutionEvents d)) ∧
    ((∃ c, ofDescriptor caps files d = .ok c ∧ ¬ Url.Written "amqps" (Network.url c)) ↔
      d.AsksFor .redis ∧ caps.supports .redis = true) := by
  -- A connector whose kind is Redis dials the Redis URL, and it was asked for.
  have hplain : ∀ c, ofDescriptor caps files d = .ok c →
      Url.Written "amqps" (Network.url c) ∨
        Url.Written "redis" (Network.url c) ∧ d.AsksFor .redis ∧
          caps.supports .redis = true := by
    intro c h
    obtain ⟨kind, hresolve, hkind⟩ := ofDescriptor_ok h
    by_cases hne : kind = .redis
    · subst hne
      obtain ⟨hsupports, hasks | hother⟩ := Capabilities.resolve_encrypted htls hresolve
      · cases hkind
        exact .inr ⟨d.redisUrl_plain, hasks, hsupports⟩
      · cases hother
    · exact .inl (ofKind_encrypted htls hkind hne)
  refine ⟨fun s w => Network.create_broker s d w, fun e => ofDescriptor_error, fun c h => ?_,
    ?_, ?_⟩
  · obtain ⟨kind, -, hkind⟩ := ofDescriptor_ok h
    refine ⟨ofKind_fresh hkind, c.dials_url, ?_⟩
    rcases hplain c h with henc | ⟨hscheme, hasks, hsupports⟩
    · exact .inl henc
    · exact .inr ⟨hscheme, Capabilities.unencrypted_logged htls hasks hsupports rfl⟩
  · rintro ⟨c, h, hnot⟩
    rcases hplain c h with henc | ⟨-, hasked⟩
    · exact (hnot henc).elim
    · exact hasked
  · rintro ⟨hasks, hsupports⟩
    exact ⟨.redis ⟨d, false⟩, ofDescriptor_asked hasks hsupports,
      fun henc => henc.not_both d.redisUrl_plain⟩

/-- A name may have blanks around it and be written in any case. Of these two backends the one
encrypts, and the other does not. -/
theorem encrypted_unless_named_twice :
    let tls : TlsOptions := { serverName := some "rabbit" }
    let amqp : Descriptor := { host := "rabbit", backend := " AMQP ", tls := tls }
    let redis : Descriptor := { host := "rabbit", backend := " Redis ", tls := tls }
    (amqp.wantsTls = true ∧ ∃ c, ofDescriptor .all [] amqp = .ok c ∧
        Url.Written "amqps" (Network.url c)) ∧
      redis.wantsTls = true ∧ ∃ c, ofDescriptor .all [] redis = .ok c ∧
        ¬ Url.Written "amqps" (Network.url c) := by
  intro tls amqp redis
  have hasksAmqp : amqp.AsksFor .amqp := ⟨"AMQP", by decide +kernel, by decide +kernel⟩
  have hasksRedis : redis.AsksFor .redis := ⟨"Redis", by decide +kernel, by decide +kernel⟩
  have hamqp := encrypted_unless_named .all [] amqp rfl
  have hredis := encrypted_unless_named .all [] redis rfl
  have hopen : ofDescriptor .all [] amqp = .ok (.direct (.plain amqp)) :=
    ofDescriptor_asked hasksAmqp rfl
  refine ⟨⟨rfl, _, hopen, ?_⟩, rfl, hredis.2.2.2.2 ⟨hasksRedis, rfl⟩⟩
  -- Who asks for AMQP does not ask for Redis.
  by_contra hnot
  obtain ⟨⟨name, hname, hkind⟩, -⟩ := hamqp.2.2.2.1 ⟨_, hopen, hnot⟩
  obtain ⟨name', hname', hkind'⟩ := hasksAmqp
  rw [hname'] at hname
  cases hname
  rw [hkind'] at hkind
  cases hkind

/-- Redis is reached in the clear, whatever the options say. -/
theorem redis_in_the_clear :
    let d : Descriptor :=
      { host := "127.0.0.1", port := 6379, backend := "redis", tls := .withCa "ca.pem" }
    let w : World Network := .start { redis := {} } ⟨0, 0⟩ 0
    d.wantsTls = true ∧ ∃ c, ofDescriptor .all [] d = .ok c ∧
      c.firstDialled? = some "redis://127.0.0.1:6379/0" ∧
      ¬ Url.Written "amqps" (Network.url c) ∧
      (c.connect w).1 = .ok () ∧ (c.connect w).2.2.broker.redis.log = [.ping] := by
  intro d w
  have hasks : d.AsksFor .redis := ⟨"redis", by decide +kernel, by decide +kernel⟩
  exact ⟨rfl, .redis ⟨d, false⟩, ofDescriptor_asked hasks rfl, by decide +kernel,
    fun henc => henc.not_both d.redisUrl_plain, by decide +kernel, by decide +kernel⟩

end Connector
end TaskQueue
