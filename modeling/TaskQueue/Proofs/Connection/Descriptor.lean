import TaskQueue.Connection.Descriptor
import TaskQueue.Proofs.Connection.Tls

/-!
# `TaskQueue.Proofs.Connection.Descriptor`: a descriptor in a text

Every field of a descriptor is written, but its options for an encrypted connection only if one of
them is set. Otherwise they are read as the empty options, which they are (`TlsOptions.eq_empty`).
So a descriptor comes back from its text if its options do (`Descriptor.decode_draft`).
-/

set_option autoImplicit false

namespace TaskQueue

open Json Members

namespace Descriptor

/-- The members that are always written. -/
def plain (d : Descriptor) : List (String × Json) :=
  [("host", .string d.host), ("login", .string d.login), ("password", .string d.password),
    ("vhost", .string d.vhost), ("exchange", .string d.exchange), ("binding", .string d.binding),
    ("port", .int d.port.toNat), ("backend", .string d.backend),
    ("persistent_messages", .bool d.persistentMessages),
    ("result_expire", .int d.resultExpire.toNat),
    ("keep_messages_in_queue", .bool d.keepMessages),
    ("durable_result_queue", .bool d.durableResultQueue),
    ("wait_timeout_ms", .int d.waitTimeoutMillis.toNat)]

/-- The member of the options for an encrypted connection. -/
def encryption (d : Descriptor) : List (String × Json) :=
  if d.tls.isEmpty then [] else [("ssl_options", d.tls.toJson)]

/-- A descriptor is written as its plain fields, then its TLS options. -/
theorem members_eq (d : Descriptor) : d.members = d.plain ++ d.encryption := rfl

open Decode in
/-- The fields of a descriptor with their checks. -/
def fields : List (String × Check) :=
  [("host", check text), ("login", check text), ("password", check text),
    ("vhost", check text), ("exchange", check text), ("binding", check text),
    ("port", check uint16), ("backend", check text),
    ("persistent_messages", check bool), ("result_expire", check uint64),
    ("keep_messages_in_queue", check bool), ("durable_result_queue", check bool),
    ("wait_timeout_ms", check uint64), ("ssl_options", check TlsOptions.decode)]

open Decode in
/-- The descriptor that is put together from slots. -/
def assemble (p : Parts) : Except Fault Descriptor := do
  let d : Descriptor := {}
  .ok {
    host := ← p.field "host" text d.host
    login := ← p.field "login" text d.login
    password := ← p.field "password" text d.password
    vhost := ← p.field "vhost" text d.vhost
    exchange := ← p.field "exchange" text d.exchange
    binding := ← p.field "binding" text d.binding
    port := ← p.field "port" uint16 d.port
    backend := ← p.field "backend" text d.backend
    persistentMessages := ← p.field "persistent_messages" bool d.persistentMessages
    resultExpire := ← p.field "result_expire" uint64 d.resultExpire
    keepMessages := ← p.field "keep_messages_in_queue" bool d.keepMessages
    durableResultQueue := ← p.field "durable_result_queue" bool d.durableResultQueue
    waitTimeoutMillis := ← p.field "wait_timeout_ms" uint64 d.waitTimeoutMillis
    tls := ← p.field "ssl_options" TlsOptions.decode d.tls }

/-- A descriptor is read as a record that admits no other field. -/
theorem decode_eq : decode = Decode.record "ConnectionDescriptor" fields assemble := rfl

/-- The members that are always written pass the checks of their fields. -/
theorem check_plain (d : Descriptor) (r : Reading) :
    ∀ m ∈ d.plain, Decode.Passes fields r m := by
  intro m hm
  simp only [plain, List.mem_cons, List.not_mem_nil, or_false] at hm
  rcases hm with rfl | rfl | rfl | rfl | rfl | rfl | rfl | rfl | rfl | rfl | rfl | rfl | rfl
  iterate 6 · exact Decode.passes_of_decode rfl (Decode.text_draft r _)
  · exact Decode.passes_of_decode rfl (Decode.uint16_draft r d.port)
  · exact Decode.passes_of_decode rfl (Decode.text_draft r _)
  · exact Decode.passes_of_decode rfl (Decode.bool_draft r _)
  · exact Decode.passes_of_decode rfl (Decode.uint64_draft r d.resultExpire)
  · exact Decode.passes_of_decode rfl (Decode.bool_draft r _)
  · exact Decode.passes_of_decode rfl (Decode.bool_draft r _)
  · exact Decode.passes_of_decode rfl (Decode.uint64_draft r d.waitTimeoutMillis)

/-- The options for an encrypted connection are read as they were, also if they were left out. -/
theorem field_tls (d : Descriptor) {r : Reading}
    (htls : d.tls.isEmpty = false → TlsOptions.decode r d.tls.toJson.draft = .ok d.tls) :
    Decode.Parts.field ⟨r, Decode.drafts (d.plain ++ d.encryption), .missingField⟩ "ssl_options"
      TlsOptions.decode {} = .ok d.tls := by
  cases hempty : d.tls.isEmpty with
  | true =>
    have hout : lookup "ssl_options" (d.plain ++ d.encryption) = none := by
      simp [plain, encryption, hempty, lookup]
    rw [Decode.field_left_out _ hout]
    exact congrArg Except.ok (TlsOptions.eq_empty hempty).symm
  | false =>
    have hin : lookup "ssl_options" (d.plain ++ d.encryption) = some d.tls.toJson := by
      simp [plain, encryption, hempty, lookup]
    exact Decode.field_drafts _ hin (htls hempty)

/-- A descriptor is put together from its members as it was. -/
theorem assemble_members (d : Descriptor) {r : Reading}
    (htls : d.tls.isEmpty = false → TlsOptions.decode r d.tls.toJson.draft = .ok d.tls) :
    assemble ⟨r, Decode.drafts (d.plain ++ d.encryption), .missingField⟩ = .ok d := by
  rw [assemble, Decode.field_drafts _ rfl (Decode.text_draft r d.host),
    Decode.field_drafts _ rfl (Decode.text_draft r d.login),
    Decode.field_drafts _ rfl (Decode.text_draft r d.password),
    Decode.field_drafts _ rfl (Decode.text_draft r d.vhost),
    Decode.field_drafts _ rfl (Decode.text_draft r d.exchange),
    Decode.field_drafts _ rfl (Decode.text_draft r d.binding),
    Decode.field_drafts _ rfl (Decode.uint16_draft r d.port),
    Decode.field_drafts _ rfl (Decode.text_draft r d.backend),
    Decode.field_drafts _ rfl (Decode.bool_draft r d.persistentMessages),
    Decode.field_drafts _ rfl (Decode.uint64_draft r d.resultExpire),
    Decode.field_drafts _ rfl (Decode.bool_draft r d.keepMessages),
    Decode.field_drafts _ rfl (Decode.bool_draft r d.durableResultQueue),
    Decode.field_drafts _ rfl (Decode.uint64_draft r d.waitTimeoutMillis), field_tls d htls]
  rfl

/-- A descriptor without fractions comes back as it was if none of its options that are passed
through has the key of a named one. -/
theorem decode_draft {d : Descriptor} (hapart : d.tls.Apart) (hwhole : d.toJson.Whole)
    {r : Reading} (hroom : d.toJson.depth ≤ r.room) : decode r d.toJson.draft = .ok d := by
  rw [toJson, Whole, members_eq, wholeMembers_append] at hwhole
  rw [toJson, depth, members_eq, depthMembers_append] at hroom
  let inner : Reading := { r with room := r.room - 1 }
  -- The options for TLS are one level further in, and they are written only if there are any.
  have htls : d.tls.isEmpty = false →
      TlsOptions.decode inner d.tls.toJson.draft = .ok d.tls := by
    intro hempty
    have hmember : d.encryption = [("ssl_options", d.tls.toJson)] := by simp [encryption, hempty]
    rw [hmember] at hwhole hroom
    refine TlsOptions.decode_draft hapart hwhole.2.1 ?_
    simp only [depthMembers] at hroom
    simp only [inner]
    omega
  rw [toJson, members_eq, decode_eq, Decode.record_draft _ _ (Draft.enter_ok (by omega)) _ _,
    assemble_members d htls]
  · intro m hm
    rcases List.mem_append.1 hm with hm | hm
    · exact check_plain d _ m hm
    · cases hempty : d.tls.isEmpty with
      | true => simp [encryption, hempty] at hm
      | false =>
        have hm : m = ("ssl_options", d.tls.toJson) := by simpa [encryption, hempty] using hm
        rw [hm]
        exact Decode.passes_of_decode rfl (htls hempty)
  · cases hempty : d.tls.isEmpty <;> simp [plain, encryption, hempty, keys]

/-- The options of a descriptor that was read pass nothing through under the key of a named one. -/
theorem decode_ok {r : Reading} {draft : Draft} {d : Descriptor} (h : decode r draft = .ok d) :
    d.tls.Apart := by
  rw [decode_eq] at h
  obtain ⟨p, h⟩ := Decode.record_ok h
  rw [assemble] at h
  iterate 13 obtain ⟨_, -, h⟩ := Except.bind_ok h
  obtain ⟨tls, htls, h⟩ := Except.bind_ok h
  cases h
  rcases Decode.field_ok htls with rfl | ⟨_, htls⟩
  · exact fun key hkey => absurd hkey List.not_mem_nil
  · exact TlsOptions.decode_ok htls

end Descriptor
end TaskQueue
