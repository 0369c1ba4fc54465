import TaskQueue.Client.Handle
import TaskQueue.Connection.Selection
import TaskQueue.Proofs.Connection.Descriptor
import TaskQueue.Proofs.Result.Body

/-!
# `TaskQueue.Proofs.Client.Restoring`: handles that are written down and read back

A handle comes back from its text with everything but its connector (`Handle.ofText_serialized`).
Its body may be any that was read. Its descriptor must not pass an option for an encrypted
connection through under the key of a named one.

If it does, the handle does not come back with these options, since no options that were read are
like that (`Handle.ofText_apart`). `Handle.restored_secure_iff` puts both together: the restored
handle asks for an encrypted connection, and is given a backend, as before, if and only if the keys
are kept apart. `Handle.restored_secure_lost` are two handles for which they are not. One comes back
and no longer asks for encryption, the other does not come back.
-/

set_option autoImplicit false

namespace TaskQueue

open Json Members

namespace Handle

variable {κ : Type}

open Decode in
/-- The fields of a handle with their checks. -/
def fields : List (String × Check) :=
  [("task_id", check text), ("task_name", check text), ("args", check text),
    ("descriptor", check Descriptor.decode), ("body", check (optional ResultBody.decode))]

open Decode in
/-- The handle that is put together from slots. -/
def assemble (source : Source) (p : Parts) : Except Fault (Handle κ) := do
  .ok {
    id := ⟨← p.required "task_id" text⟩
    taskName := ← p.required "task_name" text
    arguments := ← p.required "args" text
    descriptor := ← p.required "descriptor" Descriptor.decode
    body := ← p.field "body" (optional ResultBody.decode) none
    connector := none
    source := source }

/-- A handle is read as a record with five fields. -/
theorem decode_eq (source : Source) :
    (decode source : Decoder (Handle κ)) = Decode.record "AsyncResult" fields (assemble source) :=
  rfl

/-- The member of the body, if there is one. -/
def bodyMember (h : Handle κ) : List (String × Json) :=
  match h.body with
  | some b => [("body", b.toJson)]
  | none => []

/-- The members that are always written. -/
def plain (h : Handle κ) : List (String × Json) :=
  [("task_id", .string h.id.text), ("task_name", .string h.taskName),
    ("args", .string h.arguments), ("descriptor", h.descriptor.toJson)]

/-- What is always written comes first, and then the body. -/
theorem members_eq (h : Handle κ) : h.members = h.plain ++ h.bodyMember := rfl

/-- What it takes for a handle to come back from its text. -/
structure Restorable (h : Handle κ) : Prop where
  apart : h.descriptor.tls.Apart
  body : ∀ b, h.body = some b → b.Sound
  whole : h.toJson.Whole
  depth : h.toJson.depth ≤ 127

/-- The body is read as it was, also if there is none. -/
theorem field_body (h : Handle κ) {r : Reading}
    (hbody : ∀ b, h.body = some b →
      Decode.optional ResultBody.decode r b.toJson.draft = .ok (some b)) :
    Decode.Parts.field ⟨r, Decode.drafts (h.plain ++ h.bodyMember), .missingField⟩ "body"
      (Decode.optional ResultBody.decode) none = .ok h.body := by
  cases hb : h.body with
  | none =>
    have hout : lookup "body" (h.plain ++ h.bodyMember) = none := by
      simp [plain, bodyMember, hb, lookup]
    exact Decode.field_left_out none hout
  | some b =>
    have hin : lookup "body" (h.plain ++ h.bodyMember) = some b.toJson := by
      simp [plain, bodyMember, hb, lookup]
    exact Decode.field_drafts none hin (hbody b hb)

/-- A handle comes back from its text without its connector, and with the source that it is read
with. -/
theorem ofText_serialized {h : Handle κ} (hh : h.Restorable) (source : Source) :
    (ofText source h.serialized : Except Fault (Handle κ)) =
      .ok { h with connector := none, source := source } := by
  have hwhole := hh.whole
  have hdepth := hh.depth
  rw [toJson, Whole, members_eq, wholeMembers_append] at hwhole
  rw [toJson, depth, members_eq, depthMembers_append] at hdepth
  -- The handle itself takes one of the 127 levels.
  let inner : Reading := { Reading.json with room := 126 }
  have henter : Draft.enter .json = .ok inner := rfl
  have hdescriptor : Descriptor.decode inner h.descriptor.toJson.draft = .ok h.descriptor := by
    refine Descriptor.decode_draft hh.apart hwhole.1.2.2.2.1 ?_
    simp only [plain, depthMembers] at hdepth
    simp only [inner]
    omega
  have hbody : ∀ b, h.body = some b →
      Decode.optional ResultBody.decode inner b.toJson.draft = .ok (some b) := by
    intro b hb
    have hmember : h.bodyMember = [("body", b.toJson)] := by simp [bodyMember, hb]
    rw [hmember] at hwhole hdepth
    have hnull : b.toJson.draft ≠ .null := by simp [ResultBody.toJson, Json.draft]
    refine Decode.optional_draft hnull (ResultBody.decode_draft (hh.body b hb) hwhole.2.1 ?_)
    simp only [depthMembers] at hdepth
    simp only [inner]
    omega
  rw [ofText, serialized, Decode.string_text _ hh.whole.fits, toJson, members_eq, decode_eq,
    Decode.record_draft _ _ henter _ _]
  · rw [assemble, Decode.required_drafts rfl (Decode.text_draft inner h.id.text),
      Decode.required_drafts rfl (Decode.text_draft inner h.taskName),
      Decode.required_drafts rfl (Decode.text_draft inner h.arguments),
      Decode.required_drafts rfl hdescriptor, field_body h hbody]
    rfl
  · intro m hm
    rcases List.mem_append.1 hm with hm | hm
    · simp only [plain, List.mem_cons, List.not_mem_nil, or_false] at hm
      rcases hm with rfl | rfl | rfl | rfl
      iterate 3 · exact Decode.passes_of_decode rfl (Decode.text_draft inner _)
      · exact Decode.passes_of_decode rfl hdescriptor
    · cases hb : h.body with
      | none => simp [bodyMember, hb] at hm
      | some b =>
        have hm : m = ("body", b.toJson) := by simpa [bodyMember, hb] using hm
        rw [hm]
        exact Decode.passes_of_decode rfl (hbody b hb)
  · cases hb : h.body <;> simp [plain, bodyMember, hb, keys]

/-- A handle that was read passes no option through under the key of a named one. -/
theorem ofText_apart {source : Source} {s : String} {h : Handle κ}
    (hs : ofText source s = .ok h) : h.descriptor.tls.Apart := by
  obtain ⟨d, hd⟩ := Decode.string_ok hs
  rw [decode_eq] at hd
  obtain ⟨p, hd⟩ := Decode.record_ok hd
  rw [assemble] at hd
  iterate 3 obtain ⟨_, -, hd⟩ := Except.bind_ok hd
  obtain ⟨descriptor, hdescriptor, hd⟩ := Except.bind_ok hd
  obtain ⟨_, -, hd⟩ := Except.bind_ok hd
  cases hd
  obtain ⟨draft, hdraft⟩ := Decode.required_ok hdescriptor
  exact Descriptor.decode_ok hdraft

/-- A handle that was read has no connector, and the source that it was read with. -/
theorem ofText_fresh {source : Source} {s : String} {h : Handle κ}
    (hs : ofText source s = .ok h) : h.connector = none ∧ h.source = source := by
  obtain ⟨d, hd⟩ := Decode.string_ok hs
  rw [decode_eq] at hd
  obtain ⟨p, hd⟩ := Decode.record_ok hd
  rw [assemble] at hd
  iterate 5 obtain ⟨_, -, hd⟩ := Except.bind_ok hd
  cases hd
  exact ⟨rfl, rfl⟩

/-- Take any handle whose body, if it has one, was read. Its text is read as a handle that asks for
encryption as before, has the same options and is given the same backend, if and only if no option
is passed through under the key of a named one. -/
theorem restored_secure_iff {h : Handle κ}
    (hbody : ∀ b, h.body = some b → ∃ r d, ResultBody.decode r d = .ok b)
    (hwhole : h.toJson.Whole) (hdepth : h.toJson.depth ≤ 127) (source : Source) :
    (∀ key ∈ keys h.descriptor.tls.extra.entries,
        key ∉ ["ca_cert", "cert", "key", "skip_verify", "server_name"]) ↔
      ∃ h' : Handle κ, ofText source h.serialized = .ok h' ∧
        h'.descriptor.wantsTls = h.descriptor.wantsTls ∧
        h'.descriptor.tls = h.descriptor.tls ∧
        ∀ caps : Capabilities, caps.resolve h'.descriptor = caps.resolve h.descriptor := by
  constructor
  · intro hapart
    have hsound : ∀ b, h.body = some b → b.Sound := by
      intro b hb
      obtain ⟨r, d, hd⟩ := hbody b hb
      exact ResultBody.decode_ok hd
    have hrestorable : h.Restorable := ⟨hapart, hsound, hwhole, hdepth⟩
    exact ⟨_, ofText_serialized hrestorable source, rfl, rfl, fun _ => rfl⟩
  · rintro ⟨h', hs, -, hsame, -⟩
    rw [← hsame]
    exact ofText_apart hs

/-! ## Three handles -/

/-- A handle that has not asked, with options for an encrypted connection. -/
def encrypted (o : TlsOptions) : Handle Unit :=
  .new ⟨"t-1"⟩ "tasks.add" "[2,2]" { tls := o } .registry

/-- All numbers of such a handle are integers if those of the options are. -/
theorem encrypted_whole {o : TlsOptions} (ho : o.toJson.Whole) : (encrypted o).toJson.Whole := by
  cases hempty : o.isEmpty <;>
    simp [encrypted, Handle.new, toJson, members, Descriptor.toJson, Descriptor.members, hempty,
      Whole, WholeMembers, ho]

/-- Options with a certificate and one option that is passed through. -/
def passedOptions : TlsOptions :=
  (TlsOptions.withCa "/etc/ca.pem").option "alpn" (.array [.string "amqp"])

/-- With an option under a key of its own, the handle comes back as one that asks for encryption. -/
theorem restored_secure_iff_passed :
    (encrypted passedOptions).toJson.Whole ∧
      (encrypted passedOptions).toJson.depth ≤ 127 ∧
      ∃ h' : Handle Unit, ofText .registry (encrypted passedOptions).serialized = .ok h' ∧
        h'.descriptor.wantsTls = true ∧ h'.descriptor.tls = passedOptions ∧
        Capabilities.all.resolve h'.descriptor = .ok .amqpTls := by
  have hwhole : (encrypted passedOptions).toJson.Whole := by
    refine encrypted_whole ?_
    simp [passedOptions, TlsOptions.withCa, TlsOptions.option, TlsOptions.toJson,
      TlsOptions.members, TlsOptions.optionMember, Members.insert, Whole, WholeMembers, WholeItems]
  have hdepth : (encrypted passedOptions).toJson.depth ≤ 127 := by decide
  have hapart : ∀ key ∈ keys (encrypted passedOptions).descriptor.tls.extra.entries,
      key ∉ ["ca_cert", "cert", "key", "skip_verify", "server_name"] := by decide
  have hbody : ∀ b, (encrypted passedOptions).body = some b →
      ∃ r d, ResultBody.decode r d = .ok b := by
    intro b hb
    cases hb
  obtain ⟨h', hs, hwants, hsame, hresolve⟩ := (restored_secure_iff
    hbody hwhole hdepth .registry).1 hapart
  have hbefore : Capabilities.all.resolve (encrypted passedOptions).descriptor = .ok .amqpTls := rfl
  exact ⟨hwhole, hdepth, h', hs, hwants, hsame, (hresolve _).trans hbefore⟩

/-- Options with nothing but an option that is passed through under the key of a named one. -/
def maskedOptions : TlsOptions := ({} : TlsOptions).option "skip_verify" (.bool false)

/-- Options with a certificate that is named twice. -/
def doubledOptions : TlsOptions :=
  (TlsOptions.withCa "/etc/ca.pem").option "ca_cert" (.string "/etc/other.pem")

/-- With masked options a handle asks for encryption, and after it has been restored it does not
ask for it any more and is given another backend. With doubled options a handle is not restored
at all. -/
theorem restored_secure_lost :
    ((encrypted maskedOptions).toJson.Whole ∧
      (encrypted maskedOptions).toJson.depth ≤ 127 ∧
      (encrypted maskedOptions).descriptor.wantsTls = true ∧
      Capabilities.all.resolve (encrypted maskedOptions).descriptor = .ok .amqpTls ∧
      ∃ h' : Handle Unit, ofText .registry (encrypted maskedOptions).serialized = .ok h' ∧
        h'.descriptor.wantsTls = false ∧ Capabilities.all.resolve h'.descriptor = .ok .native) ∧
    ((encrypted doubledOptions).toJson.Whole ∧
      (encrypted doubledOptions).toJson.depth ≤ 127 ∧
      (ofText .registry (encrypted doubledOptions).serialized : Except Fault (Handle Unit)) =
        .error (.duplicateField "ca_cert")) := by
  have hmasked : (encrypted maskedOptions).toJson.Whole := by
    refine encrypted_whole ?_
    simp [maskedOptions, TlsOptions.option, TlsOptions.toJson, TlsOptions.members,
      TlsOptions.optionMember, Members.insert, Whole, WholeMembers]
  have hdoubled : (encrypted doubledOptions).toJson.Whole := by
    refine encrypted_whole ?_
    simp [doubledOptions, TlsOptions.withCa, TlsOptions.option, TlsOptions.toJson,
      TlsOptions.members, TlsOptions.optionMember, Members.insert, Whole, WholeMembers]
  have hrestored : (ofText .registry (encrypted maskedOptions).serialized :
      Except Fault (Handle Unit)) = .ok (encrypted {}) :=
    (Decode.string_text _ hmasked.fits).trans rfl
  have hrefused : (ofText .registry (encrypted doubledOptions).serialized :
      Except Fault (Handle Unit)) = .error (.duplicateField "ca_cert") :=
    (Decode.string_text _ hdoubled.fits).trans rfl
  exact ⟨⟨hmasked, by decide, rfl, rfl, _, hrestored, rfl, rfl⟩, hdoubled, by decide, hrefused⟩

end Handle
end TaskQueue
