import TaskQueue.Connection.Tls
import TaskQueue.Proofs.Json.Decoded

/-!
# `TaskQueue.Proofs.Connection.Tls`: options of an encrypted connection in a text

In the text of the options those that are passed through stand beside the named ones. So one that
is passed through under the key of a named option is either taken for the named one or refused.

`TlsOptions.decode_draft` says that all other options come back as they were. Conversely no options
that were read pass anything through under the key of a named option (`TlsOptions.decode_ok`).
-/

set_option autoImplicit false

namespace TaskQueue

open Json Members

namespace TlsOptions

/-- The keys of the named options. -/
def ownKeys : List String := ["ca_cert", "cert", "key", "skip_verify", "server_name"]

/-- No option that is passed through has the key of a named one. -/
def Apart (o : TlsOptions) : Prop := ∀ key ∈ keys o.extra.entries, key ∉ ownKeys

/-- Without any option set, the options are the empty ones. -/
theorem eq_empty {o : TlsOptions} (h : o.isEmpty = true) : o = {} := by
  obtain ⟨caCert, cert, key, skipVerify, serverName, extra⟩ := o
  simp only [isEmpty, Bool.and_eq_true, Option.isNone_iff_eq_none, Bool.not_eq_true',
    List.isEmpty_iff] at h
  obtain ⟨⟨⟨⟨⟨rfl, rfl⟩, rfl⟩, rfl⟩, rfl⟩, hextra⟩ := h
  rw [Json.Map.ext (n := .empty) hextra]

/-! ## The text -/

/-- The members of the named options that are set. -/
def own (o : TlsOptions) : List (String × Json) :=
  optionMember "ca_cert" o.caCert ++ optionMember "cert" o.cert ++ optionMember "key" o.key ++
    (if o.skipVerify then [("skip_verify", .bool true)] else []) ++
    optionMember "server_name" o.serverName

/-- TLS options are written as the named ones, then the extra ones. -/
theorem members_eq (o : TlsOptions) : o.members = o.own ++ o.extra.entries := rfl

/-- An optional member is written under its own key if at all. -/
theorem keys_optionMember_sublist (key : String) (s : Option String) :
    (keys (optionMember key s)).Sublist [key] := by
  cases s with
  | none => exact List.nil_sublist _
  | some s => exact List.Sublist.refl _

/-- The named options stand in the order of their fields. -/
theorem keys_own_sublist (o : TlsOptions) : (keys o.own).Sublist ownKeys := by
  have hskip : (keys (if o.skipVerify then [("skip_verify", Json.bool true)] else [])).Sublist
      ["skip_verify"] := by
    cases o.skipVerify with
    | false => exact List.nil_sublist _
    | true => exact List.Sublist.refl _
  simp only [own, keys, List.map_append] at hskip ⊢
  exact ((((keys_optionMember_sublist _ _).append (keys_optionMember_sublist _ _)).append
    (keys_optionMember_sublist _ _)).append hskip).append (keys_optionMember_sublist _ _)

/-- The named options have different keys. -/
theorem nodup_own (o : TlsOptions) : (keys o.own).Nodup :=
  (keys_own_sublist o).nodup (by decide)

/-- An optional member is found under its own key, and under no other. -/
theorem lookup_optionMember (name key : String) (s : Option String) :
    lookup name (optionMember key s) = if key = name then s.map Json.string else none := by
  cases s <;> simp [optionMember, lookup]

/-- What is written for each of the named options. -/
theorem lookup_own (o : TlsOptions) :
    lookup "ca_cert" o.own = o.caCert.map Json.string ∧
      lookup "cert" o.own = o.cert.map Json.string ∧
      lookup "key" o.own = o.key.map Json.string ∧
      lookup "skip_verify" o.own = (if o.skipVerify then some (.bool true) else none) ∧
      lookup "server_name" o.own = o.serverName.map Json.string := by
  cases hskip : o.skipVerify <;> simp [own, lookup_append, lookup_optionMember, hskip, lookup]

open Decode in
/-- The fields of the options with their checks. -/
def fields : List (String × Check) :=
  [("ca_cert", check (optional (textAs "path string"))),
    ("cert", check (optional (textAs "path string"))),
    ("key", check (optional (textAs "path string"))),
    ("skip_verify", check bool), ("server_name", check (optional text))]

open Decode in
/-- The options that are put together from slots and further members. -/
def assemble (p : Parts) (extra : Json.Map) : Except Fault TlsOptions := do
  .ok {
    caCert := ← p.field "ca_cert" (optional (textAs "path string")) none
    cert := ← p.field "cert" (optional (textAs "path string")) none
    key := ← p.field "key" (optional (textAs "path string")) none
    skipVerify := ← p.field "skip_verify" bool false
    serverName := ← p.field "server_name" (optional text) none
    extra := extra }

/-- TLS options are read as a record that admits other fields. -/
theorem decode_eq : decode = Decode.openRecord "TlsOptions" fields assemble := rfl

/-- The members of the named options pass the checks of their fields. -/
theorem check_own (o : TlsOptions) (r : Reading) :
    ∀ m ∈ o.own, Decode.Passes fields r m := by
  -- All members but one are texts that may be missing, and these are checked alike.
  have htext : ∀ key want s,
      Decode.check? key fields = some (Decode.check (Decode.optional (Decode.textAs want))) →
      ∀ m ∈ optionMember key s,
        Decode.Passes fields r m := by
    intro key want s hkey m hm
    cases s with
    | none => cases hm
    | some s =>
      rw [List.mem_singleton.1 hm]
      exact Decode.passes_of_decode hkey
        (Decode.optional_draft nofun (Decode.textAs_draft want r s))
  intro m hm
  simp only [own, List.mem_append] at hm
  rcases hm with (((hm | hm) | hm) | hm) | hm
  · exact htext _ _ _ rfl m hm
  · exact htext _ _ _ rfl m hm
  · exact htext _ _ _ rfl m hm
  · split at hm
    · rw [List.mem_singleton.1 hm]
      exact Decode.passes_of_decode rfl (Decode.bool_draft r true)
    · cases hm
  · exact htext _ _ _ rfl m hm

/-- The named options are put together as they were. -/
theorem assemble_own (o : TlsOptions) (r : Reading) :
    assemble ⟨r, Decode.drafts o.own, .missingField⟩ o.extra = .ok o := by
  obtain ⟨hcaCert, hcert, hkey, hskip, hserverName⟩ := lookup_own o
  have hverify : Decode.Parts.field ⟨r, Decode.drafts o.own, .missingField⟩ "skip_verify"
      Decode.bool false = .ok o.skipVerify := by
    cases hs : o.skipVerify with
    | false => exact Decode.field_left_out false (by simpa [hs] using hskip)
    | true =>
      exact Decode.field_drafts false (by simpa [hs] using hskip) (Decode.bool_draft r true)
  rw [assemble, Decode.field_optionalText _ hcaCert, Decode.field_optionalText _ hcert,
    Decode.field_optionalText _ hkey, hverify, Decode.text,
    Decode.field_optionalText _ hserverName]
  rfl

/-- Options without fractions come back as they were if no option that is passed through has the
key of a named one. -/
theorem decode_draft {o : TlsOptions} (hapart : o.Apart) (hwhole : o.toJson.Whole) {r : Reading}
    (hroom : o.toJson.depth ≤ r.room) : decode r o.toJson.draft = .ok o := by
  rw [toJson, Whole, members_eq, wholeMembers_append] at hwhole
  rw [toJson, depth, members_eq, depthMembers_append] at hroom
  rw [toJson, members_eq, decode_eq, Decode.openRecord_whole _ _ (Draft.enter_ok (by omega))
    o.extra (check_own o _) (nodup_own o) _ hwhole.2 _, assemble_own]
  · intro m hm
    exact Decode.check?_eq_none.2 (hapart m.1 (List.mem_map_of_mem hm))
  · simp only
    omega

/-- No options that were read pass anything through under the key of a named one. -/
theorem decode_ok {r : Reading} {d : Draft} {o : TlsOptions} (h : decode r d = .ok o) :
    o.Apart := by
  rw [decode_eq] at h
  obtain ⟨p, extra, h, hkeys⟩ := Decode.openRecord_ok h
  rw [assemble] at h
  obtain ⟨_, -, h⟩ := Except.bind_ok h
  obtain ⟨_, -, h⟩ := Except.bind_ok h
  obtain ⟨_, -, h⟩ := Except.bind_ok h
  obtain ⟨_, -, h⟩ := Except.bind_ok h
  obtain ⟨_, -, h⟩ := Except.bind_ok h
  cases h
  exact fun key hkey => Decode.check?_eq_none.1 (hkeys key hkey)

end TlsOptions
end TaskQueue
