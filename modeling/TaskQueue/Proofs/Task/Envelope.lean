import TaskQueue.Proofs.Json.Order
import TaskQueue.Proofs.Json.Records
import TaskQueue.Proofs.Task.Extensions

/-!
# `TaskQueue.Proofs.Task.Envelope`: envelopes that are built and read back

`Envelope.Sound` is what every envelope has that `Envelope.build` makes (`Envelope.build_sound`):
no extension has the key of one of its own members. So its document has no key of its own twice,
and `Envelope.ofBytes_toBytes` reads it back. The values in it come back as `Json.reread` says.

The members of an envelope come from the arguments and the extensions of the caller, so their
numbers fit if those of the caller do (`Envelope.build_fits`).
-/

set_option autoImplicit false

namespace TaskQueue

open Json Members

namespace Envelope

/-! ## Envelopes that are built -/

/-- The keys of an envelope's own members. -/
def ownKeys : List String := ["id", "task", "args", "kwargs", "retries", "eta", "expires"]

/-- No extension has a key of the envelope's own. -/
def Sound (e : Envelope) : Prop := ∀ m ∈ e.extensions, m.1 ∉ ownKeys

/-- Values of extensions that go into the envelope: under their key, and made of numbers that
fit if they were given so. -/
structure Kept (key : String) (given kept : Json) : Prop where
  key : key ∉ ownKeys
  fits : given.Fits → kept.Fits

/-- What an extension adds to the envelope is kept under its key, unless the extension has a
fault. -/
theorem kept_of_kept? {etaSet expiresSet : Bool} {key : String} {given kept : Json}
    (hfault : extensionFault etaSet expiresSet key given = none)
    (h : kept? key given = some kept) : Kept key given kept := by
  refine ⟨fun hkey => ?_, fun hgiven => ?_⟩
  · -- Four of the keys are refused, and the other three set a field and add nothing.
    simp only [ownKeys, List.mem_cons, List.not_mem_nil, or_false] at hkey
    rcases hkey with rfl | rfl | rfl | rfl | rfl | rfl | rfl
    iterate 4 · cases hfault
    iterate 3 · cases h
  · rcases kept?_eq_some h with rfl | ⟨s, rfl⟩ | ⟨b, rfl⟩
    · exact hgiven
    · trivial
    · trivial

/-- One extension adds at most one member to the envelope, which is kept under its key. -/
theorem apply_extensions {s s' : Settings} {key : String} {value : Json}
    (h : s.apply key value = .ok s') :
    s'.extensions = s.extensions ∨
      ∃ v, s'.extensions = s.extensions ++ [(key, v)] ∧ Kept key value v := by
  rw [Settings.apply_eq] at h
  split at h
  · cases h
  rename_i hfault
  cases h
  cases hkept : kept? key value with
  | none => exact .inl (by simp [Settings.after, hkept])
  | some v => exact .inr ⟨v, by simp [Settings.after, hkept], kept_of_kept? hfault hkept⟩

/-- All extensions together add members that are kept under their keys. -/
theorem applyAll_extensions {s s' : Settings} {given : List (String × Json)}
    (h : s.applyAll given = .ok s') (hs : ∀ m ∈ s.extensions, m.1 ∉ ownKeys) :
    (∀ m ∈ s'.extensions, m.1 ∉ ownKeys) ∧
      (FitsMembers s.extensions → FitsMembers given → FitsMembers s'.extensions) := by
  -- Each extension hands on that no member has a key of the envelope.
  induction given generalizing s with
  | nil =>
    cases h
    exact ⟨hs, fun hfits _ => hfits⟩
  | cons m rest ih =>
    obtain ⟨key, value⟩ := m
    rw [Settings.applyAll] at h
    cases ha : s.apply key value with
    | error e => rw [ha] at h; cases h
    | ok s₁ =>
      rw [ha] at h
      rcases apply_extensions ha with heq | ⟨v, heq, hkept⟩
      · obtain ⟨hkeys, hfits⟩ := ih h (by rwa [heq])
        exact ⟨hkeys, fun hf hg => hfits (by rwa [heq]) hg.2⟩
      · obtain ⟨hkeys, hfits⟩ := ih h (by
          intro m hm
          rw [heq, List.mem_append, List.mem_singleton] at hm
          rcases hm with hm | rfl
          · exact hs m hm
          · exact hkept.key)
        refine ⟨hkeys, fun hf hg => hfits ?_ hg.2⟩
        rw [heq, fitsMembers_append]
        exact ⟨hf, hkept.fits hg.1, trivial⟩

/-- Values that were looked up in members are among them. -/
theorem mem_of_mapM_lookup {members : List (String × Json)} (indices : List Nat)
    {items : List Json}
    (h : (indices.mapM fun i => lookup (Arguments.indexKey i) members) = some items) :
    ∀ x ∈ items, ∃ key, (key, x) ∈ members := by
  induction indices generalizing items with
  | nil =>
    cases h
    exact fun x hx => absurd hx List.not_mem_nil
  | cons i rest ih =>
    rw [List.mapM_cons] at h
    simp only [Option.bind_eq_bind, Option.bind_eq_some_iff, Option.pure_def,
      Option.some.injEq] at h
    obtain ⟨v, hv, vs, hvs, rfl⟩ := h
    intro x hx
    -- Every item was looked up under some key, and what is found is a member.
    rcases List.mem_cons.1 hx with rfl | hx
    · exact ⟨_, mem_of_lookup hv⟩
    · exact ih hvs x hx

/-- Where the arguments come from: from nothing, from a list, or from an object, whose values become
a list if its keys are indices. -/
theorem classify_ok {v : Json} {a : Arguments} (h : Arguments.classify v = .ok a) :
    (v = .null ∧ a = .positional []) ∨ (∃ items, v = .array items ∧ a = .positional items) ∨
      (∃ items members, v = .object members ∧ a = .positional items ∧
        ∀ x ∈ items, ∃ key, (key, x) ∈ members) ∨
      ∃ members, v = .object members ∧ a = .keyword members := by
  cases v with
  | null =>
    cases h
    exact .inl ⟨rfl, rfl⟩
  | array items =>
    cases h
    exact .inr (.inl ⟨items, rfl, rfl⟩)
  -- An object is a list of arguments if it is indexed by position, and keyword arguments if not.
  | object members =>
    rw [Arguments.classify] at h
    split at h
    · rename_i items hitems
      cases h
      exact .inr (.inr (.inl ⟨items, members, rfl, rfl, mem_of_mapM_lookup _ hitems⟩))
    · cases h
      exact .inr (.inr (.inr ⟨members, rfl, rfl⟩))
  | bool b => cases h
  | int n => cases h
  | float x => cases h
  | string s => cases h

/-- The arguments have the numbers of the value that they were given as. -/
theorem classify_fits {v : Json} {a : Arguments} (h : Arguments.classify v = .ok a)
    (hv : v.Fits) : FitsItems a.items ∧ FitsMembers a.members := by
  rcases classify_ok h with ⟨rfl, rfl⟩ | ⟨items, rfl, rfl⟩ | ⟨items, members, rfl, rfl, hitems⟩ |
    ⟨members, rfl, rfl⟩
  · exact ⟨trivial, trivial⟩
  · exact ⟨hv, trivial⟩
  · refine ⟨fitsItems_of_forall fun x hx => ?_, trivial⟩
    obtain ⟨key, hmem⟩ := hitems x hx
    exact (fits_of_mem hv hmem).1
  · exact ⟨trivial, hv⟩

/-- What an envelope was made of. -/
theorem build_ok {now : Instant} {id : TaskId} {task : String} {arguments : Json.Value}
    {o : TaskOptions} {e : Envelope} (h : build now id task arguments o = .ok e) :
    ∃ a s eta expires, Arguments.classify arguments.json = .ok a ∧
      Settings.applyAll ⟨o.retries, o.eta, o.expires, []⟩ o.extensions.entries = .ok s ∧
      e = ⟨id, task, a.items, a.members, clampRetries s.retries, eta, expires,
        s.extensions⟩ := by
  unfold build at h
  split at h
  · cases h
  -- The stages in their order. None of them could be passed over.
  obtain ⟨a, ha, h⟩ := Except.bind_ok h
  obtain ⟨s, hs, h⟩ := Except.bind_ok h
  obtain ⟨_, -, h⟩ := Except.bind_ok h
  obtain ⟨eta, -, h⟩ := Except.bind_ok h
  obtain ⟨expires, -, h⟩ := Except.bind_ok h
  cases h
  exact ⟨a, s, eta, expires, ha, hs, rfl⟩

/-- An envelope carries the identifier that it was built with. -/
theorem build_id {now : Instant} {id : TaskId} {task : String} {arguments : Json.Value}
    {o : TaskOptions} {e : Envelope} (h : build now id task arguments o = .ok e) : e.id = id := by
  obtain ⟨a, s, eta, expires, -, -, rfl⟩ := build_ok h
  rfl

/-- An envelope carries the name of its task. -/
theorem build_task {now : Instant} {id : TaskId} {task : String} {arguments : Json.Value}
    {o : TaskOptions} {e : Envelope} (h : build now id task arguments o = .ok e) :
    e.task = task := by
  obtain ⟨a, s, eta, expires, -, -, rfl⟩ := build_ok h
  rfl

/-- An envelope that was built is sound. -/
theorem build_sound {now : Instant} {id : TaskId} {task : String} {arguments : Json.Value}
    {o : TaskOptions} {e : Envelope} (h : build now id task arguments o = .ok e) : e.Sound := by
  obtain ⟨a, s, eta, expires, -, hs, rfl⟩ := build_ok h
  exact (applyAll_extensions hs nofun).1

/-! ## The document -/

/-- The members that every envelope has, and its times if they are set. -/
def own (e : Envelope) : List (String × Json) :=
  [("id", .string e.id.text), ("task", .string e.task), ("args", .array e.args),
    ("kwargs", .object e.kwargs), ("retries", .int e.retries.toNat)] ++
    optionalMember "eta" e.eta ++ optionalMember "expires" e.expires

/-- An envelope is written as its own fields, then its extensions. -/
theorem members_eq (e : Envelope) : e.members = e.own ++ e.extensions := rfl

/-- No part of the document is nested more deeply than its members. -/
theorem depth_members (e : Envelope) :
    depthItems e.args + 1 ≤ depthMembers e.members ∧
      depthMembers e.kwargs + 1 ≤ depthMembers e.members ∧
      depthMembers e.extensions ≤ depthMembers e.members := by
  rw [members_eq, depthMembers_append]
  simp only [own, List.cons_append, List.nil_append, depthMembers, depth]
  omega

/-- The numbers of the document are those of the arguments and the extensions. -/
theorem toJson_fits (e : Envelope) :
    e.toJson.Fits ↔ FitsItems e.args ∧ FitsMembers e.kwargs ∧ FitsMembers e.extensions := by
  have hretries := e.retries.toNat_lt
  have htime : ∀ key time, FitsMembers (optionalMember key time) := by
    intro key time
    cases time <;> simp [optionalMember, FitsMembers, Fits]
  simp [toJson, Fits, members_eq, own, fitsMembers_append, FitsMembers, htime]
  intro _ _ _
  omega

/-- The numbers of the document fit if those that the caller gave do. -/
theorem build_fits {now : Instant} {id : TaskId} {task : String} {arguments : Json.Value}
    {o : TaskOptions} {e : Envelope} (h : build now id task arguments o = .ok e)
    (ha : arguments.json.Fits) (ho : FitsMembers o.extensions.entries) : e.toJson.Fits := by
  rw [toJson_fits]
  obtain ⟨a, s, eta, expires, hclass, hs, rfl⟩ := build_ok h
  obtain ⟨hitems, hmembers⟩ := classify_fits hclass ha
  exact ⟨hitems, hmembers, (applyAll_extensions hs nofun).2 trivial ho⟩

/-! ## Reading back -/

/-- An envelope as it comes back from its text. -/
def reread (e : Envelope) : Envelope :=
  { e with
    args := rereadItems e.args
    kwargs := sort (rereadMembers e.kwargs)
    extensions := sort (rereadMembers e.extensions) }

open Decode in
/-- The fields of an envelope with their checks. -/
def fields : List (String × Check) :=
  [("id", check text), ("task", check text), ("args", check jsonList),
    ("kwargs", check jsonObject), ("retries", check uint32),
    ("eta", check (optional text)), ("expires", check (optional text))]

/-- A key that is not the envelope's own is no field. -/
theorem check?_fields_eq_none {key : String} (hkey : key ∉ ownKeys) :
    Decode.check? key fields = none :=
  Decode.check?_eq_none.2 hkey

/-- No key of the envelope's own comes twice. -/
theorem nodup_own (e : Envelope) : (keys e.own).Nodup := by
  cases heta : e.eta <;> cases hexpires : e.expires <;>
    simp [own, heta, hexpires, optionalMember, keys]

/-- A time is written if it is set. -/
theorem lookup_own_time (e : Envelope) :
    lookup "eta" e.own = e.eta.map Json.string ∧
      lookup "expires" e.own = e.expires.map Json.string := by
  cases heta : e.eta <;> cases hexpires : e.expires <;>
    simp [own, heta, hexpires, optionalMember, lookup]

/-- The own members of a printed envelope pass the checks of their fields. -/
theorem check_own {e : Envelope} (hfits : e.toJson.Fits) {r : Reading}
    (hroom : depthMembers e.members ≤ r.room) :
    ∀ m ∈ e.own, Decode.Passes fields r m := by
  obtain ⟨hargs, hkwargs, -⟩ := (toJson_fits e).1 hfits
  obtain ⟨hdargs, hdkwargs, -⟩ := depth_members e
  -- The times may be left out, so they are checked apart from the members that are always there.
  have htime : ∀ key time,
      Decode.check? key fields = some (Decode.check (Decode.optional Decode.text)) →
      ∀ m ∈ optionalMember key time,
        Decode.Passes fields r m := by
    intro key time hkey m hm
    cases time with
    | none => cases hm
    | some s =>
      rw [List.mem_singleton.1 hm]
      exact Decode.passes_of_decode hkey (Decode.optionalText_draft r s)
  intro m hm
  rw [own, List.mem_append, List.mem_append] at hm
  rcases hm with (hm | hm) | hm
  · simp only [List.mem_cons, List.not_mem_nil, or_false] at hm
    rcases hm with rfl | rfl | rfl | rfl | rfl
    · exact Decode.passes_of_decode rfl (Decode.text_draft r e.id.text)
    · exact Decode.passes_of_decode rfl (Decode.text_draft r e.task)
    · exact Decode.passes_of_decode rfl (Decode.jsonList_draft r hargs (by omega))
    · exact Decode.passes_of_decode rfl (Decode.jsonObject_draft r hkwargs (by omega))
    · exact Decode.passes_of_decode rfl (Decode.uint32_draft r e.retries)
  · exact htime _ _ rfl m hm
  · exact htime _ _ rfl m hm

open Decode in
/-- The envelope that is put together from slots and extensions. -/
def assemble (p : Parts) (extensions : Json.Map) : Except Fault Envelope := do
  .ok {
    id := ⟨← p.required "id" text⟩
    task := ← p.required "task" text
    args := ← p.field "args" jsonList []
    kwargs := ← p.field "kwargs" jsonObject []
    retries := ← p.field "retries" uint32 0
    eta := ← p.field "eta" (optional text) none
    expires := ← p.field "expires" (optional text) none
    extensions := extensions.entries }

/-- An envelope is read as a record that admits other fields. -/
theorem decode_eq : decode = Decode.openRecord "TaskEnvelope" fields assemble := rfl

/-- The own members of a printed envelope are put together as they were, read again. -/
theorem assemble_own {e : Envelope} (hfits : e.toJson.Fits) {r : Reading}
    (hroom : depthMembers e.members ≤ r.room) (extensions : Json.Map) :
    assemble ⟨r, Decode.drafts e.own, .missingField⟩ extensions =
      .ok { e.reread with extensions := extensions.entries } := by
  obtain ⟨hargs, hkwargs, -⟩ := (toJson_fits e).1 hfits
  obtain ⟨hdargs, hdkwargs, -⟩ := depth_members e
  obtain ⟨heta, hexpires⟩ := lookup_own_time e
  -- The arguments are nested one level below the envelope, so they need as much less room.
  have hargs := Decode.jsonList_draft r hargs (by omega)
  have hkwargs := Decode.jsonObject_draft r hkwargs (by omega)
  rw [assemble, Decode.required_drafts rfl (Decode.text_draft r e.id.text),
    Decode.required_drafts rfl (Decode.text_draft r e.task),
    Decode.field_drafts [] rfl hargs,
    Decode.field_drafts [] rfl hkwargs,
    Decode.field_drafts 0 rfl (Decode.uint32_draft r e.retries),
    Decode.text, Decode.field_optionalText _ heta, Decode.field_optionalText _ hexpires]
  rfl

/-- An envelope whose document is not nested too deeply is read back. -/
theorem ofBytes_toBytes {e : Envelope} (he : e.Sound) (hfits : e.toJson.Fits)
    (hdepth : e.toJson.depth ≤ 127) : ofBytes e.toBytes = .ok e.reread := by
  obtain ⟨-, -, hextensions⟩ := (toJson_fits e).1 hfits
  -- The envelope itself takes one of the 127 levels.
  let inner : Reading := { Reading.json with room := 126 }
  have hroom : depthMembers e.members ≤ inner.room := by
    rw [toJson, depth] at hdepth
    exact Nat.le_of_succ_le_succ hdepth
  have hroom' : depthMembers e.extensions ≤ inner.room :=
    Nat.le_trans (depth_members e).2.2 hroom
  have henter : Draft.enter .json = .ok inner := rfl
  have hdecode : decode .json e.toJson.draft = .ok e.reread := by
    obtain ⟨extensions, hentries, hread⟩ :=
      Decode.openRecord_draft "TaskEnvelope" assemble henter (check_own hfits hroom) (nodup_own e)
        (fun m hm => check?_fields_eq_none (he m hm)) hextensions hroom'
    rw [toJson, members_eq, decode_eq, hread, assemble_own hfits hroom, hentries]
    rfl
  rw [ofBytes, toBytes, Decode.bytes_encode _ hfits, hdecode]

end Envelope
end TaskQueue
