import TaskQueue.Proofs.Task.Building
import TaskQueue.Proofs.Task.Envelope

/-!
# `TaskQueue.Proofs.Task.RoundTrip`: an envelope that was built comes back as it was

`Envelope.ofBytes_toBytes` says how an envelope comes back from its text: the numbers with a
fraction are read again, and the members of every object are sorted. An envelope that
`Envelope.build` made has sorted members already (`Envelope.build_ordered`), because the arguments
and extensions that it is built from have. So without fractions it comes back as it was.

`writtenKeys` are the keys of an object as they stand in its text, where one could come twice. In
the text of an envelope none does: its own keys differ from each other, those of the extensions are
in ascending order, and no extension has a key of the envelope's own.

The main result is `Envelope.build_roundTrip`.
-/

set_option autoImplicit false

namespace TaskQueue

open Json Members

/-! ## Keys in a text -/

/-- The keys of an object in the order in which they stand in its text, if the text is one object
and nothing else. -/
def writtenKeys (bs : Bytes) : Option (List String) :=
  match Draft.ofPieces (Utf8.pieces bs) with
  | ⟨.object members none, false⟩ => members.mapM fun m => m.1.toOption
  | _ => none

/-- An object is written with the keys of its members. -/
theorem writtenKeys_encode {members : List (String × Json)}
    (hfits : (Json.object members).Fits) :
    writtenKeys (Utf8.encode (Json.object members).text) = some (keys members) := by
  have hkeys : ∀ ms : List (String × Json),
      (draftMembers ms).mapM (fun m => m.1.toOption) = some (keys ms) := by
    intro ms
    induction ms with
    | nil => rfl
    | cons m ms ih =>
      rw [draftMembers, List.mapM_cons, ih]
      rfl
  rw [writtenKeys, Utf8.pieces_encode, Json.text, String.toList_ofList, Draft.ofPieces_chars hfits,
    Json.draft]
  exact hkeys members

namespace Envelope

/-! ## Order -/

/-- The arguments of a task are ordered, since the value is that they were given as. -/
theorem classify_ordered {v : Json} {a : Arguments} (h : Arguments.classify v = .ok a)
    (hv : v.Ordered) : OrderedItems a.items ∧ (Json.object a.members).Ordered := by
  have hempty : (Json.object []).Ordered := ⟨List.Pairwise.nil, trivial⟩
  rcases classify_ok h with ⟨rfl, rfl⟩ | ⟨items, rfl, rfl⟩ | ⟨items, members, rfl, rfl, hitems⟩ |
    ⟨members, rfl, rfl⟩
  · exact ⟨trivial, hempty⟩
  · exact ⟨hv, hempty⟩
  · refine ⟨orderedItems_iff.2 fun x hx => ?_, hempty⟩
    obtain ⟨key, hmem⟩ := hitems x hx
    exact orderedMembers_iff.1 hv.2 _ hmem
  · exact ⟨trivial, hv⟩

/-- The extensions of an envelope have keys of the given ones. -/
theorem keys_kept_sublist (given : List (String × Json)) :
    (keys (given.filterMap fun m => (kept? m.1 m.2).map fun v => (m.1, v))).Sublist
      (keys given) := by
  induction given with
  | nil => exact List.Sublist.slnil
  | cons m rest ih =>
    rw [List.filterMap_cons]
    cases kept? m.1 m.2 with
    | none => exact ih.cons _
    | some v => exact ih.cons_cons _

/-- A value that is kept is ordered if it was given so. -/
theorem kept?_ordered {key : String} {value v : Json} (h : kept? key value = some v)
    (hvalue : value.Ordered) : v.Ordered := by
  rcases kept?_eq_some h with rfl | ⟨s, rfl⟩ | ⟨b, rfl⟩
  · exact hvalue
  · trivial
  · trivial

/-- All that is kept of ordered extensions is ordered. -/
theorem kept_ordered {given : List (String × Json)} (h : (Json.object given).Ordered) :
    (Json.object (given.filterMap fun m => (kept? m.1 m.2).map fun v => (m.1, v))).Ordered := by
  refine ⟨h.1.sublist (keys_kept_sublist given), orderedMembers_iff.2 fun m hm => ?_⟩
  obtain ⟨g, hg, hkept⟩ := List.mem_filterMap.1 hm
  obtain ⟨v, hv, rfl⟩ := Option.map_eq_some_iff.1 hkept
  exact kept?_ordered hv (orderedMembers_iff.1 h.2 g hg)

/-- The lists and objects of the envelope are in the order in which they are read. -/
structure InOrder (e : Envelope) : Prop where
  args : OrderedItems e.args
  kwargs : (Json.object e.kwargs).Ordered
  extensions : (Json.object e.extensions).Ordered

/-- An envelope that is built is in order, since it is built of ordered values. -/
theorem build_ordered {now : Instant} {id : TaskId} {task : String} {arguments : Json.Value}
    {o : TaskOptions} {e : Envelope} (h : build now id task arguments o = .ok e) : e.InOrder := by
  have hspecified := (build_runs now id task arguments o).wanted_of_ok h
  obtain ⟨a, hclass, hargs, hkwargs⟩ := hspecified.arguments
  obtain ⟨hitems, hmembers⟩ := classify_ordered hclass arguments.ordered
  exact ⟨hargs ▸ hitems, hkwargs ▸ hmembers,
    hspecified.extensions ▸ kept_ordered o.extensions.ordered⟩

/-! ## The text -/

/-- Every own member has one of the envelope's own keys. -/
theorem mem_ownKeys {e : Envelope} {key : String} (h : key ∈ keys e.own) : key ∈ ownKeys := by
  cases heta : e.eta <;> cases hexpires : e.expires <;>
    simp only [own, heta, hexpires, optionalMember, keys, List.map_append, List.map_cons,
      List.map_nil, List.mem_append, List.mem_cons, List.not_mem_nil, or_false] at h <;>
    simp only [ownKeys, List.mem_cons, List.not_mem_nil, or_false] <;>
    tauto

/-- No key comes twice in the document of an envelope. -/
theorem nodup_members {e : Envelope} (he : e.Sound) (ho : e.InOrder) :
    (keys e.members).Nodup := by
  rw [members_eq, keys, List.map_append, List.nodup_append]
  refine ⟨nodup_own e, ho.extensions.1.nodup, ?_⟩
  rintro key hown _ hextension rfl
  obtain ⟨m, hm, rfl⟩ := List.mem_map.1 hextension
  exact he m hm (mem_ownKeys hown)

/-- Which of its own keys an envelope is written with. -/
theorem mem_keys_members {e : Envelope} (he : e.Sound) :
    (∀ key ∈ ["id", "task", "args", "kwargs", "retries"], key ∈ keys e.members) ∧
      ("eta" ∈ keys e.members ↔ e.eta.isSome) ∧
      ("expires" ∈ keys e.members ↔ e.expires.isSome) := by
  have hextension : ∀ key ∈ ownKeys, key ∉ keys e.extensions := by
    intro key hkey h
    obtain ⟨m, hm, rfl⟩ := List.mem_map.1 h
    exact he m hm hkey
  have hnoEta := hextension "eta" (by decide)
  have hnoExpires := hextension "expires" (by decide)
  simp only [members_eq, keys, List.map_append, List.mem_append] at hnoEta hnoExpires ⊢
  simp only [hnoEta, hnoExpires, or_false]
  cases heta : e.eta <;> cases hexpires : e.expires <;>
    simp [own, heta, hexpires, optionalMember]

/-- An envelope in order and without fractions comes back as it was. -/
theorem reread_eq {e : Envelope} (ho : e.InOrder) (hwhole : e.toJson.Whole) : e.reread = e := by
  rw [toJson, Whole, members_eq, wholeMembers_append, own, wholeMembers_append,
    wholeMembers_append] at hwhole
  obtain ⟨⟨⟨⟨-, -, hargs, hkwargs, -⟩, -⟩, -⟩, hextensions⟩ := hwhole
  rw [reread, rereadItems_of_whole hargs ho.args,
    rereadMembers_of_whole hkwargs ho.kwargs.2, sort_of_ascending ho.kwargs.1,
    rereadMembers_of_whole hextensions ho.extensions.2, sort_of_ascending ho.extensions.1]

/-- The fields of an envelope whose parts are in order are in order. -/
theorem orderedMembers_own {e : Envelope} (ho : e.InOrder) : OrderedMembers e.own := by
  have hargs := ho.args
  have hkwargs := ho.kwargs
  cases heta : e.eta <;> cases hexpires : e.expires <;>
    simp_all [own, optionalMember, OrderedMembers, Ordered]

/-- The document of an envelope in order and without fractions comes back with its members
sorted. -/
theorem parseBytes_toBytes {e : Envelope} (ho : e.InOrder) (hwhole : e.toJson.Whole)
    (hdepth : e.toJson.depth ≤ 127) :
    Json.parseBytes e.toBytes = .ok (.object (sort e.members)) := by
  have hmembers : OrderedMembers e.members := by
    rw [orderedMembers_iff, members_eq]
    intro m hm
    rcases List.mem_append.1 hm with hm | hm
    · exact orderedMembers_iff.1 (orderedMembers_own ho) m hm
    · exact orderedMembers_iff.1 ho.extensions.2 m hm
  have hreread : e.toJson.reread = .object (sort e.members) := by
    rw [toJson, Json.reread, rereadMembers_of_whole hwhole hmembers]
  rw [toBytes, Json.parseBytes_encode hwhole.fits hdepth, hreread]

/-- No extension of an envelope that was built has a key of the envelope's own. Its text is an
object in which no key comes twice and every member stands that the envelope has. Reading the text
gives the envelope back. -/
theorem build_roundTrip {now : Instant} {id : TaskId} {task : String} {arguments : Json.Value}
    {o : TaskOptions} {e : Envelope} (h : build now id task arguments o = .ok e)
    (hwhole : e.toJson.Whole) (hdepth : e.toJson.depth ≤ 127) :
    (∀ key ∈ keys e.extensions,
      key ∉ ["id", "task", "args", "kwargs", "retries", "eta", "expires"]) ∧
    Json.parseBytes e.toBytes = .ok (.object (sort e.members)) ∧
    (∃ written, writtenKeys e.toBytes = some written ∧ written.Nodup ∧
      (∀ key ∈ ["id", "task", "args", "kwargs", "retries"], key ∈ written) ∧
      ("eta" ∈ written ↔ e.eta.isSome) ∧ ("expires" ∈ written ↔ e.expires.isSome)) ∧
    ofBytes e.toBytes = .ok e := by
  have hsound := build_sound h
  have horder := build_ordered h
  refine ⟨fun key hkey => ?_, parseBytes_toBytes horder hwhole hdepth,
    ⟨keys e.members, writtenKeys_encode hwhole.fits, nodup_members hsound horder,
      mem_keys_members hsound⟩, ?_⟩
  · obtain ⟨m, hm, rfl⟩ := List.mem_map.1 hkey
    exact hsound m hm
  · rw [ofBytes_toBytes hsound hwhole.fits hdepth, reread_eq horder hwhole]

/-- Options with a time to start and two extensions. -/
def linkedOptions : TaskOptions :=
  { eta := some (.text "2024-05-01")
    extensions := .ofList [("utc", .int 1), ("chord", .string "ü\x00\n")] }

/-- Keyword arguments, in no particular order. -/
def linkedArguments : Json.Map := .ofList [("y", .null), ("x", .array [.int (-2)])]

/-- The envelope that is built with them. -/
def linkedEnvelope : Envelope where
  id := ⟨"t-1"⟩
  task := "tasks.ädd"
  args := []
  kwargs := [("x", .array [.int (-2)]), ("y", .null)]
  retries := 0
  eta := some "2024-05-01"
  expires := none
  extensions := [("chord", .string "ü\x00\n"), ("utc", .bool true)]

/-- The envelope with texts of all kinds comes back. -/
theorem build_roundTrip_linked :
    build ⟨0, 0⟩ ⟨"t-1"⟩ "tasks.ädd" (.object linkedArguments) linkedOptions =
        .ok linkedEnvelope ∧
      linkedEnvelope.toJson.Whole ∧ linkedEnvelope.toJson.depth ≤ 127 ∧
      ofBytes linkedEnvelope.toBytes = .ok linkedEnvelope := by
  have hbuild : build ⟨0, 0⟩ ⟨"t-1"⟩ "tasks.ädd" (.object linkedArguments) linkedOptions =
      .ok linkedEnvelope := by rfl
  have hwhole : linkedEnvelope.toJson.Whole := by
    simp [toJson, members, linkedEnvelope, optionalMember, Whole, WholeMembers, WholeItems]
  have hdepth : linkedEnvelope.toJson.depth ≤ 127 := by decide
  exact ⟨hbuild, hwhole, hdepth, (build_roundTrip hbuild hwhole hdepth).2.2.2⟩

end Envelope
end TaskQueue
