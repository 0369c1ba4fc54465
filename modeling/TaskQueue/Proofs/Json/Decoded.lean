import TaskQueue.Proofs.Json.Order
import TaskQueue.Proofs.Json.Records

/-!
# `TaskQueue.Proofs.Json.Decoded`: what a decoder can make

`TaskQueue.Proofs.Json.Records` says how a printed record is decoded. Here it is said what comes
out of a decoder at all, whatever it was given. A field is what its decoder made of some draft, or
it is the default (`Decode.field_ok`). A record was put together from some slots
(`Decode.record_ok`). If it passes further members on, then none of them has the key of a field
(`Decode.openRecord_ok`).

So what was decoded can be printed and decoded again. It comes back as it was, further members
included, if it has no fractions (`Decode.openRecord_whole`).
-/

set_option autoImplicit false

namespace TaskQueue

open Json Members

/-- What is done with the outcome of two steps can be done in the second. -/
theorem Except.map_bind {α γ δ : Type} (f : γ → δ) (x : Except Fault α) (g : α → Except Fault γ) :
    (x >>= g).map f = x >>= fun a => (g a).map f := by
  cases x <;> rfl

namespace Decode

/-! ## Values without fractions -/

/-- An ordered value without fractions is decoded as it was printed. -/
theorem json_whole (r : Reading) {v : Json} (hv : v.Whole) (ho : v.Ordered)
    (hroom : v.depth ≤ r.room) : json r v.draft = .ok v := by
  rw [json_draft r hv.fits hroom, reread_of_whole hv ho]

section
variable {α : Type} (title : String) {fields : List (String × Check)} {r inner : Reading}
  {own : List (String × Json)}

/-- A printed object is decoded as a record that passes unknown members on, and these come back as
they were if they are without fractions. -/
theorem openRecord_whole (build : Parts → Json.Map → Except Fault α)
    (henter : Draft.enter r = .ok inner) (others : Json.Map)
    (hown : ∀ m ∈ own, Passes fields inner m)
    (hkeys : (keys own).Nodup) (hothers : ∀ m ∈ others.entries, check? m.1 fields = none)
    (hwhole : WholeMembers others.entries) (hroom : depthMembers others.entries ≤ inner.room) :
    openRecord title fields build r (Json.object (own ++ others.entries)).draft =
      build ⟨inner, drafts own, .missingField⟩ others := by
  obtain ⟨extra, hextra, h⟩ :=
    openRecord_draft title build henter hown hkeys hothers hwhole.fits hroom
  rw [rereadMembers_of_whole hwhole others.values, sort_of_ascending others.ascending] at hextra
  rw [h, Json.Map.ext hextra]

end

/-! ## What a decoder can make -/

/-- A draft of the wrong type is never taken. -/
theorem unwanted_ne_ok {α : Type} {want : String} {r : Reading} {d : Draft} (a : α) :
    Draft.unwanted want r d ≠ .ok a := by
  intro h
  obtain ⟨got, -, h⟩ := Except.bind_ok h
  cases h

section
variable {α : Type} {p : Parts} {name : String} {decode : Decoder α} {a : α}

/-- A required field that was read was read by its decoder. -/
theorem required_ok (h : p.required name decode = .ok a) : ∃ d, decode p.reading d = .ok a := by
  unfold Parts.required at h
  split at h
  · exact ⟨_, h⟩
  · cases h

/-- A field is its default or was read by its decoder. -/
theorem field_ok {default : α} (h : p.field name decode default = .ok a) :
    a = default ∨ ∃ d, decode p.reading d = .ok a := by
  unfold Parts.field at h
  split at h
  · exact .inr ⟨_, h⟩
  · cases h
    exact .inl rfl

end

/-- Members that are kept apart have no key of a field. -/
theorem collect_apart {fields : List (String × Check)} {other : Check} {r : Reading}
    (members : List (Except Fault String × Draft)) {slots slots' : Slots}
    {unknown unknown' : List (String × Draft)}
    (h : collect fields other r slots unknown members = .ok (slots', unknown'))
    (hunknown : ∀ m ∈ unknown, check? m.1 fields = none) :
    ∀ m ∈ unknown', check? m.1 fields = none := by
  -- A member goes to the others only if no field has its key.
  induction members generalizing slots unknown with
  | nil =>
    rw [collect] at h
    cases h
    exact fun m hm => hunknown m (List.mem_reverse.1 hm)
  | cons m rest ih =>
    obtain ⟨key, d⟩ := m
    rw [collect] at h
    obtain ⟨k, -, h⟩ := Except.bind_ok h
    split at h
    · split at h
      · cases h
      · obtain ⟨-, -, h⟩ := Except.bind_ok h
        exact ih h hunknown
    · rename_i hk
      obtain ⟨-, -, h⟩ := Except.bind_ok h
      refine ih h fun m hm => ?_
      rcases List.mem_cons.1 hm with rfl | hm
      · exact hk
      · exact hunknown m hm

/-- The further members of a record come under the keys that they had. -/
theorem extra_ok {r : Reading} (unknown : List (String × Draft))
    {extra : List (String × Json.Value)}
    (h : (unknown.mapM fun m => return (m.1, ← value r m.2)) =
      (.ok extra : Except Fault (List (String × Json.Value)))) :
    keys extra = unknown.map (·.1) := by
  induction unknown generalizing extra with
  | nil =>
    cases h
    rfl
  | cons m rest ih =>
    rw [List.mapM_cons] at h
    obtain ⟨x, hx, h⟩ := Except.bind_ok h
    obtain ⟨xs, hxs, h⟩ := Except.bind_ok h
    obtain ⟨v, -, hx⟩ := Except.bind_ok hx
    cases hx
    cases h
    rw [keys, List.map_cons, ← keys, ih hxs, List.map_cons]

/-- A record was put together from some slots. -/
theorem record_ok {α : Type} {title : String} {fields : List (String × Check)}
    {build : Parts → Except Fault α} {r : Reading} {d : Draft} {a : α}
    (h : record title fields build r d = .ok a) : ∃ p, build p = .ok a := by
  unfold record at h
  split at h
  · obtain ⟨r, -, h⟩ := Except.bind_ok h
    obtain ⟨⟨slots, _⟩, -, h⟩ := Except.bind_ok h
    obtain ⟨-, -, h⟩ := Except.bind_ok h
    exact ⟨_, h⟩
  · obtain ⟨r, -, h⟩ := Except.bind_ok h
    obtain ⟨⟨slots, n⟩, -, h⟩ := Except.bind_ok h
    exact ⟨_, h⟩
  · exact absurd h (unwanted_ne_ok _)

/-- A record that passes members on was put together from some slots and from further members, none
of which has the key of a field. -/
theorem openRecord_ok {α : Type} {title : String} {fields : List (String × Check)}
    {build : Parts → Json.Map → Except Fault α} {r : Reading} {d : Draft} {a : α}
    (h : openRecord title fields build r d = .ok a) :
    ∃ p extra, build p extra = .ok a ∧
      ∀ key ∈ keys extra.entries, check? key fields = none := by
  unfold openRecord at h
  split at h
  · obtain ⟨r, -, h⟩ := Except.bind_ok h
    obtain ⟨⟨slots, unknown⟩, hcollect, h⟩ := Except.bind_ok h
    obtain ⟨-, -, h⟩ := Except.bind_ok h
    obtain ⟨extra, hextra, h⟩ := Except.bind_ok h
    refine ⟨_, _, h, fun key hkey => ?_⟩
    rw [Json.Map.entries_ofList] at hkey
    have hmem : key ∈ keys extra := by simpa [keys] using mem_keys_sort hkey
    -- The extra members are the unknown ones, and unknown are those that no check belongs to.
    rw [extra_ok unknown hextra] at hmem
    obtain ⟨m, hm, rfl⟩ := List.mem_map.1 hmem
    exact collect_apart _ hcollect (fun m hm => absurd hm List.not_mem_nil) m hm
  · exact absurd h (unwanted_ne_ok _)

/-- What is done with a record that was put together can be done where it is put together. -/
theorem record_map {γ δ : Type} {f : γ → δ} {title : String} {fields : List (String × Check)}
    {build : Parts → Except Fault γ} {build' : Parts → Except Fault δ}
    (h : ∀ p, build' p = (build p).map f) (r : Reading) (d : Draft) :
    record title fields build' r d = (record title fields build r d).map f := by
  cases d with
  | object _ _ | array _ _ => simp only [record, h, Except.map_bind]
  | _ =>
    simp only [record, Draft.unwanted, Except.map_bind]
    rfl

/-- What a text is decoded as, the decoder made of some draft. -/
theorem string_ok {α : Type} {decode : Decoder α} {s : String} {a : α}
    (h : string decode s = .ok a) : ∃ d, decode .json d = .ok a := by
  rw [string, document] at h
  obtain ⟨x, hx, h⟩ := Except.bind_ok h
  split at h
  · cases h
  · cases h
    exact ⟨_, hx⟩

end Decode
end TaskQueue
