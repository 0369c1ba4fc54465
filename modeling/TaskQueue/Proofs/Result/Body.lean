import TaskQueue.Proofs.Json.Decoded
import TaskQueue.Result.Body

/-!
# `TaskQueue.Proofs.Result.Body`: the body of a result in a text

A body is never made by a program, only read. `ResultBody.Sound` is what every body has that was
read (`ResultBody.decode_ok`): its values are ordered, and no further member has the key of a field.
So it comes back from its own text (`ResultBody.decode_draft`).
-/

set_option autoImplicit false

namespace TaskQueue

open Json Members

namespace ResultBody

/-- The keys of the fields of a body. -/
def ownKeys : List String := ["status", "result", "traceback"]

/-- The values are ordered, and no further member has the key of a field. -/
structure Sound (b : ResultBody) : Prop where
  result : b.result.Ordered
  extra : (Json.object b.extra).Ordered
  apart : ∀ key ∈ keys b.extra, key ∉ ownKeys

/-- The members of the fields. -/
def own (b : ResultBody) : List (String × Json) :=
  [("status", .string b.status), ("result", b.result),
    ("traceback", match b.traceback with
      | some s => .string s
      | none => .null)]

/-- A result is written as its own fields, then the extra ones. -/
theorem toJson_eq (b : ResultBody) : b.toJson = .object (b.own ++ b.extra) := rfl

open Decode in
/-- The fields of a body with their checks. -/
def fields : List (String × Check) :=
  [("status", check text), ("result", check json), ("traceback", check (optional text))]

open Decode in
/-- The body that is put together from slots and further members. -/
def assemble (p : Parts) (extra : Json.Map) : Except Fault ResultBody := do
  .ok {
    status := ← p.required "status" text
    result := ← p.field "result" json .null
    traceback := ← p.field "traceback" (optional text) none
    extra := extra.entries }

/-- A result is read as a record that admits other fields. -/
theorem decode_eq : decode = Decode.openRecord "ResultBody" fields assemble := rfl

/-- A traceback is always written, if only as `null`. -/
theorem traceback_draft (r : Reading) (b : ResultBody) :
    Decode.optional Decode.text r (Json.draft (match b.traceback with
      | some s => .string s
      | none => .null)) = .ok b.traceback := by
  cases b.traceback with
  | none =>
    rw [Json.draft]
    rfl
  | some s => exact Decode.optionalText_draft r s

/-- A sound body without fractions comes back as it was. -/
theorem decode_draft {b : ResultBody} (hb : b.Sound) (hwhole : b.toJson.Whole) {r : Reading}
    (hroom : b.toJson.depth ≤ r.room) : decode r b.toJson.draft = .ok b := by
  rw [toJson_eq, Whole, wholeMembers_append] at hwhole
  rw [toJson_eq, depth, depthMembers_append] at hroom
  have hdepth : b.result.depth ≤ depthMembers b.own := by
    simp only [own, depthMembers]
    omega
  let inner : Reading := { r with room := r.room - 1 }
  -- The result is one level further in than the body.
  have hresult : Decode.json inner b.result.draft = .ok b.result :=
    Decode.json_whole inner hwhole.1.2.1 hb.result (by simp only [inner]; omega)
  let extra : Json.Map := ⟨⟨b.extra, hb.extra.1⟩, hb.extra.2⟩
  have hentries : b.extra = extra.entries := rfl
  rw [toJson_eq, decode_eq, hentries,
    Decode.openRecord_whole _ _ (Draft.enter_ok (by omega)) extra _ _ _ hwhole.2 _]
  · rw [assemble, Decode.required_drafts rfl (Decode.text_draft _ _),
      Decode.field_drafts _ rfl hresult, Decode.field_drafts _ rfl (traceback_draft _ b)]
    rfl
  · intro m hm
    simp only [own, List.mem_cons, List.not_mem_nil, or_false] at hm
    rcases hm with rfl | rfl | rfl
    · exact Decode.passes_of_decode rfl (Decode.text_draft _ _)
    · exact Decode.passes_of_decode rfl hresult
    · exact Decode.passes_of_decode rfl (traceback_draft _ b)
  · simp [own, keys]
  · intro m hm
    exact Decode.check?_eq_none.2 (hb.apart m.1 (List.mem_map_of_mem hm))
  · simp only [extra]
    omega

/-- A body that was read is sound. -/
theorem decode_ok {r : Reading} {d : Draft} {b : ResultBody} (h : decode r d = .ok b) :
    b.Sound := by
  rw [decode_eq] at h
  obtain ⟨p, extra, h, hkeys⟩ := Decode.openRecord_ok h
  rw [assemble] at h
  obtain ⟨status, -, h⟩ := Except.bind_ok h
  obtain ⟨result, hresult, h⟩ := Except.bind_ok h
  obtain ⟨traceback, -, h⟩ := Except.bind_ok h
  cases h
  refine ⟨?_, extra.ordered, fun key hkey => Decode.check?_eq_none.1 (hkeys key hkey)⟩
  rcases Decode.field_ok hresult with rfl | ⟨d, hd⟩
  · trivial
  · exact Draft.value_ordered d hd

end ResultBody
end TaskQueue
