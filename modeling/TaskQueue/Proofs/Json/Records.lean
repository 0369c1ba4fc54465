import TaskQueue.Proofs.Json.Reading

/-!
# `TaskQueue.Proofs.Json.Records`: decoding the members of a printed object

A record that was printed as an object is decoded from the drafts of its members. Each field
decoder is run on what was printed for the field: `Decode.jsonList_draft` and its neighbours say
what it gives. `Decode.collect_drafts` then follows `Decode.collect` through all members: if each
known member passes the check of its field, no known key comes twice, and each unknown member
passes the check for unknown ones, then the known members are in the slots and the others apart,
both in document order. `Decode.record_draft` is the same for a whole record, and
`Decode.openRecord_draft` for one that passes unknown members on.

From the slots a record is put together field by field. `Decode.required_drafts` and
`Decode.field_drafts` take the value of a field from what was printed for it, and
`Decode.field_left_out` its default.
-/

set_option autoImplicit false

namespace TaskQueue

open Json Members

namespace Json

/-! ## Lists of members -/

/-- Two lists of members fit the ranges of numbers if both do. -/
theorem fitsMembers_append {xs ys : List (String × Json)} :
    FitsMembers (xs ++ ys) ↔ FitsMembers xs ∧ FitsMembers ys := by
  induction xs with
  | nil => simp [FitsMembers]
  | cons m ms ih => simp only [List.cons_append, FitsMembers, ih, and_assoc]

/-- Two lists of members are as deep as the deeper of them. -/
theorem depthMembers_append (xs ys : List (String × Json)) :
    depthMembers (xs ++ ys) = max (depthMembers xs) (depthMembers ys) := by
  induction xs with
  | nil => simp [depthMembers]
  | cons m ms ih => simp only [List.cons_append, depthMembers, ih, Nat.max_assoc]

/-- Items are no deeper than the deepest of them. -/
theorem depthItems_le {items : List Json} {n : Nat} (h : ∀ x ∈ items, x.depth ≤ n) :
    depthItems items ≤ n := by
  induction items with
  | nil => exact Nat.zero_le n
  | cons x xs ih =>
    exact Nat.max_le.2 ⟨h x List.mem_cons_self, ih fun y hy => h y (List.mem_cons_of_mem _ hy)⟩

/-- Items fit the ranges of numbers if each of them does. -/
theorem fitsItems_of_forall {items : List Json} (h : ∀ x ∈ items, x.Fits) : FitsItems items := by
  induction items with
  | nil => trivial
  | cons x xs ih =>
    exact ⟨h x List.mem_cons_self, ih fun y hy => h y (List.mem_cons_of_mem _ hy)⟩

/-- A member that is not nested too deeply in its object is not too deep itself. -/
theorem fits_of_mem {members : List (String × Json)} (hmembers : FitsMembers members)
    {m : String × Json} (hm : m ∈ members) : m.2.Fits ∧ m.2.depth ≤ depthMembers members := by
  induction members with
  | nil => cases hm
  | cons x xs ih =>
    rw [depthMembers]
    rcases List.mem_cons.1 hm with rfl | hm
    · exact ⟨hmembers.1, Nat.le_max_left _ _⟩
    · obtain ⟨hfits, hdepth⟩ := ih hmembers.2 hm
      exact ⟨hfits, Nat.le_trans hdepth (Nat.le_max_right _ _)⟩

end Json

namespace Draft

/-- Where there is room, a list or an object is entered. -/
theorem enter_ok {r : Reading} (hroom : 0 < r.room) :
    enter r = .ok { r with room := r.room - 1 } := by
  obtain ⟨n, hn⟩ : ∃ n, r.room = n + 1 := ⟨r.room - 1, by omega⟩
  simp [enter, hn]

end Draft

namespace Decode

/-! ## Fields -/

/-- The check of a field is passed by what its decoder takes. -/
theorem check_ok {α : Type} {decode : Decoder α} {r : Reading} {d : Draft} {a : α}
    (h : decode r d = .ok a) : check decode r d = .ok () := by
  rw [check, h]
  rfl

/-- A printed text is decoded. -/
theorem textAs_draft (want : String) (r : Reading) (s : String) :
    textAs want r (Json.string s).draft = .ok s := by
  rw [Json.draft]
  rfl

/-- A string is read as a text in either reading. -/
theorem text_draft (r : Reading) (s : String) : text r (Json.string s).draft = .ok s :=
  textAs_draft _ r s

/-- A Boolean is read as one in either reading. -/
theorem bool_draft (r : Reading) (b : Bool) : bool r (Json.bool b).draft = .ok b := by
  rw [Json.draft]
  rfl

/-- What a decoder makes of a draft, it also makes of it where the value is optional. -/
theorem optional_draft {α : Type} {decode : Decoder α} {r : Reading} {d : Draft} {a : α}
    (hnull : d ≠ .null) (h : decode r d = .ok a) : optional decode r d = .ok (some a) := by
  cases d with
  | null => exact absurd rfl hnull
  | _ => simp only [optional, h, Except.map]

/-- A printed natural number is decoded if it is small enough. -/
theorem unsigned_draft (r : Reading) {bits n : Nat} (hn : n < 2 ^ bits) :
    unsigned bits r (Json.int n).draft = .ok n := by
  have hrange : (0 : Int) ≤ n ∧ (n : Int) < Nat.pow 2 bits :=
    ⟨Int.natCast_nonneg n, Int.ofNat_lt.2 (by rwa [Nat.pow_eq])⟩
  rw [Json.draft, unsigned, if_pos hrange, Int.toNat_natCast]

/-- A printed number of 16 bits is decoded. -/
theorem uint16_draft (r : Reading) (n : UInt16) : uint16 r (Json.int n.toNat).draft = .ok n := by
  rw [uint16, unsigned_draft r n.toNat_lt, Except.map, UInt16.ofNat_toNat]

/-- A printed number of 32 bits is decoded. -/
theorem uint32_draft (r : Reading) (n : UInt32) : uint32 r (Json.int n.toNat).draft = .ok n := by
  rw [uint32, unsigned_draft r n.toNat_lt, Except.map, UInt32.ofNat_toNat]

/-- A printed number of 64 bits is decoded. -/
theorem uint64_draft (r : Reading) (n : UInt64) : uint64 r (Json.int n.toNat).draft = .ok n := by
  rw [uint64, unsigned_draft r n.toNat_lt, Except.map, UInt64.ofNat_toNat]

/-- A printed text is decoded where it is optional. -/
theorem optionalText_draft (r : Reading) (s : String) :
    optional text r (Json.string s).draft = .ok (some s) :=
  optional_draft nofun (text_draft r s)

/-- A printed value is decoded if there is room for it. -/
theorem json_draft (r : Reading) {v : Json} (hv : v.Fits) (hroom : v.depth ≤ r.room) :
    json r v.draft = .ok v.reread :=
  Draft.value_draft v hv r.room hroom

/-- What is decoded as a value is decoded as an ordered one. -/
theorem value_of_json {r : Reading} {d : Draft} {v : Json} (h : json r d = .ok v) :
    ∃ w : Json.Value, w.json = v ∧ value r d = .ok w := by
  refine ⟨⟨v, Draft.value_ordered d h⟩, rfl, ?_⟩
  unfold value
  split
  · rename_i hv
    cases hv.symm.trans h
    rfl
  · rename_i hv
    cases hv.symm.trans h

/-- A printed value is decoded as an ordered one if there is room for it. -/
theorem value_draft (r : Reading) {v : Json} (hv : v.Fits) (hroom : v.depth ≤ r.room) :
    ∃ w : Json.Value, w.json = v.reread ∧ value r v.draft = .ok w :=
  value_of_json (json_draft r hv hroom)

/-- Printed items are decoded as a list if there is room for them. -/
theorem jsonList_draft (r : Reading) {items : List Json} (hitems : FitsItems items)
    (hroom : depthItems items + 1 ≤ r.room) :
    jsonList r (Json.array items).draft = .ok (rereadItems items) := by
  have hvalue := json_draft r (v := .array items) (by rwa [Fits]) (by rwa [depth])
  rw [json, Json.draft, reread] at hvalue
  rw [Json.draft, jsonList, hvalue]
  rfl

/-- Printed members are decoded as an object if there is room for them. -/
theorem jsonObject_draft (r : Reading) {members : List (String × Json)}
    (hmembers : FitsMembers members) (hroom : depthMembers members + 1 ≤ r.room) :
    jsonObject r (Json.object members).draft =
      .ok (sort (rereadMembers members)) := by
  have hvalue := json_draft r (v := .object members) (by rwa [Fits]) (by rwa [depth])
  rw [json, Json.draft, reread] at hvalue
  rw [Json.draft, jsonObject, hvalue]
  rfl

/-! ## Members -/

/-- A printed member is one of a field, and passes the check of that field. -/
def Passes (fields : List (String × Check)) (r : Reading) (m : String × Json) : Prop :=
  ∃ c, check? m.1 fields = some c ∧ c r m.2.draft = .ok ()

/-- A member passes if the decoder of its field takes it. -/
theorem passes_of_decode {α : Type} {fields : List (String × Check)} {decode : Decoder α}
    {r : Reading} {key : String} {v : Json} {a : α}
    (hkey : check? key fields = some (check decode)) (h : decode r v.draft = .ok a) :
    Passes fields r (key, v) :=
  ⟨_, hkey, check_ok h⟩

/-- Members with the drafts of what was printed for them. -/
def drafts (members : List (String × Json)) : List (String × Draft) :=
  members.map fun m => (m.1, m.2.draft)

/-- The slot of a printed field has the draft of its value. -/
theorem slot?_drafts (name : String) (members : List (String × Json)) :
    slot? name (drafts members) = (lookup name members).map Json.draft := by
  induction members with
  | nil => rfl
  | cons m ms ih =>
    -- Both take the first member of that name.
    by_cases h : m.1 = name
    · simp [drafts, slot?, lookup, h]
    · have hrest : slot? name (drafts (m :: ms)) = slot? name (drafts ms) := by
        simp [drafts, slot?, h]
      rw [hrest, ih, lookup, if_neg h]

section
variable {α : Type} {own : List (String × Json)} {r : Reading} {absent : String → Fault}
  {name : String} {decode : Decoder α} {v : Json} {a : α}

/-- A field that must be there is decoded from what was printed for it. -/
theorem required_drafts (hv : lookup name own = some v) (h : decode r v.draft = .ok a) :
    Parts.required ⟨r, drafts own, absent⟩ name decode = .ok a := by
  simp only [Parts.required, slot?_drafts, hv, Option.map_some, h]

/-- A field with a default is decoded from what was printed for it. -/
theorem field_drafts (default : α) (hv : lookup name own = some v)
    (h : decode r v.draft = .ok a) :
    Parts.field ⟨r, drafts own, absent⟩ name decode default = .ok a := by
  simp only [Parts.field, slot?_drafts, hv, Option.map_some, h]

/-- A field that was left out has its default. -/
theorem field_left_out (default : α) (hv : lookup name own = none) :
    Parts.field ⟨r, drafts own, absent⟩ name decode default = .ok default := by
  simp only [Parts.field, slot?_drafts, hv, Option.map_none]

end

/-- An optional text is decoded as it was printed, or as none if it was left out. -/
theorem field_optionalText {own : List (String × Json)} {r : Reading} {absent : String → Fault}
    {name : String} {s : Option String} (want : String) (h : lookup name own = s.map Json.string) :
    Parts.field ⟨r, drafts own, absent⟩ name (optional (textAs want)) none = .ok s := by
  cases s with
  | none => exact field_left_out none h
  | some s => exact field_drafts none h (optional_draft nofun (textAs_draft want r s))

/-- A key has no check if and only if it is that of no field. -/
theorem check?_eq_none {key : String} {fields : List (String × Check)} :
    check? key fields = none ↔ key ∉ fields.map (·.1) := by
  induction fields with
  | nil => simp [check?]
  | cons field rest ih =>
    rw [check?, List.map_cons, List.mem_cons, not_or, ← ih]
    by_cases h : field.1 = key
    · simp [h]
    · simp [h, Ne.symm h]

section
variable {fields : List (String × Check)} {other : Check} {r : Reading}
  {slots : Slots} {unknown : List (String × Draft)} {rest : List (Except Fault String × Draft)}

/-- A known member that passes its check goes to a slot. -/
theorem collect_known {key : String} {d : Draft} {c : Check} (hc : check? key fields = some c)
    (hnew : slot? key slots = none) (hok : c r d = .ok ()) :
    collect fields other r slots unknown ((.ok key, d) :: rest) =
      collect fields other r ((key, d) :: slots) unknown rest := by
  rw [collect]
  simp [hc, hnew, hok, bind, Except.bind]

/-- An unknown member that passes the check for such is kept apart. -/
theorem collect_unknown {key : String} {d : Draft} (hc : check? key fields = none)
    (hok : other r d = .ok ()) :
    collect fields other r slots unknown ((.ok key, d) :: rest) =
      collect fields other r slots ((key, d) :: unknown) rest := by
  rw [collect]
  simp [hc, hok, bind, Except.bind]

end

/-- There is a slot exactly for the keys that are listed. -/
theorem slot?_eq_none {key : String} {slots : Slots} (h : key ∉ slots.map (·.1)) :
    slot? key slots = none := by
  induction slots with
  | nil => rfl
  | cons s rest ih =>
    rw [List.map_cons, List.mem_cons, not_or] at h
    rw [slot?, if_neg (Ne.symm h.1), ih h.2]

/-- The known members of a printed object go to slots and the others are kept apart. -/
theorem collect_drafts (fields : List (String × Check)) (other : Check) (r : Reading)
    (own others : List (String × Json)) (slots : Slots) (unknown : List (String × Draft))
    (hown : ∀ m ∈ own, Passes fields r m)
    (hkeys : (slots.map (·.1) ++ keys own).Nodup)
    (hothers : ∀ m ∈ others, check? m.1 fields = none ∧ other r m.2.draft = .ok ()) :
    collect fields other r slots unknown (draftMembers (own ++ others)) =
      .ok (slots.reverse ++ drafts own, unknown.reverse ++ drafts others) := by
  -- First the own members go to slots, one after the other; then no slot changes and the others
  -- are kept apart.
  induction own generalizing slots with
  | nil =>
    rw [List.nil_append, drafts, List.map_nil, List.append_nil]
    induction others generalizing unknown with
    | nil => simp [draftMembers, collect, drafts]
    | cons m ms ih =>
      obtain ⟨hc, hok⟩ := hothers m List.mem_cons_self
      rw [draftMembers, collect_unknown hc hok,
        ih _ fun x hx => hothers x (List.mem_cons_of_mem _ hx)]
      simp [drafts]
  | cons m ms ih =>
    obtain ⟨c, hc, hok⟩ := hown m List.mem_cons_self
    have hnodup := hkeys
    rw [keys, List.map_cons, List.nodup_append] at hnodup
    have hnew : slot? m.1 slots = none :=
      slot?_eq_none fun h => hnodup.2.2 _ h _ List.mem_cons_self rfl
    -- The keys in use and the keys to come are the same as before, in another order.
    have hperm : (slots.map (·.1) ++ m.1 :: keys ms).Perm
        (((m.1, m.2.draft) :: slots).map (·.1) ++ keys ms) := by
      rw [List.map_cons, List.cons_append]
      exact List.perm_middle
    rw [List.cons_append, draftMembers, collect_known hc hnew hok,
      ih _ (fun x hx => hown x (List.mem_cons_of_mem _ hx)) (hperm.nodup_iff.1 hkeys)]
    simp [drafts]

/-- Printed members are decoded one by one, and come back as values. -/
theorem mapM_drafts (r : Reading) {members : List (String × Json)} (hfits : FitsMembers members)
    (hroom : depthMembers members ≤ r.room) :
    ∃ values : List (String × Json.Value),
      (values.map fun m => (m.1, m.2.json)) = rereadMembers members ∧
      ((drafts members).mapM fun m => return (m.1, ← value r m.2)) =
        (.ok values : Except Fault (List (String × Json.Value))) := by
  -- Induction on the members. Each of them is read with the room of the whole object.
  induction members with
  | nil => exact ⟨[], rfl, rfl⟩
  | cons m ms ih =>
    rw [depthMembers] at hroom
    obtain ⟨v, hv, hvalue⟩ := value_draft r hfits.1 (by omega)
    obtain ⟨values, hvalues, hmore⟩ := ih hfits.2 (by omega)
    refine ⟨(m.1, v) :: values, by rw [List.map_cons, hv, hvalues, rereadMembers], ?_⟩
    rw [drafts, List.map_cons, List.mapM_cons, ← drafts, hmore]
    simp [hvalue, bind, Except.bind, pure, Except.pure]

/-- A printed object is decoded as a record that passes unknown members on: the record is put
together from its own members, and the others come back as values. -/
theorem openRecord_draft {α : Type} (title : String) {fields : List (String × Check)}
    (build : Parts → Json.Map → Except Fault α) {r inner : Reading}
    (henter : Draft.enter r = .ok inner) {own others : List (String × Json)}
    (hown : ∀ m ∈ own, Passes fields inner m)
    (hkeys : (keys own).Nodup) (hothers : ∀ m ∈ others, check? m.1 fields = none)
    (hfits : FitsMembers others) (hroom : depthMembers others ≤ inner.room) :
    ∃ extra : Json.Map, extra.entries = sort (rereadMembers others) ∧
      openRecord title fields build r (Json.object (own ++ others)).draft =
        build ⟨inner, drafts own, .missingField⟩ extra := by
  -- The fields of the record are collected first, and what no field claims is left over.
  have hcollect := collect_drafts fields (check json) inner own others [] [] hown hkeys
    fun m hm => by
      obtain ⟨hv, hd⟩ := fits_of_mem hfits hm
      exact ⟨hothers m hm, check_ok (json_draft inner hv (Nat.le_trans hd hroom))⟩
  obtain ⟨values, hvalues, hextra⟩ := mapM_drafts inner hfits hroom
  have hraise : Draft.raise none = .ok () := rfl
  refine ⟨.ofList values, by rw [Json.Map.entries_ofList, hvalues], ?_⟩
  simp only [bind, Except.bind] at hextra
  rw [Json.draft, openRecord]
  simp only [henter, hcollect, hraise, List.reverse_nil, List.nil_append, bind, Except.bind,
    hextra]

/-- A printed object is decoded as a record: the record is put together from its members. -/
theorem record_draft {α : Type} (title : String) {fields : List (String × Check)}
    (build : Parts → Except Fault α) {r inner : Reading} (henter : Draft.enter r = .ok inner)
    {own : List (String × Json)}
    (hown : ∀ m ∈ own, Passes fields inner m)
    (hkeys : (keys own).Nodup) :
    record title fields build r (Json.object own).draft =
      build ⟨inner, drafts own, .missingField⟩ := by
  have hcollect := collect_drafts fields (fun _ d => d.skip) inner own [] [] [] hown hkeys
    (fun m hm => absurd hm List.not_mem_nil)
  have hraise : Draft.raise none = .ok () := rfl
  rw [List.append_nil] at hcollect
  rw [Json.draft, record]
  simp only [henter, hcollect, hraise, List.reverse_nil, List.nil_append, bind, Except.bind]

end Decode
end TaskQueue
