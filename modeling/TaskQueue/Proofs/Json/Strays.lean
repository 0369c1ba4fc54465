import TaskQueue.Proofs.Json.Decoded

/-!
# `TaskQueue.Proofs.Json.Strays`: what has a value is text

Bytes that are no text are kept as strays when a document is read, and whether one of them matters
is up to the decoder. Who wants the value of a document wants all of it, so no stray stays
unnoticed: `Json.parseBytes_text` says that bytes with a value are the UTF-8 form of a text.

The reading passes over the pieces from the front to a rest. `Draft.Clear` says that there was no
stray between the two. The parts of a document come first, a string among them with its content;
then `Draft.readValue_clear` and its companions follow the mutual recursion of the reader.

Some decoders of fields want the whole value too (`Decode.Strict`). What such fields make up and
further members, all of which are kept, can only be read from an object (`Decode.openRecord_value`).
-/

set_option autoImplicit false

namespace TaskQueue

namespace Utf8

/-- Pieces without a stray are the characters that they give. -/
theorem eq_of_chars? {ps : List Piece} {cs : List Char} (h : chars? ps = some cs) :
    ps = cs.map .char := by
  induction ps generalizing cs with
  | nil =>
    cases h
    rfl
  | cons p ps ih =>
    cases p with
    | stray bs => cases h
    | char c =>
      rw [chars?] at h
      obtain ⟨ds, hds, rfl⟩ := Option.map_eq_some_iff.1 h
      rw [List.map_cons, ← ih hds]

/-- Pieces that are all characters have those characters. -/
theorem chars?_map (cs : List Char) : chars? (cs.map .char) = some cs := by
  induction cs with
  | nil => rfl
  | cons c cs ih => rw [List.map_cons, chars?, ih, Option.map_some]

/-- Bytes are a text exactly if they are read as its characters. -/
theorem decode?_eq_some_iff {bs : Bytes} {s : String} :
    decode? bs = some s ↔ pieces bs = s.toList.map .char := by
  rw [decode?]
  constructor
  · intro h
    obtain ⟨cs, hcs, rfl⟩ := Option.map_eq_some_iff.1 h
    rw [String.toList_ofList]
    exact eq_of_chars? hcs
  · intro h
    rw [h, chars?_map, Option.map_some, String.ofList_toList]

end Utf8

namespace Draft

open Utf8 (Piece)

/-- There is no stray from the front of the pieces to the rest. -/
def Clear (ps rest : List Piece) : Prop := ∃ cs : List Char, ps = cs.map .char ++ rest

namespace Clear

/-- Where nothing was read, nothing was passed. -/
theorem refl (ps : List Piece) : Clear ps ps := ⟨[], rfl⟩

/-- What two steps passed, both together passed. -/
theorem trans {ps qs rs : List Piece} (h : Clear ps qs) (h' : Clear qs rs) : Clear ps rs := by
  obtain ⟨cs, rfl⟩ := h
  obtain ⟨ds, rfl⟩ := h'
  exact ⟨cs ++ ds, by rw [List.map_append, List.append_assoc]⟩

/-- One character more was passed. -/
theorem cons (c : Char) {ps rest : List Piece} (h : Clear ps rest) :
    Clear (.char c :: ps) rest := by
  obtain ⟨cs, rfl⟩ := h
  exact ⟨c :: cs, rfl⟩

end Clear

/-! ## Blanks, words and numbers -/

/-- Gaps are made of characters. -/
theorem skipGaps_clear (ps : List Piece) : Clear ps (skipGaps ps) := by
  induction ps with
  | nil => exact .refl []
  | cons p ps ih =>
    rw [skipGaps, List.dropWhile_cons]
    split
    · cases p with
      | char c => exact .cons c ih
      | stray bs => contradiction
    · exact .refl _

/-- So is a word that was read. -/
theorem scanWord_clear {cs : List Char} {ps rest : List Piece} (h : scanWord cs ps = .ok rest) :
    Clear ps rest := by
  induction cs generalizing ps with
  | nil =>
    cases h
    exact .refl _
  | cons c cs ih =>
    cases ps with
    | nil => cases h
    | cons p ps =>
      rw [scanWord] at h
      -- The word is compared piece by piece, and only a character can agree.
      split at h
      · rename_i hp
        rw [hp]
        exact .cons c (ih h)
      · cases h

/-- So are the digits that were taken. -/
theorem takeDigits_clear {ps rest : List Piece} {ds : List Nat}
    (h : takeDigits ps = (ds, rest)) : Clear ps rest := by
  induction ps generalizing ds with
  | nil =>
    cases h
    exact .refl []
  | cons p ps ih =>
    rw [takeDigits] at h
    split at h
    · cases p with
      | char c =>
        cases h
        exact .cons c (ih rfl)
      | stray bs => contradiction
    · cases h
      exact .refl _

/-- So is a fraction. -/
theorem scanFraction_clear {ps rest : List Piece} {ds : Option (List Nat)}
    (h : scanFraction ps = .ok (ds, rest)) : Clear ps rest := by
  unfold scanFraction at h
  split at h
  · split at h
    · cases h
    · rename_i htake
      cases h
      exact .cons '.' (takeDigits_clear htake)
  · cases h
    exact .refl _

/-- So is an exponent. -/
theorem scanExponent_clear {ps rest : List Piece} {e : Option (Bool × List Nat)}
    (h : scanExponent ps = .ok (e, rest)) : Clear ps rest := by
  unfold scanExponent at h
  split at h
  · rename_i c qs
    split at h
    · dsimp only at h
      split at h
      · cases h
      · rename_i htake
        cases h
        refine .cons c (.trans ?_ (takeDigits_clear htake))
        -- The sign is a character too, if there is one.
        split
        · exact .cons _ (.refl _)
        · exact .cons _ (.refl _)
        · exact .refl _
    · cases h
      exact .refl _
  · cases h
    exact .refl _

/-- So is a number. -/
theorem scanNumber_clear {negative : Bool} {ps rest : List Piece} {n : Numeral}
    (h : scanNumber negative ps = .ok (n, rest)) : Clear ps rest := by
  unfold scanNumber at h
  split at h
  · cases h
  · cases h
  · rename_i htake
    obtain ⟨⟨fraction, r₁⟩, hfraction, h⟩ := Except.bind_ok h
    obtain ⟨⟨exponent, r₂⟩, hexponent, h⟩ := Except.bind_ok h
    cases h
    exact (takeDigits_clear htake).trans
      ((scanFraction_clear hfraction).trans (scanExponent_clear hexponent))

/-! ## Strings -/

/-- What one more piece of a string comes to without a stray: the piece is a character, and no
stray was met before. -/
def Unspoilt (s : Partial) (p : Piece) : Step → Prop
  | .more s' | .closed s' => s'.stray = false → s.stray = false ∧ ∃ c, p = .char c
  | .stop _ => True

/-- Outside of an escape, a piece spoils a string only by being no character. -/
theorem stepPlain_unspoilt (s : Partial) (p : Piece) : Unspoilt s p (stepPlain s p) := by
  cases p with
  | stray bs => exact fun h => nomatch h
  | char c =>
    unfold stepPlain
    dsimp only
    split
    · exact fun h => ⟨h, c, rfl⟩
    split
    · exact fun h => ⟨h, c, rfl⟩
    split
    · trivial
    · exact fun h => ⟨h, c, rfl⟩

/-- The same inside of an escape. -/
theorem stepEscape_unspoilt (s : Partial) (p : Piece) : Unspoilt s p (stepEscape s p) := by
  cases p with
  | stray bs => trivial
  | char c =>
    unfold stepEscape
    dsimp only
    -- Seven escapes have a meaning.
    iterate 7
      split
      · exact fun h => ⟨h, c, rfl⟩
    trivial

/-- The end of a hexadecimal escape does not change whether a stray byte was met. -/
theorem finishHex_stray (s : Partial) (lead : Option Nat) (n : Nat) :
    (finishHex s lead n).stray = s.stray := by
  unfold finishHex
  cases lead with
  | none =>
    dsimp only
    split
    · rfl
    · split <;> rfl
  | some m =>
    dsimp only
    split <;> rfl

/-- Whatever the state of the reader, a piece spoils a string only by being no character. -/
theorem step_unspoilt (s : Partial) (p : Piece) (rest : List Piece) :
    Unspoilt s p (step s p rest) := by
  unfold step
  split
  -- The cases are the modes of the reader: plain, after a backslash, in a hexadecimal escape, and
  -- between the halves of a surrogate pair.
  · exact stepPlain_unspoilt s p
  · exact stepEscape_unspoilt s p
  · cases p with
    | stray bs => trivial
    | char c =>
      dsimp only
      split
      · split
        · exact fun h => ⟨(finishHex_stray _ _ _).symm.trans h, c, rfl⟩
        · exact fun h => ⟨h, c, rfl⟩
      · trivial
  · rename_i n _
    split
    · rename_i hp
      exact fun h => ⟨h, _, hp⟩
    · exact stepPlain_unspoilt ({ s with mode := .plain }.note .unfinishedHexEscape) p
  · split
    · rename_i hp
      exact fun h => ⟨h, _, hp⟩
    · exact stepEscape_unspoilt ({ s with mode := .escape }.note .unfinishedHexEscape) p

/-- Only a string without a stray has a content. -/
theorem content_ok {s : Partial} {t : String} (h : s.content = .ok t) : s.stray = false := by
  unfold Partial.content at h
  split at h
  · cases h
  · split at h
    · cases h
    · exact Bool.eq_false_iff.2 ‹_›

/-- A string with a content has no stray in it. -/
theorem scanString_clear {s : Partial} {ps rest : List Piece} {t : String}
    (h : scanString s ps = .ok (.ok t, rest)) : s.stray = false ∧ Clear ps rest := by
  induction ps generalizing s with
  | nil => cases h
  | cons p ps ih =>
    -- Induction on the pieces: at the end there was no stray, so there was none before the last one
    -- either.
    have hstep := step_unspoilt s p ps
    rw [scanString] at h
    split at h
    · rename_i s' hmore
      rw [hmore] at hstep
      obtain ⟨hs', hclear⟩ := ih h
      obtain ⟨hs, c, rfl⟩ := hstep hs'
      exact ⟨hs, .cons c hclear⟩
    · rename_i s' hclosed
      rw [hclosed] at hstep
      obtain ⟨hcontent, rfl⟩ := Prod.mk.inj (Except.ok.inj h)
      obtain ⟨hs, c, rfl⟩ := hstep (content_ok hcontent)
      exact ⟨hs, .cons c (.refl _)⟩
    · cases h

/-! ## Values -/

/-- An array that has a value was closed, or its last item was broken, and its items have values. -/
theorem value_array {items : List Draft} {ending : Option Break} {room : Nat} {v : Json}
    (h : (Draft.array items ending).value room = .ok v) :
    ∃ room' xs, valueItems room' items = .ok xs ∧ raise ending = .ok () := by
  cases room with
  | zero => cases h
  | succ room =>
    rw [value] at h
    obtain ⟨xs, hxs, h⟩ := Except.bind_ok h
    obtain ⟨⟨⟩, hraise, -⟩ := Except.bind_ok h
    exact ⟨room, xs, hxs, hraise⟩

/-- An object has a value only if its members have and it was closed. -/
theorem value_object {members : List (Except Fault String × Draft)} {ending : Option Break}
    {room : Nat} {v : Json} (h : (Draft.object members ending).value room = .ok v) :
    ∃ room' ms, valueMembers room' members = .ok ms ∧ raise ending = .ok () := by
  cases room with
  | zero => cases h
  | succ room =>
    rw [value] at h
    obtain ⟨ms, hms, h⟩ := Except.bind_ok h
    obtain ⟨⟨⟩, hraise, -⟩ := Except.bind_ok h
    exact ⟨room, ms, hms, hraise⟩

/-- Items have values only if the first has and the rest have. -/
theorem valueItems_cons {d : Draft} {ds : List Draft} {room : Nat} {xs : List Json}
    (h : valueItems room (d :: ds) = .ok xs) :
    ∃ x xs', d.value room = .ok x ∧ valueItems room ds = .ok xs' := by
  rw [valueItems] at h
  obtain ⟨x, hx, h⟩ := Except.bind_ok h
  obtain ⟨xs', hxs, -⟩ := Except.bind_ok h
  exact ⟨x, xs', hx, hxs⟩

/-- Members have values only if the first has a key and a value and the rest have. -/
theorem valueMembers_cons {key : Except Fault String} {d : Draft}
    {members : List (Except Fault String × Draft)} {room : Nat} {ms : List (String × Json)}
    (h : valueMembers room ((key, d) :: members) = .ok ms) :
    ∃ k x ms', key = .ok k ∧ d.value room = .ok x ∧ valueMembers room members = .ok ms' := by
  rw [valueMembers] at h
  obtain ⟨k, hk, h⟩ := Except.bind_ok h
  obtain ⟨x, hx, h⟩ := Except.bind_ok h
  obtain ⟨ms', hms, -⟩ := Except.bind_ok h
  exact ⟨k, x, ms', hk, hx, hms⟩

mutual

/-- A draft that has a value was read without a stray, and the reading could go on behind it. -/
theorem readValue_clear (fuel : Nat) {ps : List Piece} {d : Draft} {rest? : Option (List Piece)}
    (h : readValue fuel ps = (d, rest?)) {room : Nat} {v : Json} (hv : d.value room = .ok v) :
    ∃ rest, rest? = some rest ∧ Clear ps rest := by
  match fuel with
  | 0 =>
    cases h
    cases hv
  | fuel + 1 =>
    have hgaps := skipGaps_clear ps
    rw [readValue] at h
    split at h
    · cases h
      cases hv
    · cases h
      cases hv
    · rename_i c rest hps
      rw [hps] at hgaps
      -- The three words.
      iterate 3
        split at h
        · split at h
          · rename_i hword
            cases h
            exact ⟨_, rfl, hgaps.trans (.cons c (scanWord_clear hword))⟩
          · cases h
            cases hv
      split at h
      · split at h
        · rename_i s r hstring
          cases h
          cases s with
          | error f => cases hv
          | ok t => exact ⟨_, rfl, hgaps.trans (.cons c (scanString_clear hstring).2)⟩
        · cases h
          cases hv
      split at h
      · rcases hitems : readItems fuel true rest with ⟨items, tail⟩
        rw [hitems] at h
        cases h
        obtain ⟨room, xs, hxs, hraise⟩ := value_array hv
        obtain ⟨r, rfl, hclear⟩ := readItems_clear fuel hitems hxs hraise
        exact ⟨r, rfl, hgaps.trans (.cons c hclear)⟩
      split at h
      · rcases hmembers : readMembers fuel true rest with ⟨members, tail⟩
        rw [hmembers] at h
        cases h
        obtain ⟨room, ms, hms, hraise⟩ := value_object hv
        obtain ⟨r, rfl, hclear⟩ := readMembers_clear fuel hmembers hms hraise
        exact ⟨r, rfl, hgaps.trans (.cons c hclear)⟩
      split at h
      · split at h
        · rename_i hnumber
          cases h
          exact ⟨_, rfl, hgaps.trans (.cons c (scanNumber_clear hnumber))⟩
        · cases h
          cases hv
      split at h
      · split at h
        · rename_i hnumber
          cases h
          exact ⟨_, rfl, hgaps.trans (scanNumber_clear hnumber)⟩
        · cases h
          cases hv
      · cases h
        cases hv

/-- So was a list of items that have values, up to its closing bracket. -/
theorem readItems_clear (fuel : Nat) {first : Bool} {ps : List Piece} {items : List Draft}
    {tail : Tail} (h : readItems fuel first ps = (items, tail)) {room : Nat} {xs : List Json}
    (hv : valueItems room items = .ok xs) (hend : raise tail.ending = .ok ()) :
    ∃ rest, tail = .closed rest ∧ Clear ps rest := by
  match fuel with
  -- Wherever the reading stopped, its ending says so, and `hend` excludes that.
  | 0 =>
    cases h
    cases hend
  | fuel + 1 =>
    have hgaps := skipGaps_clear ps
    rw [readItems] at h
    split at h
    · cases h
      cases hend
    · rename_i hps
      rw [hps] at hgaps
      cases h
      exact ⟨_, rfl, hgaps.trans (.cons _ (.refl _))⟩
    · rename_i p rest _ hps
      rw [hps] at hgaps
      split at h
      -- The first item needs no comma before it.
      · obtain ⟨r, hr, hclear⟩ := readItem_clear fuel h hv hend
        exact ⟨r, hr, hgaps.trans hclear⟩
      split at h
      · rename_i hcomma
        have hmore := skipGaps_clear rest
        split at h
        · cases h
          cases hend
        · cases h
          cases hend
        · rename_i hrest
          rw [hrest] at hmore
          obtain ⟨r, hr, hclear⟩ := readItem_clear fuel h hv hend
          rw [hcomma] at hgaps
          exact ⟨r, hr, hgaps.trans (.cons _ (hmore.trans hclear))⟩
      · cases h
        cases hend

/-- The items of an array are read through characters only, if the array has a value. -/
theorem readItem_clear (fuel : Nat) {ps : List Piece} {items : List Draft}
    {tail : Tail} (h : readItem fuel ps = (items, tail)) {room : Nat} {xs : List Json}
    (hv : valueItems room items = .ok xs) (hend : raise tail.ending = .ok ()) :
    ∃ rest, tail = .closed rest ∧ Clear ps rest := by
  match fuel with
  | 0 =>
    cases h
    cases hend
  | fuel + 1 =>
    rw [readItem] at h
    split at h
    · rename_i d hread
      cases h
      -- An item behind which the reading did not go on has no value.
      obtain ⟨x, xs', hx, -⟩ := valueItems_cons hv
      obtain ⟨r, hr, -⟩ := readValue_clear fuel hread hx
      cases hr
    · rename_i d rest hread
      rcases hitems : readItems fuel false rest with ⟨ds, tail'⟩
      rw [hitems] at h
      cases h
      obtain ⟨x, xs', hx, hxs⟩ := valueItems_cons hv
      obtain ⟨r, hr, hitem⟩ := readValue_clear fuel hread hx
      cases hr
      obtain ⟨r, hr, hclear⟩ := readItems_clear fuel hitems hxs hend
      exact ⟨r, hr, hitem.trans hclear⟩

/-- And so was a list of members that have values, up to its closing brace. -/
theorem readMembers_clear (fuel : Nat) {first : Bool} {ps : List Piece}
    {members : List (Except Fault String × Draft)} {tail : Tail}
    (h : readMembers fuel first ps = (members, tail)) {room : Nat} {ms : List (String × Json)}
    (hv : valueMembers room members = .ok ms) (hend : raise tail.ending = .ok ()) :
    ∃ rest, tail = .closed rest ∧ Clear ps rest := by
  match fuel with
  | 0 =>
    cases h
    cases hend
  | fuel + 1 =>
    have hgaps := skipGaps_clear ps
    rw [readMembers] at h
    split at h
    · cases h
      cases hend
    · rename_i hps
      rw [hps] at hgaps
      cases h
      exact ⟨_, rfl, hgaps.trans (.cons _ (.refl _))⟩
    · rename_i p rest _ hps
      rw [hps] at hgaps
      split at h
      · split at h
        · rename_i hquote
          -- Behind the quotation mark there is the key of the first member.
          rw [hquote] at hgaps
          obtain ⟨r, hr, hclear⟩ := readMember_clear fuel h hv hend
          exact ⟨r, hr, hgaps.trans (.cons _ hclear)⟩
        · cases h
          cases hend
      split at h
      · rename_i hcomma
        have hmore := skipGaps_clear rest
        rw [hcomma] at hgaps
        split at h
        · cases h
          cases hend
        · rename_i hrest
          rw [hrest] at hmore
          obtain ⟨r, hr, hclear⟩ := readMember_clear fuel h hv hend
          exact ⟨r, hr, hgaps.trans (.cons _ (hmore.trans (.cons _ hclear)))⟩
        · cases h
          cases hend
        · cases h
          cases hend
      · cases h
        cases hend

/-- So are the members of an object. -/
theorem readMember_clear (fuel : Nat) {ps : List Piece}
    {members : List (Except Fault String × Draft)} {tail : Tail}
    (h : readMember fuel ps = (members, tail)) {room : Nat} {ms : List (String × Json)}
    (hv : valueMembers room members = .ok ms) (hend : raise tail.ending = .ok ()) :
    ∃ rest, tail = .closed rest ∧ Clear ps rest := by
  match fuel with
  | 0 =>
    cases h
    cases hend
  | fuel + 1 =>
    rw [readMember] at h
    split at h
    · cases h
      cases hend
    · rename_i key rest hkey
      -- A member is a key, a colon behind some gaps, and a value.
      have hgaps := skipGaps_clear rest
      split at h
      · cases h
        -- A key behind which nothing follows is drafted without a value.
        obtain ⟨k, x, ms', -, hx, -⟩ := valueMembers_cons hv
        cases hx
      · rename_i p r hrest
        rw [hrest] at hgaps
        split at h
        · rename_i hcolon
          rw [hcolon] at hgaps
          split at h
          · rename_i d hread
            cases h
            obtain ⟨k, x, ms', -, hx, -⟩ := valueMembers_cons hv
            obtain ⟨r', hr', -⟩ := readValue_clear fuel hread hx
            cases hr'
          · rename_i d r' hread
            rcases hmembers : readMembers fuel false r' with ⟨ds, tail'⟩
            rw [hmembers] at h
            cases h
            obtain ⟨k, x, ms', rfl, hx, hms⟩ := valueMembers_cons hv
            obtain ⟨r'', hr'', hvalue⟩ := readValue_clear fuel hread hx
            cases hr''
            obtain ⟨r'', hr'', hclear⟩ := readMembers_clear fuel hmembers hms hend
            exact ⟨r'', hr'', (scanString_clear hkey).2.trans
              (hgaps.trans (.cons _ (hvalue.trans hclear)))⟩
        · cases h
          obtain ⟨k, x, ms', -, hx, -⟩ := valueMembers_cons hv
          cases hx

end

/-- A document that has a value, with nothing behind it, has no stray at all. -/
theorem ofPieces_clear {ps : List Piece} {room : Nat} {v : Json}
    (hv : (ofPieces ps).root.value room = .ok v) (htrailing : (ofPieces ps).trailing = false) :
    ∃ cs : List Char, ps = cs.map .char := by
  unfold ofPieces at hv htrailing
  split at hv
  · rename_i hread
    obtain ⟨rest, hrest, -⟩ := readValue_clear _ hread hv
    cases hrest
  · rename_i d rest hread
    rw [hread] at htrailing
    obtain ⟨rest', hrest', hclear⟩ := readValue_clear _ hread hv
    cases hrest'
    -- Behind the value only gaps are left, for nothing trails.
    have hgaps := skipGaps_clear rest
    rw [List.isEmpty_iff.1 (Bool.not_eq_eq_eq_not.1 htrailing)] at hgaps
    obtain ⟨cs, hcs⟩ := hclear.trans hgaps
    exact ⟨cs, by rw [hcs, List.append_nil]⟩

end Draft

/-! ## Documents -/

namespace Decode

/-- A document is decoded if its root is, and nothing follows. -/
theorem document_ok {α : Type} {decode : Decoder α} {doc : Draft.Document} {a : α} :
    document decode doc = .ok a ↔ decode .json doc.root = .ok a ∧ doc.trailing = false := by
  unfold document
  constructor
  · intro h
    obtain ⟨x, hx, h⟩ := Except.bind_ok h
    split at h
    · cases h
    · rename_i htrailing
      cases h
      exact ⟨hx, Bool.eq_false_iff.2 htrailing⟩
  · rintro ⟨hroot, htrailing⟩
    rw [hroot, htrailing]
    rfl

/-- The bytes of a text are decoded like the text. -/
theorem bytes_of_text {α : Type} (decode : Decoder α) {bs : Bytes} {s : String}
    (h : Utf8.decode? bs = some s) : bytes decode bs = string decode s := by
  rw [bytes, Utf8.decode?_eq_some_iff.1 h, string]

/-! ### Decoders that want the whole value -/

/-- What passes the check has a value. -/
def Strict (c : Check) : Prop := ∀ r d, c r d = .ok () → ∃ v, d.value r.room = .ok v

/-- The decoder of any value at all looks at the value. -/
theorem strict_json : Strict (check json) := by
  intro r d h
  rw [check] at h
  cases hv : json r d with
  | error f =>
    rw [hv] at h
    cases h
  | ok v => exact ⟨v, hv⟩

/-- So does the decoder of texts. -/
theorem strict_text : Strict (check text) := by
  intro r d h
  cases d with
  | string s =>
    cases s with
    | error f => cases h
    | ok s => exact ⟨_, rfl⟩
  | _ =>
    rw [check] at h
    cases hv : text r _ with
    | error f =>
      rw [hv] at h
      cases h
    | ok s => exact absurd hv (unwanted_ne_ok s)

/-- An optional field is looked at if a present one is. -/
theorem Strict.optional {α : Type} {decode : Decoder α} (h : Strict (check decode)) :
    Strict (check (optional decode)) := by
  intro r d hd
  cases d with
  -- A null is a value, though the decoder below it is never asked.
  | null => exact ⟨_, rfl⟩
  | _ =>
    refine h r _ ?_
    rw [check] at hd ⊢
    rw [Decode.optional] at hd
    · cases hv : decode r _ with
      | error f =>
        rw [hv] at hd
        cases hd
      | ok a => rfl
    · intro hnull
      cases hnull

/-- The check that belongs to a key is one of the checks. -/
theorem mem_of_check? {key : String} {fields : List (String × Check)} {c : Check}
    (h : check? key fields = some c) : ∃ f ∈ fields, f.2 = c := by
  induction fields with
  | nil => cases h
  | cons f fields ih =>
    rw [check?] at h
    split at h
    · exact ⟨f, List.mem_cons_self, Option.some.inj h⟩
    · obtain ⟨g, hg, hc⟩ := ih h
      exact ⟨g, List.mem_cons_of_mem _ hg, hc⟩

section
variable {fields : List (String × Check)} (hfields : ∀ f ∈ fields, Strict f.2)
include hfields

/-- Members that are gone through with strict checks have values. -/
theorem collect_value {other : Check} (hother : Strict other) {r : Reading}
    (members : List (Except Fault String × Draft)) {slots : Slots}
    {unknown : List (String × Draft)} {found : Slots × List (String × Draft)}
    (h : collect fields other r slots unknown members = .ok found) :
    ∃ ms, Draft.valueMembers r.room members = .ok ms := by
  induction members generalizing slots unknown with
  | nil => exact ⟨[], rfl⟩
  | cons m rest ih =>
    obtain ⟨key, d⟩ := m
    rw [collect] at h
    obtain ⟨k, hk, h⟩ := Except.bind_ok h
    -- A strict check accepts only what has a value, be the key known or not.
    have hmember : (∃ x, d.value r.room = .ok x) ∧
        ∃ ms, Draft.valueMembers r.room rest = .ok ms := by
      split at h
      · rename_i c hc
        obtain ⟨f, hf, rfl⟩ := mem_of_check? hc
        split at h
        · cases h
        · obtain ⟨⟨⟩, hcheck, h⟩ := Except.bind_ok h
          exact ⟨hfields f hf r d hcheck, ih h⟩
      · obtain ⟨⟨⟩, hcheck, h⟩ := Except.bind_ok h
        exact ⟨hother r d hcheck, ih h⟩
    obtain ⟨⟨x, hx⟩, ms, hms⟩ := hmember
    refine ⟨(k, x) :: ms, ?_⟩
    rw [Draft.valueMembers, hk, hx, hms]
    rfl

/-- What is taken for a record that passes members on is an object, if its fields are strict. -/
theorem openRecord_value {α : Type} {title : String}
    {build : Parts → Json.Map → Except Fault α} {r : Reading} {d : Draft} {a : α}
    (h : openRecord title fields build r d = .ok a) :
    ∃ ms, d.value r.room = .ok (.object ms) := by
  unfold openRecord at h
  split at h
  -- The record was read to its end, so all its members were, and the object was closed.
  · rename_i members ending
    obtain ⟨inner, henter, h⟩ := Except.bind_ok h
    obtain ⟨found, hcollect, h⟩ := Except.bind_ok h
    obtain ⟨⟨⟩, hraise, -⟩ := Except.bind_ok h
    obtain ⟨ms, hms⟩ := collect_value hfields strict_json members hcollect
    unfold Draft.enter at henter
    split at henter
    · cases henter
    · rename_i room hroom
      cases henter
      refine ⟨Members.sort ms, ?_⟩
      rw [hroom, Draft.value, hms, hraise]
      rfl
  · exact absurd h (unwanted_ne_ok a)

end

end Decode

/-- Bytes that have a value are a text. -/
theorem Json.parseBytes_text {bs : Bytes} {v : Json} (h : Json.parseBytes bs = .ok v) :
    ∃ s, Utf8.decode? bs = some s := by
  obtain ⟨hroot, htrailing⟩ := Decode.document_ok.1 h
  obtain ⟨cs, hcs⟩ := Draft.ofPieces_clear hroot htrailing
  exact ⟨String.ofList cs, Utf8.decode?_eq_some_iff.2 (by rw [hcs, String.toList_ofList])⟩

end TaskQueue
