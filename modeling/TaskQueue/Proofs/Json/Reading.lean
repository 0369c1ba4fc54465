import TaskQueue.Json.Decode
import TaskQueue.Proofs.Json.Floats
import TaskQueue.Proofs.Text.Utf8

/-!
# `TaskQueue.Proofs.Json.Reading`: the draft of a printed value

A printed value is read back as a draft without faults. `Json.draft` says which draft that is,
and `Draft.readValue_chars` that it is read, in front of any text that does not go on with a
number. The proof follows the printer: a value, the items of a list from the first on and from
any other on, and the members of an object in the same way. Three steps of fuel for each
character are enough. `Draft.value_draft` decodes that draft when there is room for its depth,
and `Json.parseBytes_encode` puts the two together for whole texts.

The values are those whose numbers fit (`Json.Fits`): integers of 64 bits, and binary64 numbers.
-/

set_option autoImplicit false

namespace TaskQueue

open Utf8 (Piece)
open Json

namespace Draft

/-! ## Strings -/

/-- A string that was read without a fault so far, its characters last first. -/
def Partial.clean (text : List Char) : Partial := ⟨.plain, text, none, false⟩

/-- A printed hexadecimal digit has its value. -/
theorem hexValue?_hexChar {n : Nat} (hn : n < 16) : hexValue? (hexChar n) = some n := by
  revert n
  decide

/-- A character that is written as it is, is read. -/
theorem scanString_plain {c : Char} (hquote : c ≠ '"') (hslash : c ≠ '\\') (hc : 32 ≤ c.toNat)
    (text : List Char) (rest : List Piece) :
    scanString (.clean text) (.char c :: rest) = scanString (.clean (c :: text)) rest := by
  have hlow : ¬ c.toNat < 32 := by omega
  simp only [scanString, step, Partial.clean, stepPlain, hquote, hslash, hlow, if_false,
    Partial.push]

/-- A control character is read from its number. -/
theorem scanString_control {c : Char} (hc : c.toNat < 32) (text : List Char)
    (rest : List Piece) :
    scanString (.clean text)
        (['\\', 'u', '0', '0', hexChar (c.toNat / 16), hexChar (c.toNat % 16)].map .char ++
          rest) =
      scanString (.clean (c :: text)) rest := by
  have hhigh := hexValue?_hexChar (n := c.toNat / 16) (by omega)
  have hlow := hexValue?_hexChar (n := c.toNat % 16) (by omega)
  have hzero : hexValue? '0' = some 0 := by decide
  have hsum : c.toNat / 16 * 16 + c.toNat % 16 = c.toNat := by omega
  -- A control character lies far below the surrogates, so the escape stands for it alone.
  have hpair : ¬ (0xDC00 ≤ c.toNat ∧ c.toNat ≤ 0xDFFF) := by omega
  have hlead : ¬ (0xD800 ≤ c.toNat ∧ c.toNat ≤ 0xDBFF) := by omega
  have hback : Char.ofNat c.toNat = c := Char.ofNat_toNat c
  simp [scanString, step, Partial.clean, stepPlain, stepEscape, hzero, hhigh, hlow, finishHex,
    hsum, hpair, hlead, hback, Partial.push]

/-- A character is read from its escape. -/
theorem scanString_escapeChar (c : Char) (text : List Char) (rest : List Piece) :
    scanString (.clean text) ((escapeChar c).map .char ++ rest) =
      scanString (.clean (c :: text)) rest := by
  have hchar : ∀ n, c.toNat = n → Char.ofNat n = c := fun n hn => hn ▸ Char.ofNat_toNat c
  -- Seven characters have an escape of their own, other controls have their number, and the rest
  -- stand as they are.
  unfold escapeChar
  split
  · rename_i h
    rw [h]
    rfl
  split
  · rename_i h
    rw [h]
    rfl
  split
  · rename_i h
    rw [← hchar 8 h]
    rfl
  split
  · rename_i h
    rw [← hchar 12 h]
    rfl
  split
  · rename_i h
    rw [h]
    rfl
  split
  · rename_i h
    rw [h]
    rfl
  split
  · rename_i h
    rw [h]
    rfl
  split
  · rename_i h
    exact scanString_control h text rest
  · rename_i hquote hslash _ _ _ _ _ hc
    exact scanString_plain hquote hslash (by omega) text rest

/-- A printed string is read back up to its closing quote. -/
theorem scanString_chars (cs text : List Char) (rest : List Piece) :
    scanString (.clean text) ((cs.flatMap escapeChar).map .char ++ .char '"' :: rest) =
      .ok (.ok (String.ofList (text.reverse ++ cs)), rest) := by
  -- The text that was read so far is held in reverse.
  induction cs generalizing text with
  | nil =>
    simp [scanString, step, Partial.clean, stepPlain, Partial.content]
  | cons c cs ih =>
    rw [List.flatMap_cons, List.map_append, List.append_assoc, scanString_escapeChar, ih]
    simp

/-- A printed string is read back. -/
theorem scanString_stringChars (s : String) (rest : List Piece) :
    scanString .start ((s.toList.flatMap escapeChar).map .char ++ .char '"' :: rest) =
      .ok (.ok s, rest) := by
  have h := scanString_chars s.toList [] rest
  rw [List.reverse_nil, List.nil_append, String.ofList_toList] at h
  exact h

end Draft

/-! ## What a printed value is read as -/

namespace Json

/-- A number of the format fits if it is finite within the bounds of binary64, or not finite. -/
def FloatFits : Double → Prop
  | .finite _ m e => m < 2 ^ 53 ∧ e ≤ Double.maxExponent
  | _ => True

mutual

/-- The numbers of the value are integers of 64 bits, signed or not, and binary64 numbers. -/
def Fits : Json → Prop
  | .int n => -(2 ^ 63 : Int) ≤ n ∧ n < 2 ^ 64
  | .float x => FloatFits x
  | .array items => FitsItems items
  | .object members => FitsMembers members
  | _ => True

/-- The numbers of all items fit. -/
def FitsItems : List Json → Prop
  | [] => True
  | x :: xs => Fits x ∧ FitsItems xs

/-- The numbers of all members fit. -/
def FitsMembers : List (String × Json) → Prop
  | [] => True
  | (_, x) :: xs => Fits x ∧ FitsMembers xs

end

/-- The draft of a printed number; what is not finite is printed as `null`. -/
def floatDraft : Double → Draft
  | .finite negative m e => .float (floatSpelling negative m e).numeral.double
  | _ => .null

mutual

/-- The draft that a printed value is read as. -/
def draft : Json → Draft
  | .null => .null
  | .bool b => .bool b
  | .int n => .int n
  | .float x => floatDraft x
  | .string s => .string (.ok s)
  | .array items => .array (draftItems items) none
  | .object members => .object (draftMembers members) none

/-- The drafts of printed items. -/
def draftItems : List Json → List Draft
  | [] => []
  | x :: xs => draft x :: draftItems xs

/-- The drafts of printed members. -/
def draftMembers : List (String × Json) → List (Except Fault String × Draft)
  | [] => []
  | (k, x) :: xs => (.ok k, draft x) :: draftMembers xs

end

/-- A spelled floating-point number is never taken as an integer. -/
theorem draft_floatSpelling (negative : Bool) (m : Nat) (e : Int) :
    (floatSpelling negative m e).numeral.draft =
      .float (floatSpelling negative m e).numeral.double := by
  -- A point or an exponent marks it, and each of the three spellings has one.
  have hpoint : ∀ s : Spelling, s.fraction ≠ none ∨ s.exponent ≠ none →
      s.numeral.draft = .float s.numeral.double := by
    rintro ⟨negative, whole, fraction, exponent⟩ h
    cases fraction <;> cases exponent <;>
      simp_all [Spelling.numeral, Draft.Numeral.draft]
  apply hpoint
  unfold floatSpelling positionalSpelling exponentialSpelling
  split
  · exact .inl (by simp)
  · dsimp only
    split
    · left
      split
      · simp
      · split <;> simp
    · exact .inr (by simp)

end Json

namespace Draft

/-! ## Values -/

/-- The first character of a printed value is no gap and closes no list. -/
def Opens (c : Char) : Prop := isGap (.char c) = false ∧ c ≠ ']'

/-- A digit opens a value. -/
theorem opens_of_isDigit {c : Char} (hc : c.isDigit = true) : Opens c := by
  have hrange := Char.isDigit_iff_toNat.1 hc
  have hne : ∀ d : Char, ¬ (48 ≤ d.toNat ∧ d.toNat ≤ 57) → c ≠ d := by
    rintro d hd rfl
    exact hd hrange
  refine ⟨?_, hne ']' (by decide)⟩
  simp [isGap, hne ' ' (by decide), hne '\n' (by decide), hne '\t' (by decide),
    hne '\r' (by decide)]

/-- A number begins with a sign or a digit. -/
theorem Opens.of_spelling {s : Spelling} (hs : s.Sound) :
    ∃ c cs, s.chars = c :: cs ∧ Opens c := by
  obtain ⟨d, ds, hwhole⟩ := List.exists_cons_of_ne_nil hs.nonempty
  have hdigit : d.isDigit = true := hs.whole d (by rw [hwhole]; exact List.mem_cons_self)
  unfold Spelling.chars
  split
  · exact ⟨'-', s.body, rfl, by decide, by decide⟩
  · have hbody : s.body = d :: (ds ++ (Spelling.fractionChars s.fraction ++
        Spelling.exponentChars s.exponent)) := by
      rw [Spelling.body, hwhole, List.cons_append]
    exact ⟨d, _, hbody, opens_of_isDigit hdigit⟩

/-- A printed value begins with a character that opens it. -/
theorem opens_chars {v : Json} (hv : v.Fits) : ∃ c cs, v.chars = c :: cs ∧ Opens c := by
  match v, hv with
  | .null, _ => exact ⟨_, _, rfl, by decide, by decide⟩
  | .bool true, _ => exact ⟨_, _, rfl, by decide, by decide⟩
  | .bool false, _ => exact ⟨_, _, rfl, by decide, by decide⟩
  | .int n, _ =>
    obtain ⟨c, cs, h, hc⟩ := Opens.of_spelling (intSpelling_sound n)
    exact ⟨c, cs, (intSpelling_chars n).symm.trans h, hc⟩
  | .float (.finite negative m e), hv =>
    obtain ⟨c, cs, h, hc⟩ := Opens.of_spelling (floatSpelling_sound negative hv.1 e)
    exact ⟨c, cs, (floatSpelling_chars negative m e).symm.trans h, hc⟩
  -- What is no number is written as null.
  | .float (.infinite _), _ => exact ⟨_, _, rfl, by decide, by decide⟩
  | .float .nan, _ => exact ⟨_, _, rfl, by decide, by decide⟩
  | .string s, _ => exact ⟨'"', _, rfl, by decide, by decide⟩
  | .array items, _ => exact ⟨'[', _, rfl, by decide, by decide⟩
  | .object members, _ => exact ⟨'{', _, rfl, by decide, by decide⟩

/-- A value takes one character at least to write. -/
theorem length_chars_pos {v : Json} (hv : v.Fits) : 0 < v.chars.length := by
  obtain ⟨c, cs, hchars, -⟩ := opens_chars hv
  rw [hchars]
  exact Nat.succ_pos _

/-- There is no gap to skip before a value. -/
theorem skipGaps_opens {c : Char} (hc : Opens c) (ps : List Piece) :
    skipGaps (.char c :: ps) = .char c :: ps := by
  rw [skipGaps, List.dropWhile_cons, if_neg (by rw [hc.1]; decide)]

/-- A spelled number is read as the draft of its numeral. -/
theorem readValue_spelling {s : Spelling} (hs : s.Sound) {rest : List Piece} (h : Stops rest)
    (fuel : Nat) :
    readValue (fuel + 1) (s.chars.map .char ++ rest) = (s.numeral.draft, some rest) := by
  have hscan := scanNumber_spelling hs h
  -- The reader chooses by the first character: a sign, or a digit, which is none of the other
  -- marks.
  cases hsign : s.negative with
  | true =>
    have hminus : Opens '-' := ⟨by decide, by decide⟩
    rw [hsign] at hscan
    rw [Spelling.chars, if_pos hsign, List.map_cons, List.cons_append, readValue,
      skipGaps_opens hminus]
    simp [hscan]
  | false =>
    obtain ⟨d, ds, hwhole⟩ := List.exists_cons_of_ne_nil hs.nonempty
    have hdigit : d.isDigit = true := hs.whole d (by rw [hwhole]; exact List.mem_cons_self)
    have hne : ∀ c : Char, c.isDigit = false → d ≠ c := by
      rintro c hc rfl
      rw [hdigit] at hc
      cases hc
    obtain ⟨cs, hbody⟩ : ∃ cs, s.body = d :: cs := by
      rw [Spelling.body, hwhole, List.cons_append]
      exact ⟨_, rfl⟩
    rw [hsign, hbody, List.map_cons, List.cons_append] at hscan
    rw [Spelling.chars, if_neg (by rw [hsign]; decide), hbody, List.map_cons, List.cons_append,
      readValue, skipGaps_opens (opens_of_isDigit hdigit)]
    simp [hscan, digit?_of_isDigit hdigit, hne 'n' rfl, hne 't' rfl, hne 'f' rfl, hne '"' rfl,
      hne '[' rfl, hne '{' rfl, hne '-' rfl]

/-- A printed floating-point number is read back. -/
theorem readValue_floatChars {x : Double} (hx : FloatFits x) {rest : List Piece} (h : Stops rest)
    (fuel : Nat) :
    readValue (fuel + 1) ((floatChars x).map .char ++ rest) = (floatDraft x, some rest) := by
  cases x with
  | finite negative m e =>
    have hread := readValue_spelling (floatSpelling_sound negative hx.1 e) h fuel
    rw [floatSpelling_chars, draft_floatSpelling] at hread
    exact hread
  | infinite negative => rfl
  | nan => rfl

/-- What follows an item or a member stops a number. -/
theorem stops_mark {c : Char} (hc : c = ',' ∨ c = ']' ∨ c = '}') (rest : List Piece) :
    Stops (.char c :: rest) := by
  rcases hc with rfl | rfl | rfl <;> exact ⟨by rintro p ⟨⟩; rfl, nofun, nofun, nofun⟩

/-- What follows an item ends a number. -/
theorem stops_moreItems (xs : List Json) (rest : List Piece) :
    Stops ((moreItemsChars xs).map .char ++ rest) := by
  cases xs with
  | nil => exact stops_mark (.inr (.inl rfl)) _
  | cons x xs => exact stops_mark (.inl rfl) _

/-- What follows a member ends a number. -/
theorem stops_moreMembers (ms : List (String × Json)) (rest : List Piece) :
    Stops ((moreMembersChars ms).map .char ++ rest) := by
  cases ms with
  | nil => exact stops_mark (.inr (.inr rfl)) _
  | cons m ms => exact stops_mark (.inl rfl) _

/-! ## Lists and objects, one part at a time -/

/-- Nothing is in the way of the first item. -/
theorem readItems_first {v : Json} (hv : v.Fits) (rest : List Piece) (fuel : Nat) :
    readItems (fuel + 1) true (v.chars.map .char ++ rest) =
      readItem fuel (v.chars.map .char ++ rest) := by
  obtain ⟨c, cs, hchars, hc⟩ := opens_chars hv
  rw [hchars, List.map_cons, List.cons_append, readItems, skipGaps_opens hc]
  -- The first character is neither a gap nor the end of the list.
  split
  · rename_i h
    cases h
  · rename_i h
    exact absurd (Piece.char.inj (List.cons.inj h).1) hc.2
  · rename_i h
    rw [if_pos rfl, h]

/-- A comma leads to the next item. -/
theorem readItems_comma {v : Json} (hv : v.Fits) (rest : List Piece) (fuel : Nat) :
    readItems (fuel + 1) false (.char ',' :: (v.chars.map .char ++ rest)) =
      readItem fuel (v.chars.map .char ++ rest) := by
  have hcomma : Opens ',' := ⟨by decide, by decide⟩
  obtain ⟨c, cs, hchars, hc⟩ := opens_chars hv
  rw [hchars, List.map_cons, List.cons_append, readItems, skipGaps_opens hcomma]
  simp [skipGaps_opens hc, hc.2]

/-- An item is its value and the items behind it. -/
theorem readItem_value {fuel : Nat} {ps rest : List Piece} {d : Draft} {more : List Draft × Tail}
    (hvalue : readValue fuel ps = (d, some rest)) (hmore : readItems fuel false rest = more) :
    readItem (fuel + 1) ps = (d :: more.1, more.2) := by
  rw [readItem, hvalue]
  simp only [hmore]

/-- A quote leads into the first member. -/
theorem readMembers_first (ps : List Piece) (fuel : Nat) :
    readMembers (fuel + 1) true (.char '"' :: ps) = readMember fuel ps := by
  rw [readMembers, skipGaps_opens ⟨by decide, by decide⟩]
  rfl

/-- A comma and a quote lead into the next member. -/
theorem readMembers_comma (ps : List Piece) (fuel : Nat) :
    readMembers (fuel + 1) false (.char ',' :: .char '"' :: ps) = readMember fuel ps := by
  have hquote : skipGaps (.char '"' :: ps) = .char '"' :: ps :=
    skipGaps_opens ⟨by decide, by decide⟩ ps
  rw [readMembers, skipGaps_opens ⟨by decide, by decide⟩]
  simp [hquote]

/-- A member is its key, its value and the members behind it. -/
theorem readMember_value (key : String) {fuel : Nat} {ps rest : List Piece} {d : Draft}
    {more : List (Except Fault String × Draft) × Tail}
    (hvalue : readValue fuel ps = (d, some rest)) (hmore : readMembers fuel false rest = more) :
    readMember (fuel + 1)
        ((key.toList.flatMap escapeChar).map .char ++ .char '"' :: .char ':' :: ps) =
      ((.ok key, d) :: more.1, more.2) := by
  have hcolon : skipGaps (.char ':' :: ps) = .char ':' :: ps :=
    skipGaps_opens ⟨by decide, by decide⟩ ps
  rw [readMember, scanString_stringChars]
  simp [hcolon, hvalue, hmore]

/-! ## Printed values are read back -/

mutual

/-- A printed value is read as its draft, and the reading goes on behind it. -/
theorem readValue_chars (v : Json) (hv : v.Fits) (rest : List Piece) (hrest : Stops rest)
    (fuel : Nat) (hfuel : 3 * v.chars.length ≤ fuel) :
    readValue fuel (v.chars.map .char ++ rest) = (v.draft, some rest) := by
  obtain ⟨fuel, rfl⟩ : ∃ n, fuel = n + 1 := by
    have hpos := length_chars_pos hv
    exact ⟨fuel - 1, by omega⟩
  -- A value takes one step, and the item or the member around it two, so three steps for each
  -- character suffice.
  match v, hv with
  | .null, _ => rfl
  | .bool true, _ => rfl
  | .bool false, _ => rfl
  | .int n, hv =>
    have hread := readValue_spelling (intSpelling_sound n) hrest fuel
    rw [intSpelling_chars, draft_intSpelling hv.1 hv.2] at hread
    exact hread
  | .float x, hv => exact readValue_floatChars hv hrest fuel
  | .string s, _ =>
    rw [Json.chars, stringChars, List.map_cons, List.map_append, List.cons_append,
      List.append_assoc, readValue, skipGaps_opens ⟨by decide, by decide⟩]
    have hscan := scanString_stringChars s rest
    simp only [List.map_cons, List.map_nil, List.cons_append, List.nil_append]
    rw [hscan]
    rfl
  | .array items, hv =>
    have hitems := readItems_chars items hv rest fuel
      (by simp only [Json.chars, List.length_cons] at hfuel; omega)
    rw [Json.chars, List.map_cons, List.cons_append, readValue,
      skipGaps_opens ⟨by decide, by decide⟩]
    simp [hitems, Tail.ending, Tail.rest, Json.draft]
  | .object members, hv =>
    have hmembers := readMembers_chars members hv rest fuel
      (by simp only [Json.chars, List.length_cons] at hfuel; omega)
    rw [Json.chars, List.map_cons, List.cons_append, readValue,
      skipGaps_opens ⟨by decide, by decide⟩]
    simp [hmembers, Tail.ending, Tail.rest, Json.draft]

/-- Printed items are read from the first on. -/
theorem readItems_chars (items : List Json) (hitems : FitsItems items) (rest : List Piece)
    (fuel : Nat) (hfuel : 3 * (itemsChars items).length ≤ fuel) :
    readItems fuel true ((itemsChars items).map .char ++ rest) =
      (draftItems items, .closed rest) := by
  match items, hitems with
  | [], _ =>
    obtain ⟨fuel, rfl⟩ : ∃ n, fuel = n + 1 := by
      simp only [itemsChars, List.length_cons] at hfuel
      exact ⟨fuel - 1, by omega⟩
    rfl
  | x :: xs, hitems =>
    simp only [itemsChars, List.length_append] at hfuel
    have hpos := length_chars_pos hitems.1
    -- The bracket at the end leaves enough fuel for the first item and the rest.
    have hclose : 0 < (moreItemsChars xs).length := by cases xs <;> simp [moreItemsChars]
    obtain ⟨fuel, rfl⟩ : ∃ n, fuel = n + 2 := ⟨fuel - 2, by omega⟩
    have hvalue := readValue_chars x hitems.1 _ (stops_moreItems xs rest) fuel (by omega)
    have hmore := readMoreItems_chars xs hitems.2 rest fuel (by omega)
    rw [itemsChars, List.map_append, List.append_assoc, readItems_first hitems.1,
      readItem_value hvalue hmore]
    rfl

/-- Printed items are read from any other item on. -/
theorem readMoreItems_chars (items : List Json) (hitems : FitsItems items) (rest : List Piece)
    (fuel : Nat) (hfuel : 3 * (moreItemsChars items).length ≤ fuel) :
    readItems fuel false ((moreItemsChars items).map .char ++ rest) =
      (draftItems items, .closed rest) := by
  match items, hitems with
  | [], _ =>
    obtain ⟨fuel, rfl⟩ : ∃ n, fuel = n + 1 := by
      simp only [moreItemsChars, List.length_cons] at hfuel
      exact ⟨fuel - 1, by omega⟩
    rfl
  | x :: xs, hitems =>
    simp only [moreItemsChars, List.length_cons, List.length_append] at hfuel
    -- One for the comma and one for the item; each character was given three.
    obtain ⟨fuel, rfl⟩ : ∃ n, fuel = n + 2 := ⟨fuel - 2, by omega⟩
    have hvalue := readValue_chars x hitems.1 _ (stops_moreItems xs rest) fuel (by omega)
    have hmore := readMoreItems_chars xs hitems.2 rest fuel (by omega)
    rw [moreItemsChars, List.map_cons, List.map_append, List.cons_append, List.append_assoc,
      readItems_comma hitems.1, readItem_value hvalue hmore]
    rfl

/-- Printed members are read from the first on. -/
theorem readMembers_chars (members : List (String × Json)) (hmembers : FitsMembers members)
    (rest : List Piece) (fuel : Nat) (hfuel : 3 * (membersChars members).length ≤ fuel) :
    readMembers fuel true ((membersChars members).map .char ++ rest) =
      (draftMembers members, .closed rest) := by
  match members, hmembers with
  | [], _ =>
    obtain ⟨fuel, rfl⟩ : ∃ n, fuel = n + 1 := by
      simp only [membersChars, List.length_cons] at hfuel
      exact ⟨fuel - 1, by omega⟩
    rfl
  | (k, x) :: ms, hmembers =>
    simp only [membersChars, stringChars, List.length_cons, List.length_append] at hfuel
    obtain ⟨fuel, rfl⟩ : ∃ n, fuel = n + 2 := ⟨fuel - 2, by omega⟩
    have hvalue := readValue_chars x hmembers.1 _ (stops_moreMembers ms rest) fuel (by omega)
    have hmore := readMoreMembers_chars ms hmembers.2 rest fuel (by omega)
    have hmember := readMember_value k hvalue hmore
    simp only [membersChars, stringChars, List.map_cons, List.map_append,
      List.cons_append, List.append_assoc, List.nil_append, readMembers_first]
    rw [hmember]
    rfl

/-- Printed members are read from any other member on. -/
theorem readMoreMembers_chars (members : List (String × Json)) (hmembers : FitsMembers members)
    (rest : List Piece) (fuel : Nat) (hfuel : 3 * (moreMembersChars members).length ≤ fuel) :
    readMembers fuel false ((moreMembersChars members).map .char ++ rest) =
      (draftMembers members, .closed rest) := by
  match members, hmembers with
  | [], _ =>
    obtain ⟨fuel, rfl⟩ : ∃ n, fuel = n + 1 := by
      simp only [moreMembersChars, List.length_cons] at hfuel
      exact ⟨fuel - 1, by omega⟩
    rfl
  | (k, x) :: ms, hmembers =>
    simp only [moreMembersChars, stringChars, List.length_cons, List.length_append] at hfuel
    obtain ⟨fuel, rfl⟩ : ∃ n, fuel = n + 2 := ⟨fuel - 2, by omega⟩
    have hvalue := readValue_chars x hmembers.1 _ (stops_moreMembers ms rest) fuel (by omega)
    have hmore := readMoreMembers_chars ms hmembers.2 rest fuel (by omega)
    have hmember := readMember_value k hvalue hmore
    simp only [moreMembersChars, stringChars, List.map_cons, List.map_append,
      List.cons_append, List.append_assoc, List.nil_append, readMembers_comma]
    rw [hmember]
    rfl

end

/-- The text of a value is read as its draft, with nothing behind it. -/
theorem ofPieces_chars {v : Json} (hv : v.Fits) :
    ofPieces (v.chars.map .char) = ⟨v.draft, false⟩ := by
  have hread := readValue_chars v hv [] ⟨nofun, nofun, nofun, nofun⟩
    (3 * (v.chars.map Piece.char).length + 1) (by rw [List.length_map]; omega)
  rw [List.append_nil] at hread
  rw [ofPieces, hread]
  rfl

end Draft

/-! ## What a printed value is decoded as -/

namespace Json

mutual

/-- How many lists and objects stand inside each other. -/
def depth : Json → Nat
  | .array items => depthItems items + 1
  | .object members => depthMembers members + 1
  | _ => 0

/-- The greatest depth of an item. -/
def depthItems : List Json → Nat
  | [] => 0
  | x :: xs => max (depth x) (depthItems xs)

/-- The greatest depth of a member. -/
def depthMembers : List (String × Json) → Nat
  | [] => 0
  | (_, x) :: xs => max (depth x) (depthMembers xs)

end

/-- A floating-point number as it comes back from its text. -/
def rereadFloat : Double → Json
  | .finite negative m e =>
    match (floatSpelling negative m e).numeral.double with
    | .ok x => ofDouble x
    | .error _ => .null
  | _ => .null

mutual

/-- A value as it comes back from its text: the members of objects are sorted by key, and
floating-point numbers are read again. -/
def reread : Json → Json
  | .float x => rereadFloat x
  | .array items => .array (rereadItems items)
  | .object members => .object (Members.sort (rereadMembers members))
  | v => v

/-- Items as they come back. -/
def rereadItems : List Json → List Json
  | [] => []
  | x :: xs => reread x :: rereadItems xs

/-- Members as they come back, before they are sorted. -/
def rereadMembers : List (String × Json) → List (String × Json)
  | [] => []
  | (k, x) :: xs => (k, reread x) :: rereadMembers xs

end

end Json

namespace Draft

/-- The draft of a printed number is a number, or `null`. -/
theorem value_floatDraft {x : Double} (hx : FloatFits x) (room : Nat) :
    value room (floatDraft x) = .ok (rereadFloat x) := by
  cases x with
  | finite negative m e =>
    obtain ⟨y, hy⟩ := floatSpelling_double negative hx.1 hx.2
    simp [floatDraft, value, rereadFloat, hy, Except.map]
  | infinite negative => simp [floatDraft, value, rereadFloat]
  | nan => simp [floatDraft, value, rereadFloat]

mutual

/-- A printed value that is not nested too deeply is decoded. -/
theorem value_draft (v : Json) (hv : v.Fits) (room : Nat) (hroom : v.depth ≤ room) :
    value room v.draft = .ok v.reread := by
  -- The room is a level less in each list and each object, as the depth is.
  match v, hv with
  | .null, _ => simp [Json.draft, value, reread]
  | .bool b, _ => simp [Json.draft, value, reread]
  | .int n, _ => simp [Json.draft, value, reread]
  | .float x, hv =>
    rw [Json.draft, reread]
    exact value_floatDraft hv room
  | .string s, _ => simp [Json.draft, value, reread, Except.map]
  | .array items, hv =>
    rw [depth] at hroom
    obtain ⟨room, rfl⟩ : ∃ n, room = n + 1 := ⟨room - 1, by omega⟩
    have hitems := valueItems_draft items hv room (by omega)
    simp [Json.draft, value, reread, hitems, raise, bind, Except.bind]
  | .object members, hv =>
    rw [depth] at hroom
    obtain ⟨room, rfl⟩ : ∃ n, room = n + 1 := ⟨room - 1, by omega⟩
    have hmembers := valueMembers_draft members hv room (by omega)
    simp [Json.draft, value, reread, hmembers, raise, bind, Except.bind]

/-- Printed items that are not nested too deeply are decoded. -/
theorem valueItems_draft (items : List Json) (hitems : FitsItems items) (room : Nat)
    (hroom : depthItems items ≤ room) :
    valueItems room (draftItems items) = .ok (rereadItems items) := by
  match items, hitems with
  | [], _ => simp [draftItems, valueItems, rereadItems]
  | x :: xs, hitems =>
    rw [depthItems] at hroom
    have hfirst := value_draft x hitems.1 room (by omega)
    have hmore := valueItems_draft xs hitems.2 room (by omega)
    simp [draftItems, valueItems, rereadItems, hfirst, hmore, bind, Except.bind]

/-- Printed members that are not nested too deeply are decoded. -/
theorem valueMembers_draft (members : List (String × Json)) (hmembers : FitsMembers members)
    (room : Nat) (hroom : depthMembers members ≤ room) :
    valueMembers room (draftMembers members) = .ok (rereadMembers members) := by
  match members, hmembers with
  | [], _ => simp [draftMembers, valueMembers, rereadMembers]
  | (k, x) :: ms, hmembers =>
    rw [depthMembers] at hroom
    have hfirst := value_draft x hmembers.1 room (by omega)
    have hmore := valueMembers_draft ms hmembers.2 room (by omega)
    simp [draftMembers, valueMembers, rereadMembers, hfirst, hmore, bind, Except.bind]

end

end Draft

/-- A decoder of the bytes of a text walks the draft of the value that was written. -/
theorem Decode.bytes_encode {α : Type} (decode : Decoder α) {v : Json} (hv : v.Fits) :
    Decode.bytes decode (Utf8.encode v.text) = decode .json v.draft := by
  rw [Decode.bytes, Utf8.pieces_encode, Json.text, String.toList_ofList,
    Draft.ofPieces_chars hv, Decode.document]
  cases decode .json v.draft <;> rfl

/-- A decoder of a text walks the draft of the value that was written. -/
theorem Decode.string_text {α : Type} (decode : Decoder α) {v : Json} (hv : v.Fits) :
    Decode.string decode v.text = decode .json v.draft := by
  rw [Decode.string, Json.text, String.toList_ofList, Draft.ofPieces_chars hv, Decode.document]
  cases decode .json v.draft <;> rfl

/-- A value of at most 127 levels comes back from the bytes of its text. -/
theorem Json.parseBytes_encode {v : Json} (hv : v.Fits) (hdepth : v.depth ≤ 127) :
    Json.parseBytes (Utf8.encode v.text) = .ok v.reread := by
  rw [Json.parseBytes, Decode.bytes_encode _ hv]
  exact Draft.value_draft v hv 127 hdepth

/-- It comes back from its text. -/
theorem Json.parse_text {v : Json} (hv : v.Fits) (hdepth : v.depth ≤ 127) :
    Json.parse v.text = .ok v.reread := by
  rw [Json.parse, Decode.string_text _ hv]
  exact Draft.value_draft v hv 127 hdepth

end TaskQueue
