import Mathlib.Data.List.Nodup
import Mathlib.Data.List.Perm.Subperm
import TaskQueue.Proofs.Task.RoundTrip

/-!
# `TaskQueue.Proofs.Task.Arguments`: which objects are lists in disguise

An object is taken for positional arguments if its keys are the indices of a list. To find out, the
indices below the number of members are looked up one by one, and it is enough that each of them is
there. `Arguments.IsIndexed` asks for more: that the keys are these indices and nothing else. The
two are the same (`Arguments.isIndexed_iff`), because different indices have different texts, so
there are as many of them as keys, and no key is left over. The order of the members does not
matter. With more than ten of them it is not that of the numbers.

`Arguments.indexMembers` is the other direction, the object of the indices of a list. It is
classified as the list it was made from (`Arguments.classify_indexMembers`), so the same envelopes
are built from both.

`Arguments.classify_exact` is the main result. It says what every value is classified as, and that
the arguments which an envelope shows as text are classified as those it was built from.
-/

set_option autoImplicit false

namespace TaskQueue

open Json Members

/-- The value is neither `null` nor a container. -/
def Json.IsScalar : Json → Prop
  | .null | .array _ | .object _ => False
  | _ => True

namespace Arguments

/-! ## Indices as keys -/

/-- The keys of the indices below `n`. -/
def indexKeys (n : Nat) : List String := (List.range n).map fun i => toString i

/-- The key of a position is its decimal numeral. -/
theorem indexKey_eq (i : Nat) : indexKey i = toString i := rfl

/-- Different indices have different keys: the digits of a number can be read back. -/
theorem indexKey_injective {i j : Nat} (h : indexKey i = indexKey j) : i = j := by
  have hchars : natChars i = natChars j := String.ofList_injective h
  rw [← Draft.natOfDigits_natChars i, hchars, Draft.natOfDigits_natChars]

/-- The keys of different positions differ. -/
theorem nodup_indexKeys (n : Nat) : (indexKeys n).Nodup := by
  refine (List.nodup_map_iff_inj_on List.nodup_range).2 ?_
  intro i _ j _ h
  exact indexKey_injective h

/-- There are as many keys as positions. -/
theorem length_indexKeys (n : Nat) : (indexKeys n).length = n := by
  simp [indexKeys]

/-- The keys are the numerals of the positions. -/
theorem mem_indexKeys {n : Nat} {key : String} :
    key ∈ indexKeys n ↔ ∃ i < n, key = toString i := by
  simp [indexKeys, eq_comm]

/-- The keys of the members are the indices of a list of as many values. -/
def IsIndexed (members : List (String × Json)) : Prop :=
  ∀ key, key ∈ keys members ↔ ∃ i < members.length, key = toString i

/-- It is enough that every index is a key. -/
theorem isIndexed_iff {members : List (String × Json)} :
    IsIndexed members ↔ ∀ i < members.length, toString i ∈ keys members := by
  constructor
  · intro hindexed i hi
    exact (hindexed (toString i)).2 ⟨i, hi, rfl⟩
  · intro hall key
    -- There are as many indices as keys, so no key is left for anything else.
    have hsubset : indexKeys members.length ⊆ keys members := by
      intro key hkey
      obtain ⟨i, hi, rfl⟩ := mem_indexKeys.1 hkey
      exact hall i hi
    have hperm : (indexKeys members.length).Perm (keys members) := by
      refine ((nodup_indexKeys _).subperm hsubset).perm_of_length_le ?_
      simp [length_indexKeys, keys]
    rw [← hperm.mem_iff, mem_indexKeys]

/-! ## Values by index -/

/-- Something is computed for each element of a list if and only if it can be computed for all. -/
theorem mapM_eq_some_iff {α β : Type} {f : α → Option β} {xs : List α} {ys : List β} :
    xs.mapM f = some ys ↔ xs.map f = ys.map some := by
  induction xs generalizing ys with
  | nil => cases ys <;> simp [List.mapM_nil]
  | cons x xs ih =>
    rw [List.mapM_cons, List.map_cons]
    cases hx : f x with
    | none => cases ys <;> simp
    | some y =>
      cases ys with
      | nil => cases xs.mapM f <;> simp
      | cons y' ys =>
        rw [List.map_cons, List.cons.injEq, ← ih]
        cases xs.mapM f <;> simp

/-- The values of an object by index are those that stand under the indices. -/
theorem indexed?_eq_some_iff {members : List (String × Json)} {n : Nat} {items : List Json} :
    indexed? members n = some items ↔
      items.length = n ∧ ∀ i < n, items[i]? = lookup (toString i) members := by
  rw [indexed?, mapM_eq_some_iff]
  constructor
  · intro h
    have hlength : items.length = n := by
      have hlengths := congrArg List.length h
      simp only [List.length_map, List.length_range] at hlengths
      exact hlengths.symm
    refine ⟨hlength, fun i hi => ?_⟩
    have hi' : i < items.length := by omega
    -- Item by item, what was looked up is what the members have under the numeral of its position.
    have hat := congrArg (fun l => l[i]?) h
    simp only [List.getElem?_map, List.getElem?_range hi, Option.map_some,
      List.getElem?_eq_getElem hi', Option.some.injEq] at hat
    rw [List.getElem?_eq_getElem hi', ← hat, indexKey_eq]
  · rintro ⟨rfl, h⟩
    refine List.ext_getElem (by simp) fun i hi hi' => ?_
    have hi : i < items.length := by simpa using hi
    have hat := h i hi
    rw [List.getElem?_eq_getElem hi] at hat
    simp only [List.getElem_map, List.getElem_range, indexKey_eq, hat]

/-- Members are taken for positional arguments exactly if they are indexed by position. -/
theorem indexed?_isSome_iff {members : List (String × Json)} :
    (indexed? members members.length).isSome ↔ IsIndexed members := by
  rw [isIndexed_iff, Option.isSome_iff_exists]
  constructor
  · rintro ⟨items, hitems⟩ i hi
    obtain ⟨hlength, hat⟩ := indexed?_eq_some_iff.1 hitems
    rw [← lookup_isSome_iff, ← hat i hi, List.getElem?_eq_getElem (by omega)]
    rfl
  · intro hall
    -- The list of the values that are there is the one that is read.
    refine ⟨(List.range members.length).map fun i => (lookup (toString i) members).getD .null,
      indexed?_eq_some_iff.2 ⟨by simp, fun i hi => ?_⟩⟩
    obtain ⟨v, hv⟩ := Option.isSome_iff_exists.1 (lookup_isSome_iff.2 (hall i hi))
    rw [List.getElem?_map, List.getElem?_range hi, Option.map_some, hv]
    rfl

/-- What an object is classified as. -/
theorem classify_object (members : List (String × Json)) :
    classify (.object members) =
      match indexed? members members.length with
      | some items => .ok (.positional items)
      | none => .ok (.keyword members) := rfl

/-! ## The object of a list -/

/-- The object with the values of a list under their indices. -/
def indexMembers (items : List Json) : List (String × Json) :=
  sort (items.mapIdx fun i v => (toString i, v))

/-- Items paired with their positions have the keys of those positions. -/
theorem keys_mapIdx (items : List Json) :
    keys (items.mapIdx fun i v => (toString i, v)) = indexKeys items.length := by
  refine List.ext_getElem (by simp [keys, length_indexKeys]) fun i _ _ => ?_
  simp [keys, indexKeys]

/-- Sorting the indexed items by key loses none and adds none. -/
theorem indexMembers_perm (items : List Json) :
    (indexMembers items).Perm (items.mapIdx fun i v => (toString i, v)) :=
  sort_perm (keys_mapIdx items ▸ nodup_indexKeys _)

/-- There are as many indexed members as items. -/
theorem length_indexMembers (items : List Json) : (indexMembers items).length = items.length := by
  rw [(indexMembers_perm items).length_eq, List.length_mapIdx]

/-- Their keys differ. -/
theorem nodup_indexMembers (items : List Json) : (keys (indexMembers items)).Nodup := by
  have hkeys : (keys (indexMembers items)).Perm (indexKeys items.length) := by
    rw [← keys_mapIdx]
    exact (indexMembers_perm items).map _
  exact hkeys.nodup_iff.2 (nodup_indexKeys _)

/-- Each item is found under the numeral of its position. -/
theorem lookup_indexMembers (items : List Json) {i : Nat} (hi : i < items.length) :
    lookup (toString i) (indexMembers items) = some items[i] := by
  refine lookup_of_mem (nodup_indexMembers items) ((indexMembers_perm items).mem_iff.2 ?_)
  exact List.mem_mapIdx.2 ⟨i, hi, rfl⟩

/-- The object of a list is classified as the list. -/
theorem classify_indexMembers (items : List Json) :
    classify (.object (indexMembers items)) = classify (.array items) := by
  have hindexed : indexed? (indexMembers items) (indexMembers items).length = some items := by
    refine indexed?_eq_some_iff.2 ⟨(length_indexMembers items).symm, fun i hi => ?_⟩
    have hi : i < items.length := by rwa [length_indexMembers] at hi
    rw [lookup_indexMembers items hi, List.getElem?_eq_getElem hi]
  rw [classify_object, hindexed]
  rfl

/-- The same object as a value. -/
def indexMap (items : List Json.Value) : Json.Map :=
  .ofList (items.mapIdx fun i v => (toString i, v))

/-- The entries of the map of positional arguments are the indexed members of its items. -/
theorem entries_indexMap (items : List Json.Value) :
    (indexMap items).entries = indexMembers (items.map Json.Value.json) := by
  rw [indexMap, Json.Map.entries_ofList, indexMembers]
  congr 1
  exact List.ext_getElem (by simp) fun i _ _ => by simp

/-! ## The arguments of an envelope -/

/-- No arguments are positional and keyword at once. -/
theorem items_or_members (a : Arguments) : a.items = [] ∨ a.members = [] := by
  cases a with
  | positional items => exact .inr rfl
  | keyword members => exact .inl rfl

/-- Keyword arguments are never empty, since the empty object is a list without values. -/
theorem keyword_of_classify {v : Json} {members : List (String × Json)}
    (h : classify v = .ok (.keyword members)) : v = .object members ∧ members ≠ [] := by
  rcases Envelope.classify_ok h with ⟨-, ha⟩ | ⟨items, -, ha⟩ | ⟨items, ms, -, ha, -⟩ |
    ⟨ms, rfl, ha⟩
  · cases ha
  · cases ha
  · cases ha
  · cases ha
    refine ⟨rfl, ?_⟩
    rintro rfl
    cases h

/-- Positional arguments are made of numbers as they were given, and are nested no deeper than the
value that they were given as. -/
theorem items_of_classify {v : Json} {items : List Json}
    (h : classify v = .ok (.positional items)) (hv : v.Whole) (hdepth : v.depth ≤ 127) :
    (Json.array items).Whole ∧ (Json.array items).depth ≤ 127 := by
  rcases Envelope.classify_ok h with ⟨-, ha⟩ | ⟨xs, rfl, ha⟩ | ⟨xs, ms, rfl, ha, hxs⟩ | ⟨ms, -, ha⟩
  · cases ha
    exact ⟨trivial, by decide⟩
  · cases ha
    exact ⟨hv, hdepth⟩
  · cases ha
    have hms : FitsMembers ms := WholeMembers.fits hv
    refine ⟨wholeItems_of_forall fun x hx => ?_, Nat.succ_le_of_lt (Nat.lt_of_le_of_lt ?_ hdepth)⟩
    -- The items are values of the object, so they are no worse than it.
    · obtain ⟨key, hmem⟩ := hxs x hx
      exact whole_of_mem hv hmem
    · refine depthItems_le fun x hx => ?_
      obtain ⟨key, hmem⟩ := hxs x hx
      exact (fits_of_mem hms hmem).2
  · cases ha

/-- Arguments without fractions come back from their text. -/
theorem classify_argumentsText {v : Json} {a : Arguments} (h : classify v = .ok a) (hv : v.Whole)
    (ho : v.Ordered) (hdepth : v.depth ≤ 127) {e : Envelope} (hargs : e.args = a.items)
    (hkwargs : e.kwargs = a.members) :
    ∃ w, Json.parse e.argumentsText = .ok w ∧ classify w = .ok a := by
  cases a with
  | positional items =>
    -- There are no keyword arguments, so the text is that of the list.
    obtain ⟨hwhole, hdepth⟩ := items_of_classify h hv hdepth
    have hitems : (Json.array items).Ordered := (Envelope.classify_ordered h ho).1
    have htext : e.argumentsText = (Json.array items).text := by
      simp [Envelope.argumentsText, hargs, hkwargs, Arguments.items, Arguments.members]
    refine ⟨.array items, ?_, rfl⟩
    rw [htext, Json.parse_text hwhole.fits hdepth, reread_of_whole hwhole hitems]
  | keyword members =>
    obtain ⟨rfl, hne⟩ := keyword_of_classify h
    have htext : e.argumentsText = (Json.object members).text := by
      simp [Envelope.argumentsText, hkwargs, Arguments.members, hne]
    refine ⟨.object members, ?_, h⟩
    rw [htext, Json.parse_text hv.fits hdepth, reread_of_whole hv ho]

/-- Building looks at the arguments only through what they are classified as. -/
theorem build_congr {v w : Json.Value} (h : classify v.json = classify w.json) (now : Instant)
    (id : TaskId) (task : String) (o : TaskOptions) :
    Envelope.build now id task v o = Envelope.build now id task w o := by
  simp only [Envelope.build, h]

/-- `null` is no arguments, a list is positional, and a scalar is refused. An object is positional
if and only if its keys are the indices of as many values, and then the arguments are the values in
the order of the indices; any other object is keyword as it is. So no envelope has arguments of both
kinds, a list makes the same envelopes as the object of its indices, and the text of the arguments
of an envelope is classified as the value that it was built from. -/
theorem classify_exact :
    classify .null = .ok (.positional []) ∧
    (∀ items, classify (.array items) = .ok (.positional items)) ∧
    (∀ v : Json, v.IsScalar → classify v =
      .error (.invalidArguments ("args should be an array or an object, got " ++ v.text))) ∧
    (∀ members,
      ((∃ items, classify (.object members) = .ok (.positional items)) ↔ IsIndexed members) ∧
      (∀ items, classify (.object members) = .ok (.positional items) →
        items.length = members.length ∧
        ∀ i < members.length, items[i]? = lookup (toString i) members) ∧
      (¬ IsIndexed members → classify (.object members) = .ok (.keyword members))) ∧
    (∀ now id task v o e, Envelope.build now id task v o = .ok e → e.args = [] ∨ e.kwargs = []) ∧
    (∀ items now id task o, Envelope.build now id task (.object (indexMap items)) o =
      Envelope.build now id task (.array items) o) ∧
    ∀ now id task v o e, Envelope.build now id task v o = .ok e → v.json.Whole →
      v.json.depth ≤ 127 → ∃ a w, classify v.json = .ok a ∧ e.args = a.items ∧
        e.kwargs = a.members ∧ Json.parse e.argumentsText = .ok w ∧ classify w = .ok a := by
  refine ⟨rfl, fun _ => rfl, ?scalar, ?object, ?either, ?same, ?text⟩
  case scalar =>
    intro v hv
    cases v with
    | bool _ | int _ | float _ | string _ => rfl
    | null | array _ | object _ => exact hv.elim
  case object =>
    intro members
    have hsome : (indexed? members members.length).isSome ↔ IsIndexed members := indexed?_isSome_iff
    rw [classify_object]
    cases hindexed : indexed? members members.length with
    | some items =>
      rw [hindexed] at hsome
      refine ⟨⟨fun _ => hsome.1 rfl, fun _ => ⟨items, rfl⟩⟩, ?_, fun hnot => ?_⟩
      · intro items' h
        cases h
        exact indexed?_eq_some_iff.1 hindexed
      · exact absurd (hsome.1 rfl) hnot
    | none =>
      rw [hindexed] at hsome
      refine ⟨⟨nofun, fun h => ?_⟩, nofun, fun _ => rfl⟩
      exact absurd (hsome.2 h) Bool.false_ne_true
  case either =>
    intro now id task v o e h
    obtain ⟨a, s, eta, expires, -, -, rfl⟩ := Envelope.build_ok h
    exact a.items_or_members
  case same =>
    intro items now id task o
    refine build_congr ?_ now id task o
    rw [Json.Value.json_object, Json.Value.json_array, entries_indexMap, classify_indexMembers]
  case text =>
    intro now id task v o e h hv hdepth
    obtain ⟨a, s, eta, expires, ha, -, rfl⟩ := Envelope.build_ok h
    obtain ⟨w, hparse, hw⟩ := classify_argumentsText (e := ⟨id, task, a.items, a.members,
      Envelope.clampRetries s.retries, eta, expires, s.extensions⟩) ha hv v.ordered hdepth rfl rfl
    exact ⟨a, w, ha, rfl, rfl, hparse, hw⟩

/-- An object with eleven values. The key of the last index stands before that of the third. -/
def eleven : List (String × Json) :=
  [("0", .int 0), ("1", .int 1), ("10", .int 10), ("2", .int 2), ("3", .int 3), ("4", .int 4),
    ("5", .int 5), ("6", .int 6), ("7", .int 7), ("8", .int 8), ("9", .int 9)]

/-- The object as a value. -/
def elevenValue : Json.Value := ⟨.object eleven, by decide⟩

/-- The values come out in the order of the numbers, and from the text of an envelope they come
back. -/
theorem classify_exact_eleven :
    (Json.object eleven).Whole ∧ (Json.object eleven).depth ≤ 127 ∧
      (∃ items, classify (.object eleven) = .ok (.positional items) ∧ items.length = 11 ∧
        items[2]? = some (.int 2) ∧ items[10]? = some (.int 10)) ∧
      ∃ e a w, Envelope.build ⟨0, 0⟩ ⟨"t-1"⟩ "tasks.sum" elevenValue {} = .ok e ∧
        classify (.object eleven) = .ok a ∧ e.args = a.items ∧
        Json.parse e.argumentsText = .ok w ∧ classify w = .ok a := by
  obtain ⟨-, -, -, hobject, -, -, htext⟩ := classify_exact
  have hwhole : (Json.object eleven).Whole := by simp [eleven, Whole, WholeMembers]
  have hdepth : (Json.object eleven).depth ≤ 127 := by decide
  obtain ⟨hiff, hitems, -⟩ := hobject eleven
  have hindexed : IsIndexed eleven := isIndexed_iff.2 (by decide)
  obtain ⟨items, hclass⟩ := hiff.2 hindexed
  obtain ⟨hlength, hat⟩ := hitems items hclass
  have hbuild : ∃ e, Envelope.build ⟨0, 0⟩ ⟨"t-1"⟩ "tasks.sum" elevenValue {} = .ok e :=
    ⟨_, rfl⟩
  obtain ⟨e, he⟩ := hbuild
  obtain ⟨a, w, ha, hargs, -, hparse, hw⟩ := htext _ _ _ _ _ e he hwhole hdepth
  exact ⟨hwhole, hdepth,
    ⟨items, hclass, hlength, hat 2 (by decide), hat 10 (by decide)⟩,
    ⟨e, a, w, he, ha, hargs, hparse, hw⟩⟩

end Arguments
end TaskQueue
