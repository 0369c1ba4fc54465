import TaskQueue.Task.Id

/-!
# `TaskQueue.Proofs.Task.Id`: which tasks share a place for their results

A result key holds the whole id, so no two tasks share one (`resultKey_injective`). A result queue
is named by the id without its dashes, and ids that differ in their dashes alone share it
(`resultQueue_eq_iff`). Ids with dashes at the same places do not (`eq_of_resultQueue`). Fresh ids
are among these: their dashes stand where those of all UUIDs stand (`marks_fresh`).
-/

set_option autoImplicit false

namespace TaskQueue

/-- What is dropped from two lists stands at the same places and is the same each time; what is left
is the same as well. Then the lists are. -/
theorem eq_of_filter_eq {α : Type} {p : α → Bool}
    (hdropped : ∀ a b, p a = false → p b = false → a = b) {s t : List α}
    (hplaces : s.map p = t.map p) (hleft : s.filter p = t.filter p) : s = t := by
  induction s generalizing t with
  | nil => simpa [eq_comm] using hplaces
  | cons a s ih =>
    cases t with
    | nil => cases hplaces
    | cons b t =>
      obtain ⟨hplace, hrest⟩ := List.cons.inj hplaces
      -- What is dropped is the same everywhere, so it is enough to know where it stood.
      cases ha : p a with
      | false =>
        have hb : p b = false := hplace.symm.trans ha
        rw [List.filter_cons_of_neg (by simp [ha]), List.filter_cons_of_neg (by simp [hb])] at hleft
        rw [hdropped a b ha hb, ih hrest hleft]
      | true =>
        have hb : p b = true := hplace.symm.trans ha
        rw [List.filter_cons_of_pos ha, List.filter_cons_of_pos hb] at hleft
        obtain ⟨hsame, hkept⟩ := List.cons.inj hleft
        rw [hsame, ih hrest hkept]

namespace TaskId

/-- No two tasks have the same result key. -/
theorem resultKey_injective {a b : TaskId} (h : a.resultKey = b.resultKey) : a = b := by
  have hchars := congrArg String.toList h
  simp only [resultKey, String.toList_append, List.append_cancel_left_eq] at hchars
  exact congrArg TaskId.mk (String.toList_inj.1 hchars)

/-- The id without its dashes. -/
def letters (id : TaskId) : List Char := id.text.toList.filter (· != '-')

/-- Two tasks share a result queue if and only if their ids are the same but for dashes. -/
theorem resultQueue_eq_iff {a b : TaskId} :
    a.resultQueue = b.resultQueue ↔ a.letters = b.letters :=
  String.ofList_inj

/-- Where an id has something else than a dash. -/
def marks (id : TaskId) : List Bool := id.text.toList.map (· != '-')

/-- Of ids with dashes at the same places, no two have the same result queue. -/
theorem eq_of_resultQueue {a b : TaskId} (hmarks : a.marks = b.marks)
    (h : a.resultQueue = b.resultQueue) : a = b := by
  have hdash : ∀ c d : Char, (c != '-') = false → (d != '-') = false → c = d := by
    intro c d hc hd
    simp only [bne_eq_false_iff_eq] at hc hd
    rw [hc, hd]
  have hletters := eq_of_filter_eq hdash hmarks (resultQueue_eq_iff.1 h)
  exact congrArg TaskId.mk (String.toList_inj.1 hletters)

/-- No hexadecimal digit is a dash. -/
theorem hexChar_ne_dash : ∀ n < 16, (Json.hexChar n != '-') = true := by decide

/-- A group of digits is all digits, which is what tells it from the dashes around it. -/
theorem marks_hexDigits (width n : Nat) :
    (hexDigits width n).map (· != '-') = List.replicate width true := by
  induction width with
  | zero => rfl
  | succ width ih =>
    have hdigit := hexChar_ne_dash (n / Nat.pow 16 width % 16) (Nat.mod_lt _ (by decide))
    simp only [hexDigits, List.map_cons, List.replicate_succ, hdigit, ih]

/-- Fresh ids have their dashes where UUIDs have them. -/
theorem marks_fresh (n : Nat) :
    (fresh n).marks = List.replicate 8 true ++ false :: (List.replicate 4 true ++
      false :: (List.replicate 4 true ++ false :: (List.replicate 4 true ++
      false :: List.replicate 12 true))) := by
  have hvariant := hexChar_ne_dash (8 + n / Nat.pow 2 60 % 4) (by omega)
  simp only [marks, fresh, String.toList_ofList, List.map_append, List.map_cons, marks_hexDigits,
    hvariant]
  rfl

end TaskId
end TaskQueue
