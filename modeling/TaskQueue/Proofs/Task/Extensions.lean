import TaskQueue.Proofs.Members
import TaskQueue.Task.Envelope

/-!
# `TaskQueue.Proofs.Task.Extensions`: what the extensions come to

`Envelope.Settings.applyAll` takes the extensions in one after the other and stops at the first
that has a fault. Here it is said what this comes to without the settings in between.
`extensionFault` is the fault of one extension and `kept?` is what it adds to the envelope. Both
look at the extension alone, except that a time counts only if the options do not set it
themselves.

`Settings.apply_eq` says what one extension does to the settings, and `Settings.applyAll_eq` what
all of them do: the first fault in their order, or the settings that `Settings.afterAll` reads off
the list. No key may come twice, since the second of two times would not count.
-/

set_option autoImplicit false

namespace TaskQueue

open Json Members

namespace Envelope

/-! ## One extension -/

/-- The number of retries that a value stands for: it has to be an integer of 64 bits. -/
def retries? : Json → Option Int
  | .int n => if -(Nat.pow 2 63 : Int) ≤ n ∧ n < Nat.pow 2 63 then some n else none
  | _ => none

/-- The time that a value stands for: a number is a timestamp, and a string is taken as text. -/
def moment? : Json → Option TaskTime
  | .int n => some (.timestamp (Double.ofInt n))
  | .float x => some (.timestamp x)
  | .string s => some (.text s)
  | _ => none

/-- The fault of a value that stands for no time. -/
def momentFault (field : String) (value : Json) : Option Error :=
  if (moment? value).isSome then none
  else some (.invalidDate field ("expected timestamp, got " ++ value.text))

/-- The list of names that a value stands for; `null` is none. -/
def names? : Json → Option Json
  | .null => none
  | names => some names

/-- The fault of a value that is no list of task names, nor `null`. -/
def namesFault (field : String) : Json → Option Error
  | .null => none
  | .array items =>
    (items.find? fun x => !x.isString).map fun bad =>
      .invalidCallback field ("expected task names, found " ++ bad.text)
  | other =>
    some (.invalidCallback field ("expected a list of task names, got " ++ other.text))

/-- The fault of an extension, where the options may set the two times themselves. -/
def extensionFault (etaSet expiresSet : Bool) (key : String) (value : Json) : Option Error :=
  if key ∈ ["id", "task", "args", "kwargs"] then
    some (.invalidArguments
      ("extension " ++ Error.ticked key ++ " would overwrite an envelope field"))
  else if key = "retries" then
    if (retries? value).isSome then none
    else some (.invalidArguments ("retries must be an integer, got " ++ value.text))
  else if key = "eta" then if etaSet then none else momentFault key value
  else if key = "expires" then if expiresSet then none else momentFault key value
  else if key = "callbacks" ∨ key = "errbacks" then namesFault key value
  else none

/-- What an extension adds to the envelope under its key. Retries and times have fields of their
own, and a link or a list of names that is `null` is left out. A link becomes a text and the flag
becomes one of the two truth values; anything else is taken as it is. -/
def kept? (key : String) (value : Json) : Option Json :=
  if key = "retries" ∨ key = "eta" ∨ key = "expires" then none
  else if key = "taskset" ∨ key = "chord" then (looseId value).map Json.string
  else if key = "utc" then some (.bool (isTruthy value))
  else if key = "callbacks" ∨ key = "errbacks" then names? value
  else some value

/-- An extension adds a value as it was given, or a text, or a truth value. -/
theorem kept?_eq_some {key : String} {value v : Json} (h : kept? key value = some v) :
    v = value ∨ (∃ s, v = .string s) ∨ ∃ b, v = .bool b := by
  -- The keys with a meaning of their own are told apart in turn; any other value is kept as it is.
  unfold kept? at h
  split at h
  · cases h
  split at h
  · obtain ⟨s, -, rfl⟩ := Option.map_eq_some_iff.1 h
    exact .inr (.inl ⟨s, rfl⟩)
  split at h
  · cases h
    exact .inr (.inr ⟨_, rfl⟩)
  split at h
  · cases value with
    | null => cases h
    | _ => exact .inl (Option.some.inj h).symm
  · exact .inl (Option.some.inj h).symm

/-- The settings after an extension without a fault. -/
def Settings.after (s : Settings) (key : String) (value : Json) : Settings where
  retries := if key = "retries" then (retries? value).getD s.retries else s.retries
  eta := s.eta.or (if key = "eta" then moment? value else none)
  expires := s.expires.or (if key = "expires" then moment? value else none)
  extensions := s.extensions ++ ((kept? key value).map fun v => (key, v)).toList

/-- Reading a time fails with the fault of the value. -/
theorem ofJson_eq (field : String) (value : Json) :
    TaskTime.ofJson field value =
      match moment? value with
      | some t => .ok t
      | none => .error (.invalidDate field ("expected timestamp, got " ++ value.text)) := by
  cases value <;> rfl

/-- A time that comes late counts only if there is none yet. -/
theorem lateTime_eq (field : String) (value : Json) (t : Option TaskTime) :
    lateTime field value t =
      match if t.isSome then none else momentFault field value with
      | some e => .error e
      | none => .ok (t.or (moment? value)) := by
  cases t with
  | some t => rfl
  | none =>
    rw [lateTime, ofJson_eq, momentFault]
    cases moment? value <;> rfl

/-- Reading task names fails with the fault of the value, and keeps anything but `null`. -/
theorem taskNames_eq (field : String) (value : Json) :
    taskNames field value =
      match namesFault field value with
      | some e => .error e
      | none => .ok (names? value) := by
  cases value with
  | array items =>
    rw [taskNames, namesFault]
    cases items.find? fun x => !x.isString <;> rfl
  | null | bool _ | int _ | float _ | string _ | object _ => rfl

/-- An extension that sets no field of the envelope adds a member to it at most. -/
theorem Settings.apply_member (s : Settings) {key : String}
    (hkey : key ∉ ["id", "task", "args", "kwargs", "retries", "eta", "expires"]) (value : Json) :
    s.apply key value =
      match if key = "callbacks" ∨ key = "errbacks" then namesFault key value else none with
      | some e => .error e
      | none => .ok (s.after key value) := by
  simp only [List.mem_cons, List.not_mem_nil, or_false, not_or] at hkey
  obtain ⟨hid, htask, hargs, hkwargs, hretries, heta, hexpires⟩ := hkey
  have hafter : s.after key value =
      { s with
        extensions := s.extensions ++ ((kept? key value).map fun v => (key, v)).toList } := by
    simp [Settings.after, hretries, heta, hexpires]
  have hreserved : reservedKeys.contains key = false := by
    simp [reservedKeys, hid, htask, hargs, hkwargs]
  rw [hafter]
  unfold Settings.apply kept?
  simp only [hreserved, hretries, heta, hexpires, or_self, if_false, Bool.false_eq_true]
  -- A key is in one group at most, so the conditions of the other groups are false for it.
  by_cases hlink : key = "taskset" ∨ key = "chord"
  · have hnames : ¬(key = "callbacks" ∨ key = "errbacks") := by
      rcases hlink with rfl | rfl <;> decide
    rw [if_pos hlink, if_neg hnames, if_pos hlink]
    cases looseId value <;> simp [Settings.keep]
  rw [if_neg hlink, if_neg hlink]
  by_cases hutc : key = "utc"
  · have hnames : ¬(key = "callbacks" ∨ key = "errbacks") := by
      subst hutc
      decide
    rw [if_pos hutc, if_neg hnames, if_pos hutc]
    rfl
  rw [if_neg hutc, if_neg hutc]
  by_cases hnames : key = "callbacks" ∨ key = "errbacks"
  · rw [if_pos hnames, if_pos hnames, if_pos hnames, taskNames_eq]
    cases namesFault key value with
    | some e => rfl
    | none => cases names? value <;> simp [Settings.keep]
  · rw [if_neg hnames, if_neg hnames, if_neg hnames]
    rfl

/-- What one extension does to the settings. -/
theorem Settings.apply_eq (s : Settings) (key : String) (value : Json) :
    s.apply key value =
      match extensionFault s.eta.isSome s.expires.isSome key value with
      | some e => .error e
      | none => .ok (s.after key value) := by
  -- The keys that set a field have rules of their own, and come first.
  by_cases hreserved : key ∈ ["id", "task", "args", "kwargs"]
  · have hcontains : reservedKeys.contains key = true := by simpa [reservedKeys] using hreserved
    unfold Settings.apply
    rw [if_pos hcontains, extensionFault, if_pos hreserved]
  by_cases hretries : key = "retries"
  · subst hretries
    cases value with
    | int n =>
      by_cases hn : -(Nat.pow 2 63 : Int) ≤ n ∧ n < Nat.pow 2 63
      · have hretries : retries? (.int n) = some n := if_pos hn
        simpa [Settings.apply, reservedKeys, extensionFault, hretries, Settings.after, kept?]
          using hn
      · have hretries : retries? (.int n) = none := if_neg hn
        simpa [Settings.apply, reservedKeys, extensionFault, hretries] using hn
    | null | bool _ | float _ | string _ | array _ | object _ => rfl
  by_cases heta : key = "eta"
  · subst heta
    simp only [Settings.apply, reservedKeys, extensionFault, lateTime_eq]
    cases h : s.eta <;> cases momentFault "eta" value <;>
      simp [Settings.after, kept?, Except.map, h]
  by_cases hexpires : key = "expires"
  · subst hexpires
    simp only [Settings.apply, reservedKeys, extensionFault, lateTime_eq]
    cases h : s.expires <;> cases momentFault "expires" value <;>
      simp [Settings.after, kept?, Except.map, h]
  have hkey : key ∉ ["id", "task", "args", "kwargs", "retries", "eta", "expires"] := by
    simp_all
  rw [Settings.apply_member s hkey, extensionFault, if_neg hreserved, if_neg hretries,
    if_neg heta, if_neg hexpires]

/-! ## All extensions -/

/-- The settings after extensions without a fault, read off the list of them. -/
def Settings.afterAll (s : Settings) (given : List (String × Json)) : Settings where
  retries := ((lookup "retries" given).bind retries?).getD s.retries
  eta := s.eta.or ((lookup "eta" given).bind moment?)
  expires := s.expires.or ((lookup "expires" given).bind moment?)
  extensions := s.extensions ++ given.filterMap fun m => (kept? m.1 m.2).map fun v => (m.1, v)

/-- An extension changes the faults of no other. -/
theorem extensionFault_after (s : Settings) {key other : String} (hne : other ≠ key)
    (value v : Json) :
    extensionFault (s.after key value).eta.isSome (s.after key value).expires.isSome other v =
      extensionFault s.eta.isSome s.expires.isSome other v := by
  -- Whether a time is set counts for the extension of that time alone.
  unfold extensionFault
  by_cases heta : other = "eta"
  · have hkey : key ≠ "eta" := fun h => hne (heta.trans h.symm)
    simp [Settings.after, hkey, heta]
  · by_cases hexpires : other = "expires"
    · have hkey : key ≠ "expires" := fun h => hne (hexpires.trans h.symm)
      simp [Settings.after, hkey, hexpires]
    · simp only [heta, hexpires, if_false]

/-- One extension and then the others come to what all of them come to. -/
theorem Settings.afterAll_after (s : Settings) {key : String} {given : List (String × Json)}
    (hkey : key ∉ keys given) (value : Json) :
    (s.after key value).afterAll given = s.afterAll ((key, value) :: given) := by
  -- If the extension sets a field, the others do not set that field again.
  have hlookup : ∀ name, key = name → lookup name given = none :=
    fun name h => lookup_eq_none (h ▸ hkey)
  simp only [Settings.afterAll, Settings.after, lookup]
  congr 1
  · by_cases h : key = "retries"
    · simp [h, hlookup]
    · simp [h]
  · by_cases h : key = "eta"
    · simp [h, hlookup]
    · simp [h]
  · by_cases h : key = "expires"
    · simp [h, hlookup]
    · simp [h]
  · rw [List.append_assoc, List.filterMap_cons]
    cases kept? key value <;> simp

/-- What all extensions do to the settings, where the fault of each is known from the start. -/
theorem Settings.applyAll_of_faults (s : Settings) {given : List (String × Json)}
    (hkeys : (keys given).Nodup) {fault : String × Json → Option Error}
    (hfault : ∀ m ∈ given, extensionFault s.eta.isSome s.expires.isSome m.1 m.2 = fault m) :
    s.applyAll given =
      match given.findSome? fault with
      | some e => .error e
      | none => .ok (s.afterAll given) := by
  induction given generalizing s with
  | nil => simp [Settings.applyAll, Settings.afterAll, lookup]
  | cons m rest ih =>
    obtain ⟨key, value⟩ := m
    obtain ⟨hnew, hrest⟩ := List.nodup_cons.1 hkeys
    rw [Settings.applyAll, Settings.apply_eq, hfault _ List.mem_cons_self, List.findSome?_cons]
    cases fault (key, value) with
    | some e => rfl
    | none =>
      -- The key of this extension does not come again, so the faults of the others stay.
      have hothers : ∀ m ∈ rest, extensionFault (s.after key value).eta.isSome
          (s.after key value).expires.isSome m.1 m.2 = fault m := by
        intro m hm
        have hne : m.1 ≠ key := by
          rintro rfl
          exact hnew (List.mem_map.2 ⟨m, hm, rfl⟩)
        rw [extensionFault_after s hne, hfault m (List.mem_cons_of_mem _ hm)]
      simp only [ih (s.after key value) hrest hothers, Settings.afterAll_after s hnew]

/-- What all extensions do to the settings. -/
theorem Settings.applyAll_eq (s : Settings) {given : List (String × Json)}
    (hkeys : (keys given).Nodup) :
    s.applyAll given =
      match given.findSome? fun m => extensionFault s.eta.isSome s.expires.isSome m.1 m.2 with
      | some e => .error e
      | none => .ok (s.afterAll given) :=
  s.applyAll_of_faults hkeys fun _ _ => rfl

end Envelope
end TaskQueue
