import TaskQueue.Proofs.Task.Arguments
import TaskQueue.Proofs.Task.Time

/-!
# `TaskQueue.Proofs.Task.Rebuilding`: an envelope is built again from what it holds

Building changes what the caller gives: texts for links, truth values for the flag, lists of names
that are looked through, retries in their range, arguments told apart, times that are written. What
stands in the envelope then is not changed again. `Envelope.Coerced` lists what may stand among the
extensions, and there each value is kept as it is. `Envelope.Settled` says the same of the other
fields, and every envelope that was built is settled (`Envelope.settled_of_build`).

Only the times can fail the second time, since what is written of a year past 9999 or before 0 is no
valid text. So `Envelope.build_again` has an equivalence: building again gives the same envelope if
and only if the years are plain. Reading the envelope back from its text keeps it settled
(`Envelope.Settled.reread`), and so the envelope that a worker reads can be built again too.
-/

set_option autoImplicit false

namespace TaskQueue

open Json Members

namespace Envelope

/-! ## What an envelope is built from again -/

/-- The arguments of an envelope as one value: an object if there are any with a name. -/
def argumentsAgain (e : Envelope) : Json :=
  if e.kwargs.isEmpty then .array e.args else .object e.kwargs

/-- The arguments are ordered if the envelope is in order. -/
theorem InOrder.arguments {e : Envelope} (he : e.InOrder) : e.argumentsAgain.Ordered := by
  unfold argumentsAgain
  split
  · exact he.args
  · exact he.kwargs

/-- The options that say what the envelope says: the times are given as the texts in it. -/
def optionsAgain (e : Envelope) (he : e.InOrder) : TaskOptions where
  retries := e.retries.toNat
  eta := e.eta.map TaskTime.text
  expires := e.expires.map TaskTime.text
  extensions := ⟨⟨e.extensions, he.extensions.1⟩, he.extensions.2⟩

/-- Builds an envelope from what stands in one. -/
def rebuild (now : Instant) (e : Envelope) (he : e.InOrder) : Except Error Envelope :=
  build now e.id e.task ⟨e.argumentsAgain, he.arguments⟩ (e.optionsAgain he)

/-! ## Extensions as they stand in an envelope -/

/-- A member that may stand among the extensions of an envelope. -/
inductive Coerced : String → Json → Prop
  | link {key : String} (hkey : key = "taskset" ∨ key = "chord") (id : String) :
      Coerced key (.string id)
  | flag (b : Bool) : Coerced "utc" (.bool b)
  | names {key : String} (hkey : key = "callbacks" ∨ key = "errbacks") {items : List Json}
      (hnames : ∀ x ∈ items, x.isString = true) : Coerced key (.array items)
  | other {key : String} (hown : key ∉ ownKeys)
      (hkey : key ∉ ["taskset", "chord", "utc", "callbacks", "errbacks"]) (value : Json) :
      Coerced key value

/-- Names that are kept and have no fault are a list of texts. -/
theorem coerced_names {key : String} (hkey : key = "callbacks" ∨ key = "errbacks")
    {given v : Json} (hfault : namesFault key given = none) (h : names? given = some v) :
    Coerced key v := by
  cases given with
  | array items =>
    cases h
    rw [namesFault, Option.map_eq_none_iff, List.find?_eq_none] at hfault
    exact .names hkey fun x hx => by simpa using hfault x hx
  | null => cases h
  | bool _ | int _ | float _ | string _ | object _ => cases hfault

/-- What an extension without a fault adds to an envelope is of this kind. -/
theorem coerced_of_kept? {etaSet expiresSet : Bool} {key : String} {given v : Json}
    (hfault : extensionFault etaSet expiresSet key given = none)
    (h : kept? key given = some v) : Coerced key v := by
  have hown := (kept_of_kept? hfault h).key
  -- The cases are those in which a value is kept, one after another.
  unfold kept? at h
  split at h
  · cases h
  split at h
  · rename_i hlink
    obtain ⟨id, -, rfl⟩ := Option.map_eq_some_iff.1 h
    exact .link hlink id
  split at h
  · rename_i hutc
    cases h
    exact hutc ▸ .flag _
  split at h
  · rename_i hnames
    refine coerced_names hnames ?_ h
    rcases hnames with rfl | rfl <;> exact hfault
  · rename_i hlink hutc hnames
    cases h
    refine .other hown ?_ _
    simp only [List.mem_cons, List.not_mem_nil, or_false]
    tauto

namespace Coerced

variable {key : String} {v : Json}

/-- A coerced extension is not one of the fields of the envelope. -/
theorem key_own (h : Coerced key v) : key ∉ ownKeys := by
  cases h with
  | link hkey _ => rcases hkey with rfl | rfl <;> decide
  | flag b => decide
  | names hkey _ => rcases hkey with rfl | rfl <;> decide
  | other hown _ _ => exact hown

/-- Such a member has no fault. -/
theorem fault (h : Coerced key v) (etaSet expiresSet : Bool) :
    extensionFault etaSet expiresSet key v = none := by
  cases h with
  | link hkey id => rcases hkey with rfl | rfl <;> rfl
  | flag b => rfl
  | names hkey hnames =>
    have hnone : ∀ items : List Json, (∀ x ∈ items, x.isString = true) →
        items.find? (fun x => !x.isString) = none :=
      fun items hall => List.find?_eq_none.2 fun x hx => by simp [hall x hx]
    rcases hkey with rfl | rfl <;> simp [extensionFault, namesFault, hnone _ hnames]
  | other hown hkey _ =>
    simp only [ownKeys, List.mem_cons, List.not_mem_nil, or_false, not_or] at hown hkey
    simp [extensionFault, hown, hkey]

/-- Such a member is kept as it is. -/
theorem kept (h : Coerced key v) : kept? key v = some v := by
  cases h with
  | link hkey id => rcases hkey with rfl | rfl <;> rfl
  | flag b => rfl
  | names hkey _ => rcases hkey with rfl | rfl <;> rfl
  | other hown hkey _ =>
    simp only [ownKeys, List.mem_cons, List.not_mem_nil, or_false, not_or] at hown hkey
    simp [kept?, hown, hkey]

/-- Such a member comes back from a text as one. -/
theorem reread (h : Coerced key v) : Coerced key v.reread := by
  cases h with
  | link hkey id =>
    rw [reread_string]
    exact .link hkey id
  | flag b =>
    have hflag : (Json.bool b).reread = .bool b := by simp only [Json.reread]
    rw [hflag]
    exact .flag b
  | @names _ hkey items hnames =>
    have hplain : ∀ x ∈ items, x.Whole ∧ x.Ordered := by
      intro x hx
      have hstring := hnames x hx
      cases x with
      | string s => exact ⟨trivial, trivial⟩
      | null | bool _ | int _ | float _ | array _ | object _ => cases hstring
    rw [Json.reread, rereadItems_of_whole (wholeItems_of_forall fun x hx => (hplain x hx).1)
      (orderedItems_iff.2 fun x hx => (hplain x hx).2)]
    exact .names hkey hnames
  | other hown hkey _ => exact .other hown hkey _

end Coerced

/-! ## Envelopes that building does not change -/

/-- Nothing in the envelope would be changed by building it again, apart from its times. -/
structure Settled (e : Envelope) : Prop where
  order : e.InOrder
  task : nameFault e.task = none
  arguments : ∃ a, Arguments.classify e.argumentsAgain = .ok a ∧ e.args = a.items ∧
    e.kwargs = a.members
  extensions : ∀ m ∈ e.extensions, Coerced m.1 m.2

/-- The times in the envelope are valid. -/
structure Timely (e : Envelope) : Prop where
  eta : ∀ s ∈ e.eta, DateText.isValid s = true
  expires : ∀ s ∈ e.expires, DateText.isValid s = true

/-- The arguments are told apart in the same way again. -/
theorem classify_argumentsAgain {arguments : Json} {a : Arguments}
    (h : Arguments.classify arguments = .ok a) {e : Envelope} (hargs : e.args = a.items)
    (hkwargs : e.kwargs = a.members) : Arguments.classify e.argumentsAgain = .ok a := by
  cases a with
  | positional items =>
    have hagain : e.argumentsAgain = .array items := by
      simp [argumentsAgain, hargs, hkwargs, Arguments.items, Arguments.members]
    rw [hagain]
    rfl
  | keyword members =>
    obtain ⟨rfl, hne⟩ := Arguments.keyword_of_classify h
    have hagain : e.argumentsAgain = .object members := by
      simp [argumentsAgain, hkwargs, Arguments.members, hne]
    rw [hagain, h]

/-- Whatever was built is settled. -/
theorem settled_of_build {now : Instant} {id : TaskId} {task : String} {arguments : Json.Value}
    {o : TaskOptions} {e : Envelope} (h : build now id task arguments o = .ok e) : e.Settled := by
  have hruns := build_runs now id task arguments o
  have hspec := hruns.wanted_of_ok h
  have hpass : ∀ c ∈ checks now task arguments o, c = none :=
    List.findSome?_eq_none_iff.1 (hruns.ok_iff.1 ⟨e, h⟩)
  simp only [checks, List.mem_append, List.mem_cons, List.not_mem_nil, or_false,
    List.mem_map] at hpass
  -- An envelope that was built has passed every check, and each check settles one part of it.
  obtain ⟨a, hclass, hargs, hkwargs⟩ := hspec.arguments
  refine ⟨build_ordered h, ?task,
    ⟨a, classify_argumentsAgain hclass hargs hkwargs, hargs, hkwargs⟩, ?extensions⟩
  case task => exact hspec.task ▸ hpass _ (.inl (.inl (.inl rfl)))
  case extensions =>
    intro m hm
    rw [hspec.extensions] at hm
    obtain ⟨g, hg, hkept⟩ := List.mem_filterMap.1 hm
    obtain ⟨v, hv, rfl⟩ := Option.map_eq_some_iff.1 hkept
    exact coerced_of_kept? (hpass _ (.inl (.inr ⟨g, hg, rfl⟩))) hv

/-! ## Building again -/

/-- What the options of an envelope give: its retries and its times. -/
theorem Settled.given {e : Envelope} (he : e.Settled) (now : Instant) :
    givenRetries (e.optionsAgain he.order) = e.retries.toNat ∧
      plannedEta now (e.optionsAgain he.order) = e.eta.map TaskTime.text ∧
      givenExpires (e.optionsAgain he.order) = e.expires.map TaskTime.text := by
  have hlookup : ∀ key ∈ ownKeys, lookup key e.extensions = none := by
    intro key hkey
    refine lookup_eq_none fun hmem => ?_
    obtain ⟨m, hm, rfl⟩ := List.mem_map.1 hmem
    exact (he.extensions m hm).key_own hkey
  have hretries := hlookup "retries" (by decide)
  have heta := hlookup "eta" (by decide)
  have hexpires := hlookup "expires" (by decide)
  simp [givenRetries, plannedEta, givenEta, givenExpires, optionsAgain, hretries, heta, hexpires]

/-- A text has no fault as a time if and only if it is valid. -/
theorem timeFault_text {field : String} {written : Option String} :
    timeFault field (written.map TaskTime.text) = none ↔
      ∀ s ∈ written, DateText.isValid s = true := by
  cases written with
  | none => simp [timeFault]
  | some s =>
    by_cases hvalid : DateText.isValid s = true <;> simp [timeFault, TaskTime.normalize, hvalid]

/-- The only faults that building again can find are those of the times. -/
theorem Settled.firstFault {e : Envelope} (he : e.Settled) (now : Instant) :
    firstFault (checks now e.task ⟨e.argumentsAgain, he.order.arguments⟩
      (e.optionsAgain he.order)) = none ↔ e.Timely := by
  obtain ⟨-, heta, hexpires⟩ := he.given now
  have harguments : argumentsFault e.argumentsAgain = none := by
    unfold argumentsAgain
    split <;> rfl
  have hextensions : ((e.optionsAgain he.order).extensions.entries.findSome? fun m =>
      extensionFault (e.optionsAgain he.order).eta.isSome (e.optionsAgain he.order).expires.isSome
        m.1 m.2) = none :=
    List.findSome?_eq_none_iff.2 fun m hm => (he.extensions m hm).fault _ _
  have hcountdown : countdownFault now (e.optionsAgain he.order) = none := by
    unfold countdownFault
    cases givenEta (e.optionsAgain he.order) <;> rfl
  -- Of the checks only those of the two times are left.
  rw [firstFault_checks, he.task, harguments, hextensions, hcountdown, heta, hexpires]
  simp only [Option.none_or, Option.or_none, Option.or_eq_none_iff, timeFault_text]
  exact ⟨fun h => ⟨h.1, h.2⟩, fun h => ⟨h.eta, h.expires⟩⟩

/-- No two envelopes meet the same specification. -/
theorem Specified.unique {now : Instant} {id : TaskId} {task : String} {arguments : Json.Value}
    {o : TaskOptions} {e e' : Envelope} (h : Specified now id task arguments o e)
    (h' : Specified now id task arguments o e') : e = e' := by
  have hok : Function.Injective (Except.ok : String → Except Error String) :=
    fun _ _ heq => Except.ok.inj heq
  obtain ⟨a, ha, hargs, hkwargs⟩ := h.arguments
  obtain ⟨a', ha', hargs', hkwargs'⟩ := h'.arguments
  cases ha.symm.trans ha'
  have hretries : e.retries = e'.retries := by
    have heq := h.retries.trans h'.retries.symm
    exact UInt32.toNat_inj.1 (Int.ofNat.inj heq)
  -- The written times are determined too, since a time has one normal form.
  have heta := Option.map_injective hok (h.eta.symm.trans h'.eta)
  have hexpires := Option.map_injective hok (h.expires.symm.trans h'.expires)
  obtain ⟨_, _, _, _, _, _, _, _⟩ := e
  obtain ⟨_, _, _, _, _, _, _, _⟩ := e'
  simp only [mk.injEq]
  exact ⟨h.id.trans h'.id.symm, h.task.trans h'.task.symm, hargs.trans hargs'.symm,
    hkwargs.trans hkwargs'.symm, hretries, heta, hexpires, h.extensions.trans h'.extensions.symm⟩

/-- A settled envelope with valid times is what is asked for by its own contents. -/
theorem Settled.specified {e : Envelope} (he : e.Settled) (htimes : e.Timely) (now : Instant) :
    Specified now e.id e.task ⟨e.argumentsAgain, he.order.arguments⟩ (e.optionsAgain he.order)
      e := by
  obtain ⟨hretries, heta, hexpires⟩ := he.given now
  -- A time that is written already is its own normal form.
  have hwritten : ∀ (field : String) (written : Option String),
      (∀ s ∈ written, DateText.isValid s = true) →
      (written.map TaskTime.text).map (TaskTime.normalize field) = written.map .ok := by
    intro field written hvalid
    cases written with
    | none => rfl
    | some s => simp [TaskTime.normalize, hvalid s rfl]
  have hkept : ((e.optionsAgain he.order).extensions.entries.filterMap fun m =>
      (kept? m.1 m.2).map fun v => (m.1, v)) = e.extensions := by
    refine (List.filterMap_congr fun m hm => ?_).trans List.filterMap_some
    rw [(he.extensions m hm).kept]
    rfl
  have hrange := e.retries.toNat_lt
  refine ⟨rfl, rfl, he.arguments, ?_, ?_, ?_, hkept.symm⟩
  · rw [hretries]
    omega
  · rw [heta, hwritten "eta" _ htimes.eta]
  · rw [hexpires, hwritten "expires" _ htimes.expires]

/-- A settled envelope is built again as it is if and only if its times are valid. -/
theorem Settled.rebuild_iff {e : Envelope} (he : e.Settled) (now : Instant) :
    e.rebuild now he.order = .ok e ↔ e.Timely := by
  have hruns := build_runs now e.id e.task ⟨e.argumentsAgain, he.order.arguments⟩
    (e.optionsAgain he.order)
  rw [← he.firstFault now, ← hruns.ok_iff]
  constructor
  · exact fun h => ⟨e, h⟩
  · rintro ⟨e', h⟩
    have htimes := (he.firstFault now).1 (hruns.ok_iff.1 ⟨e', h⟩)
    rw [rebuild, h, (hruns.wanted_of_ok h).unique (he.specified htimes now)]

/-! ## Reading back -/

/-- Objects with the same keys are told apart in the same way. -/
theorem isIndexed_congr {members members' : List (String × Json)}
    (h : keys members = keys members') :
    Arguments.IsIndexed members ↔ Arguments.IsIndexed members' := by
  have hlength : members.length = members'.length := by
    simpa [keys] using congrArg List.length h
  rw [Arguments.IsIndexed, Arguments.IsIndexed, h, hlength]

/-- The arguments of an envelope that comes back are told apart as they were. -/
theorem Settled.arguments_reread {e : Envelope} (he : e.Settled) :
    ∃ a, Arguments.classify e.reread.argumentsAgain = .ok a ∧ e.reread.args = a.items ∧
      e.reread.kwargs = a.members := by
  have hkwargs : e.reread.kwargs = rereadMembers e.kwargs := by
    refine sort_of_ascending ?_
    rw [Ascending, keys_rereadMembers]
    exact he.order.kwargs.1
  obtain ⟨a, hclass, hargs, hmembers⟩ := he.arguments
  cases a with
  | positional items =>
    have hnone : e.reread.kwargs = [] := by
      rw [hkwargs, hmembers]
      rfl
    refine ⟨.positional e.reread.args, ?_, rfl, hnone⟩
    rw [argumentsAgain, hnone]
    rfl
  | keyword members =>
    obtain ⟨hagain, hne⟩ := Arguments.keyword_of_classify hclass
    have hsame : keys e.reread.kwargs = keys members := by
      rw [hkwargs, keys_rereadMembers, hmembers]
      rfl
    -- The keys are the same as before, so they are no indices now if they were none.
    have hne' : e.reread.kwargs ≠ [] := by
      intro hnil
      rw [hnil] at hsame
      exact hne (List.map_eq_nil_iff.1 hsame.symm)
    have hnone : Arguments.indexed? e.reread.kwargs e.reread.kwargs.length = none := by
      rw [← Option.not_isSome_iff_eq_none, Arguments.indexed?_isSome_iff, isIndexed_congr hsame,
        ← Arguments.indexed?_isSome_iff]
      rw [hagain, Arguments.classify_object] at hclass
      cases hindexed : Arguments.indexed? members members.length with
      | none => simp
      | some items =>
        rw [hindexed] at hclass
        cases hclass
    refine ⟨.keyword e.reread.kwargs, ?_, ?_, rfl⟩
    · have hreread : e.reread.argumentsAgain = .object e.reread.kwargs := by
        simp [argumentsAgain, hne']
      rw [hreread, Arguments.classify_object, hnone]
    · have hitems : e.args = [] := hargs
      simp [Envelope.reread, hitems, rereadItems, Arguments.items]

/-- Whatever comes back is in order. -/
theorem reread_inOrder (e : Envelope) : e.reread.InOrder where
  args := rereadItems_ordered e.args
  kwargs := ordered_sort (rereadMembers_ordered e.kwargs)
  extensions := ordered_sort (rereadMembers_ordered e.extensions)

/-- What comes back of a settled envelope is settled. -/
theorem Settled.reread {e : Envelope} (he : e.Settled) : e.reread.Settled := by
  have hextensions : e.reread.extensions = rereadMembers e.extensions := by
    refine sort_of_ascending ?_
    rw [Ascending, keys_rereadMembers]
    exact he.order.extensions.1
  -- Reading back changes the members one by one, and each of them stays coerced.
  have hcoerced : ∀ ms : List (String × Json), (∀ m ∈ ms, Coerced m.1 m.2) →
      ∀ m ∈ rereadMembers ms, Coerced m.1 m.2 := by
    intro ms hms
    induction ms with
    | nil => exact fun m hm => absurd hm List.not_mem_nil
    | cons m ms ih =>
      obtain ⟨hm, hms⟩ := List.forall_mem_cons.1 hms
      exact List.forall_mem_cons.2 ⟨hm.reread, ih hms⟩
  refine ⟨e.reread_inOrder, he.task, he.arguments_reread, ?_⟩
  rw [hextensions]
  exact hcoerced _ he.extensions

/-- The texts of the times are valid if and only if the times that they were written from have
plain years. -/
theorem valid_iff_plain {field : String} {time : Option TaskTime} {written : Option String}
    (h : time.map (TaskTime.normalize field) = written.map .ok) :
    (∀ s ∈ written, DateText.isValid s = true) ↔ ∀ t ∈ time, t.HasPlainYear := by
  cases time with
  | none =>
    cases written with
    | none => simp
    | some s => cases h
  | some t =>
    cases written with
    | none => cases h
    | some s =>
      have hnormalize : t.normalize field = .ok s := Option.some.inj h
      simpa using TaskTime.isValid_of_normalize hnormalize

/-- Each time that goes into the envelope was given as text, or has a year of 0 to 9999. -/
def PlainTimes (now : Instant) (o : TaskOptions) : Prop :=
  (∀ t ∈ plannedEta now o, t.HasPlainYear) ∧ ∀ t ∈ givenExpires o, t.HasPlainYear

/-- An envelope that was built is built again as it is, at any time, from its own id, task,
arguments and options, if and only if each of its times was given as text or has a year of 0 to
9999. The same is true of what comes back when the envelope is read from its text. -/
theorem build_again {now : Instant} {id : TaskId} {task : String} {arguments : Json.Value}
    {o : TaskOptions} {e : Envelope} (h : build now id task arguments o = .ok e) :
    (∀ now', e.rebuild now' (build_ordered h) = .ok e ↔ PlainTimes now o) ∧
    (arguments.json.Fits → FitsMembers o.extensions.entries → e.toJson.depth ≤ 127 →
      ∃ (e' : Envelope) (ho : e'.InOrder), ofBytes e.toBytes = .ok e' ∧
        (e.toJson.Whole → e' = e) ∧ ∀ now', e'.rebuild now' ho = .ok e' ↔ PlainTimes now o) := by
  have hspec := (build_runs now id task arguments o).wanted_of_ok h
  have hsettled := settled_of_build h
  have htimes : e.Timely ↔ PlainTimes now o := by
    rw [PlainTimes, ← valid_iff_plain hspec.eta, ← valid_iff_plain hspec.expires]
    exact ⟨fun h => ⟨h.eta, h.expires⟩, fun h => ⟨h.1, h.2⟩⟩
  refine ⟨fun now' => (hsettled.rebuild_iff now').trans htimes, ?back⟩
  case back =>
    intro hfits hfitsExt hdepth
    have hread := ofBytes_toBytes (build_sound h) (build_fits h hfits hfitsExt) hdepth
    -- The times come back as they stand there, since they are texts.
    have hsame : e.reread.Timely ↔ e.Timely :=
      ⟨fun h => ⟨h.eta, h.expires⟩, fun h => ⟨h.eta, h.expires⟩⟩
    exact ⟨e.reread, e.reread_inOrder, hread, reread_eq (build_ordered h), fun now' =>
      (hsettled.reread.rebuild_iff now').trans (hsame.trans htimes)⟩

/-- Options of which building changes nearly all. -/
def looseOptions : TaskOptions where
  retries := 2 ^ 40
  eta := some (.at ⟨1483228799, 1500000000⟩)
  expires := some (.text "2024-05-01")
  extensions := .ofList [("callbacks", .array [.string "tasks.log"]), ("chord", .null),
    ("priority", .int 3), ("taskset", .int 7), ("utc", .string "FALSE")]

/-- Keyword arguments of which two look like indices. -/
def sparseArguments : Json.Map := .ofList [("0", .int 1), ("2", .int 3)]

/-- The envelope that is built with them. -/
def tightEnvelope : Envelope where
  id := ⟨"t-1"⟩
  task := "tasks.add"
  args := []
  kwargs := [("0", .int 1), ("2", .int 3)]
  retries := 4294967295
  eta := some "2016-12-31T23:59:60.500000+00:00"
  expires := some "2024-05-01"
  extensions := [("callbacks", .array [.string "tasks.log"]), ("priority", .int 3),
    ("taskset", .string "7"), ("utc", .bool false)]

/-- The envelope is read back as it was, and it is built again at another time. With a time in the
year 10000 beside the same leap second there is no building again. -/
theorem build_again_tight :
    (∃ ho, build ⟨0, 0⟩ ⟨"t-1"⟩ "tasks.add" (.object sparseArguments) looseOptions =
        .ok tightEnvelope ∧
      ofBytes tightEnvelope.toBytes = .ok tightEnvelope ∧
      tightEnvelope.rebuild ⟨5, 0⟩ ho = .ok tightEnvelope) ∧
    ∃ e ho, build ⟨0, 0⟩ ⟨"t-1"⟩ "tasks.add" (.array [.int 2]) .farApart = .ok e ∧
      e.rebuild ⟨5, 0⟩ ho ≠ .ok e := by
  have hbuild : build ⟨0, 0⟩ ⟨"t-1"⟩ "tasks.add" (.object sparseArguments) looseOptions =
      .ok tightEnvelope := by rfl
  have hwhole : tightEnvelope.toJson.Whole := by
    simp [toJson, members, tightEnvelope, optionalMember, Whole, WholeMembers, WholeItems]
  have hplain : PlainTimes ⟨0, 0⟩ looseOptions := by
    constructor <;> decide
  have hfar : ¬ PlainTimes ⟨0, 0⟩ .farApart :=
    fun h => absurd (h.2 _ rfl) (by decide)
  have hkeywords : sparseArguments.entries = [("0", .int 1), ("2", .int 3)] := rfl
  have hextensions : looseOptions.extensions.entries = [("callbacks", .array [.string "tasks.log"]),
      ("chord", .null), ("priority", .int 3), ("taskset", .int 7), ("utc", .string "FALSE")] := rfl
  have hfits : (Json.object sparseArguments.entries).Fits := by
    simp [hkeywords, Fits, FitsMembers]
  have hfitsExt : FitsMembers looseOptions.extensions.entries := by
    simp [hextensions, Fits, FitsMembers, FitsItems]
  obtain ⟨hagain, hback⟩ := build_again hbuild
  obtain ⟨e', -, hread, hsame, -⟩ := hback hfits hfitsExt (by decide)
  obtain ⟨e, he⟩ : ∃ e, build ⟨0, 0⟩ ⟨"t-1"⟩ "tasks.add" (.array [.int 2]) .farApart = .ok e :=
    ⟨_, rfl⟩
  rw [hsame hwhole] at hread
  exact ⟨⟨_, hbuild, hread, (hagain _).2 hplain⟩, e, _, he, fun h =>
    hfar (((build_again he).1 _).1 h)⟩

end Envelope
end TaskQueue
