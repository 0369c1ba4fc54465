import Mathlib.Data.List.TakeWhile
import TaskQueue.Proofs.Json.Order
import TaskQueue.Proofs.Task.Extensions
import TaskQueue.Proofs.Text.Folding

/-!
# `TaskQueue.Proofs.Task.Building`: when an envelope is built, and which one

`Envelope.checks` lists what is looked at before an envelope is built: the name, the arguments,
each extension in the order of the keys, the countdown, and the two times. Each check is stated
for itself, from what the caller gave, and not from what the checks before it left behind. The
only thing that one has to know of another is whether there is a time already. An extension that
gives a time is not looked at if the options give that time, and the countdown is not looked at if
either of them gives the time to start.

`Envelope.Specified` says of each field of an envelope where it comes from. `Envelope.Runs` says of
one step that it fails with its fault, or has none and gives what it should; two such steps make
one (`Envelope.Runs.bind`), and building is made of six (`Envelope.build_runs`).

`Envelope.build_as_specified` is the main result. The first check that fails gives the error. If
none fails, there is an envelope, and it is the specified one.
-/

set_option autoImplicit false

namespace TaskQueue

open Json Members

namespace Envelope

/-! ## What the caller gives -/

/-- The number of retries: an extension goes before the option. -/
def givenRetries (o : TaskOptions) : Int :=
  ((lookup "retries" o.extensions.entries).bind retries?).getD o.retries

/-- The time to start that is given as such: the option goes before an extension. -/
def givenEta (o : TaskOptions) : Option TaskTime :=
  o.eta.or ((lookup "eta" o.extensions.entries).bind moment?)

/-- The time to give up: the option goes before an extension. -/
def givenExpires (o : TaskOptions) : Option TaskTime :=
  o.expires.or ((lookup "expires" o.extensions.entries).bind moment?)

/-- The end of a countdown. Its milliseconds have to fit 63 bits, and its end has to be an instant
of the calendar. -/
def countdownEnd? (now : Instant) (seconds : Nat) : Option Instant :=
  if seconds * 1000 ≤ 2 ^ 63 - 1 then now.after? seconds else none

/-- The time to start: one that is given as such, or else the end of the countdown. -/
def plannedEta (now : Instant) (o : TaskOptions) : Option TaskTime :=
  (givenEta o).or ((o.countdown.bind (countdownEnd? now)).map TaskTime.at)

/-! ## The checks -/

/-- The fault of a name without any character but white space. -/
def nameFault (task : String) : Option Error :=
  if task.toList.any fun c => !Text.isBlank c then none
  else some (.invalidArguments "task name must not be empty")

/-- The fault of arguments that are no container, nor `null`. -/
def argumentsFault : Json → Option Error
  | .null | .array _ | .object _ => none
  | other => some (.invalidArguments ("args should be an array or an object, got " ++ other.text))

/-- The fault of a countdown without an end. It does not matter if a time to start is given. -/
def countdownFault (now : Instant) (o : TaskOptions) : Option Error :=
  match givenEta o, o.countdown with
  | none, some seconds =>
    if (countdownEnd? now seconds).isSome then none
    else some (.invalidDate "countdown" (toString seconds ++ " seconds from now is out of range"))
  | _, _ => none

/-- The fault of a time that cannot be written. -/
def timeFault (field : String) (time : Option TaskTime) : Option Error :=
  time.bind fun t =>
    match t.normalize field with
    | .ok _ => none
    | .error e => some e

/-- What is looked at, in this order. -/
def checks (now : Instant) (task : String) (arguments : Json.Value) (o : TaskOptions) :
    List (Option Error) :=
  [nameFault task, argumentsFault arguments.json] ++
    o.extensions.entries.map (fun m => extensionFault o.eta.isSome o.expires.isSome m.1 m.2) ++
    [countdownFault now o, timeFault "eta" (plannedEta now o), timeFault "expires" (givenExpires o)]

/-- The envelope that the caller asks for. -/
structure Specified (now : Instant) (id : TaskId) (task : String) (arguments : Json.Value)
    (o : TaskOptions) (e : Envelope) : Prop where
  id : e.id = id
  task : e.task = task
  arguments :
    ∃ a, Arguments.classify arguments.json = .ok a ∧ e.args = a.items ∧ e.kwargs = a.members
  retries : (e.retries.toNat : Int) = max 0 (min (givenRetries o) (2 ^ 32 - 1))
  eta : (plannedEta now o).map (TaskTime.normalize "eta") = e.eta.map .ok
  expires : (givenExpires o).map (TaskTime.normalize "expires") = e.expires.map .ok
  extensions : e.extensions =
    o.extensions.entries.filterMap fun m => (kept? m.1 m.2).map fun v => (m.1, v)

/-! ## The steps -/

/-- A step fails with its fault, and if it has none, it gives what it should. -/
def Runs {α : Type} (step : Except Error α) (fault : Option Error) (wanted : α → Prop) : Prop :=
  match fault with
  | some e => step = .error e
  | none => ∃ a, step = .ok a ∧ wanted a

section
variable {α : Type} {step : Except Error α} {fault : Option Error} {wanted : α → Prop}

/-- A step fails with an error if and only if that is its fault. -/
theorem Runs.error_iff (h : Runs step fault wanted) {e : Error} :
    step = .error e ↔ fault = some e := by
  cases fault with
  | some e' =>
    have hstep : step = .error e' := h
    simp [hstep]
  | none =>
    obtain ⟨a, hstep, -⟩ := h
    simp [hstep]

/-- A step succeeds if and only if it has no fault. -/
theorem Runs.ok_iff (h : Runs step fault wanted) : (∃ a, step = .ok a) ↔ fault = none := by
  cases fault with
  | some e =>
    have hstep : step = .error e := h
    simp [hstep]
  | none =>
    obtain ⟨a, hstep, -⟩ := h
    simp [hstep]

/-- A step that succeeds gives what it should. -/
theorem Runs.wanted_of_ok (h : Runs step fault wanted) {a : α} (ha : step = .ok a) : wanted a := by
  have hnone : fault = none := h.ok_iff.1 ⟨a, ha⟩
  subst hnone
  obtain ⟨a', hstep, hwanted⟩ := h
  rw [ha] at hstep
  cases hstep
  exact hwanted

end

/-- Of two steps, the first fault counts. -/
theorem Runs.bind {α β : Type} {step : Except Error α} {fault fault' : Option Error}
    {wanted : α → Prop} {next : α → Except Error β} {wanted' : β → Prop}
    (h : Runs step fault wanted) (hnext : ∀ a, wanted a → Runs (next a) fault' wanted') :
    Runs (step >>= next) (fault.or fault') wanted' := by
  cases fault with
  | some e =>
    have hstep : step = .error e := h
    rw [hstep]
    rfl
  | none =>
    obtain ⟨a, hstep, ha⟩ := h
    rw [hstep]
    exact hnext a ha

/-- The name comes first. -/
theorem name_runs {α : Type} {task : String} {rest : Except Error α} {fault : Option Error}
    {wanted : α → Prop} (h : Runs rest fault wanted) :
    Runs (if Text.trimChars task.toList = [] then
        .error (.invalidArguments "task name must not be empty") else rest)
      ((nameFault task).or fault) wanted := by
  have hname : Text.trimChars task.toList = [] ↔
      ¬(task.toList.any fun c => !Text.isBlank c) = true := by
    rw [Text.trimChars_eq_nil]
    simp
  by_cases hblank : (task.toList.any fun c => !Text.isBlank c) = true
  · rw [if_neg fun hnil => hname.1 hnil hblank, nameFault, if_pos hblank]
    exact h
  · rw [if_pos (hname.2 hblank), nameFault, if_neg hblank]
    rfl

/-- The arguments are classified unless they are neither a list nor an object. -/
theorem classify_runs (arguments : Json) :
    Runs (Arguments.classify arguments) (argumentsFault arguments)
      fun a => Arguments.classify arguments = .ok a := by
  cases arguments with
  | object members =>
    simp only [Runs, argumentsFault, Arguments.classify]
    cases Arguments.indexed? members members.length <;> exact ⟨_, rfl, rfl⟩
  | null | array items => exact ⟨_, rfl, rfl⟩
  | bool _ | int _ | float _ | string _ => rfl

/-- All extensions are applied unless one of them is at fault, and then the first such is reported.
-/
theorem applyAll_runs (s : Settings) {given : List (String × Json)} (h : Ascending given) :
    Runs (s.applyAll given)
      (given.findSome? fun m => extensionFault s.eta.isSome s.expires.isSome m.1 m.2)
      fun s' => s' = s.afterAll given := by
  rw [Settings.applyAll_eq s h.nodup]
  cases given.findSome? fun m => extensionFault s.eta.isSome s.expires.isSome m.1 m.2 with
  | some e => rfl
  | none => exact ⟨_, rfl, rfl⟩

/-- A delay is as long as can be if its milliseconds just fit 63 bits. -/
theorem countdown_eq (now : Instant) (seconds : Nat) :
    TaskTime.countdown now seconds =
      match countdownEnd? now seconds with
      | some t => .ok t
      | none => .error (.invalidDate "countdown"
          (toString seconds ++ " seconds from now is out of range")) := by
  have hlimit : seconds ≤ TaskTime.longestDelay ↔ seconds * 1000 ≤ 2 ^ 63 - 1 :=
    Nat.le_div_iff_mul_le (by decide)
  simp only [TaskTime.countdown, countdownEnd?, hlimit]
  rfl

/-- The start time is the planned one unless the countdown is at fault. -/
theorem startTime_runs (now : Instant) (o : TaskOptions) :
    Runs (startTime now (givenEta o) o.countdown) (countdownFault now o)
      fun t => t = plannedEta now o := by
  unfold startTime countdownFault plannedEta
  cases givenEta o with
  | some t => cases o.countdown <;> exact ⟨_, rfl, rfl⟩
  | none =>
    cases o.countdown with
    | none => exact ⟨_, rfl, rfl⟩
    | some seconds =>
      simp only [countdown_eq, Option.bind_some]
      cases countdownEnd? now seconds with
      | none => rfl
      | some t => exact ⟨_, rfl, rfl⟩

/-- A time is written in its normal form unless it has none. -/
theorem writtenTime_runs (field : String) (time : Option TaskTime) :
    Runs (writtenTime field time) (timeFault field time)
      fun written => time.map (TaskTime.normalize field) = written.map .ok := by
  cases time with
  | none => exact ⟨none, rfl, rfl⟩
  | some t =>
    simp only [writtenTime, timeFault, Option.bind_some]
    cases hwritten : t.normalize field with
    | error e => rfl
    | ok s => exact ⟨some s, rfl, by rw [Option.map_some, hwritten]; rfl⟩

/-- Negative retries become 0, and too many become as many as there can be. -/
theorem clampRetries_eq (n : Int) :
    ((clampRetries n).toNat : Int) = max 0 (min n (2 ^ 32 - 1)) := by
  have hmax : maxRetries = 2 ^ 32 - 1 := rfl
  have hfits : min n.toNat (2 ^ 32 - 1) < 2 ^ 32 := by omega
  rw [clampRetries, hmax, UInt32.toNat_ofNat_of_lt' hfits]
  omega

/-! ## Building -/

/-- The first fault among the checks. -/
def firstFault (cs : List (Option Error)) : Option Error := cs.findSome? fun c => c

/-- The first fault of a list is its head if that is one, else the first of the rest. -/
theorem firstFault_cons (c : Option Error) (cs : List (Option Error)) :
    firstFault (c :: cs) = c.or (firstFault cs) := by
  cases c <;> rfl

/-- The faults of a first list come before those of a second. -/
theorem firstFault_append (cs ds : List (Option Error)) :
    firstFault (cs ++ ds) = (firstFault cs).or (firstFault ds) :=
  List.findSome?_append

/-- All checks before the one with the first fault pass. -/
theorem firstFault_eq_some {cs : List (Option Error)} {e : Error} :
    firstFault cs = some e ↔
      ∃ before after, cs = before ++ some e :: after ∧ ∀ c ∈ before, c = none := by
  constructor
  · intro h
    obtain ⟨before, c, after, hcs, rfl, hbefore⟩ := List.findSome?_eq_some_iff.1 h
    exact ⟨before, after, hcs, hbefore⟩
  · rintro ⟨before, after, rfl, hbefore⟩
    exact List.findSome?_eq_some_iff.2 ⟨before, some e, after, rfl, rfl, hbefore⟩

/-- The checks are those of the steps. -/
theorem firstFault_checks (now : Instant) (task : String) (arguments : Json.Value)
    (o : TaskOptions) :
    firstFault (checks now task arguments o) =
      (nameFault task).or ((argumentsFault arguments.json).or
        ((o.extensions.entries.findSome? fun m =>
          extensionFault o.eta.isSome o.expires.isSome m.1 m.2).or
        ((countdownFault now o).or ((timeFault "eta" (plannedEta now o)).or
        ((timeFault "expires" (givenExpires o)).or none))))) := by
  -- The extensions are checked in the order in which they are applied.
  have hextensions : firstFault (o.extensions.entries.map fun m =>
      extensionFault o.eta.isSome o.expires.isSome m.1 m.2) =
      o.extensions.entries.findSome? fun m =>
        extensionFault o.eta.isSome o.expires.isSome m.1 m.2 :=
    List.findSome?_map
  simp only [checks, List.cons_append, List.nil_append, firstFault_cons, firstFault_append,
    hextensions]
  rfl

/-- Building runs through the checks. -/
theorem build_runs (now : Instant) (id : TaskId) (task : String) (arguments : Json.Value)
    (o : TaskOptions) :
    Runs (build now id task arguments o) (firstFault (checks now task arguments o))
      (Specified now id task arguments o) := by
  rw [firstFault_checks]
  refine name_runs ((classify_runs arguments.json).bind fun a ha => ?_)
  refine (applyAll_runs _ o.extensions.ascending).bind fun s hs => ?_
  subst hs
  refine (startTime_runs now o).bind fun start hstart => ?_
  subst hstart
  refine (writtenTime_runs "eta" _).bind fun eta heta => ?_
  refine (writtenTime_runs "expires" _).bind fun expires hexpires => ?_
  exact ⟨_, rfl, rfl, rfl, ⟨a, ha, rfl, rfl⟩, clampRetries_eq _, heta, hexpires, rfl⟩

/-- The envelope of a task is built if and only if no check fails, and then it is the one that was
asked for. Otherwise the first check that fails gives the error. -/
theorem build_as_specified (now : Instant) (id : TaskId) (task : String) (arguments : Json.Value)
    (o : TaskOptions) :
    (∀ e, build now id task arguments o = .error e ↔
      ∃ before after, checks now task arguments o = before ++ some e :: after ∧
        ∀ c ∈ before, c = none) ∧
    ((∃ e, build now id task arguments o = .ok e) ↔
      ∀ c ∈ checks now task arguments o, c = none) ∧
    ∀ e, build now id task arguments o = .ok e → Specified now id task arguments o e := by
  have hruns := build_runs now id task arguments o
  refine ⟨fun e => ?_, ?_, fun e he => hruns.wanted_of_ok he⟩
  · rw [hruns.error_iff, firstFault_eq_some]
  · rw [hruns.ok_iff]
    exact List.findSome?_eq_none_iff

/-- Options that set the time to start themselves, so that the extension does not count, nor the
countdown. -/
def mixedOptions : TaskOptions :=
  { eta := some (.text "2024-05-01"), countdown := some (2 ^ 63), retries := 7
    extensions := .ofList [("chord", .int 5), ("eta", .null), ("retries", .int (-3)),
      ("taskset", .null), ("utc", .int 0)] }

/-- An envelope is built with these options, but not with one more extension that is refused. -/
theorem build_as_specified_mixed :
    (∃ e, build ⟨0, 0⟩ ⟨"t-1"⟩ "tasks.add" (.array [.int 2]) mixedOptions = .ok e ∧
      e.retries = 0 ∧ e.eta = some "2024-05-01" ∧
      e.extensions = [("chord", .string "5"), ("utc", .bool false)]) ∧
    build ⟨0, 0⟩ ⟨"t-1"⟩ "tasks.add" (.array [.int 2])
        (mixedOptions.extension "id" (.int 1)) =
      .error (.invalidArguments "extension \x60id\x60 would overwrite an envelope field") := by
  obtain ⟨-, hmade, hspecified⟩ :=
    build_as_specified ⟨0, 0⟩ ⟨"t-1"⟩ "tasks.add" (.array [.int 2]) mixedOptions
  obtain ⟨hfails, -⟩ := build_as_specified ⟨0, 0⟩ ⟨"t-1"⟩ "tasks.add" (.array [.int 2])
    (mixedOptions.extension "id" (.int 1))
  obtain ⟨e, he⟩ := hmade.2 (by decide)
  have hretries := (hspecified e he).retries
  have hgiven : givenRetries mixedOptions = -3 := by decide
  have heta : some (Except.ok "2024-05-01" : Except Error String) = e.eta.map .ok :=
    (hspecified e he).eta
  refine ⟨⟨e, he, ?_, ?_, (hspecified e he).extensions⟩,
    (hfails _).2 ⟨[none, none, none, none], _, rfl, ?_⟩⟩
  · rw [hgiven] at hretries
    have hzero : e.retries.toNat = 0 := by omega
    exact UInt32.toNat_inj.1 hzero
  · cases hwritten : e.eta with
    | none =>
      rw [hwritten] at heta
      cases heta
    | some s =>
      rw [hwritten] at heta
      cases heta
      rfl
  · simp

end Envelope
end TaskQueue
