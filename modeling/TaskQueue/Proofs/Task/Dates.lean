import TaskQueue.Proofs.Task.Rebuilding
import TaskQueue.Proofs.Time.Forms

/-!
# `TaskQueue.Proofs.Task.Dates`: texts as the times of a task

A text is taken as a time if it names a date, and is then sent as it was given. The caller can give
it as an option, or as an extension under the key of the field. `Envelope.build_extension` says that
it does not matter which: an extension that is a text has no fault of its own, and it counts as the
option would. `Envelope.build_text` says that of two texts in the same place nothing else depends on
which one it is. `TaskTime.text_taken_iff` puts this together with the forms of a date.
-/

set_option autoImplicit false

namespace TaskQueue

open Json Members

/-! ## The two times -/

/-- The times that a task can have. -/
inductive TimeField where
  | eta
  | expires

namespace TimeField

/-- The key of the time, in an envelope and among the extensions. -/
def name : TimeField → String
  | eta => "eta"
  | expires => "expires"

/-- The time in the options. -/
def given (o : TaskOptions) : TimeField → Option TaskTime
  | eta => o.eta
  | expires => o.expires

/-- The options with the time. -/
def set (o : TaskOptions) (t : TaskTime) : TimeField → TaskOptions
  | eta => { o with eta := some t }
  | expires => { o with expires := some t }

/-- The envelope with the time as it is written there. -/
def replace (e : Envelope) (written : String) : TimeField → Envelope
  | eta => { e with eta := some written }
  | expires => { e with expires := some written }

end TimeField

namespace Envelope

/-- The options matter in as much as the settings that come of them, and the countdown. -/
theorem build_congr {o o' : TaskOptions}
    (hsettings : Settings.applyAll ⟨o.retries, o.eta, o.expires, []⟩ o.extensions.entries =
      Settings.applyAll ⟨o'.retries, o'.eta, o'.expires, []⟩ o'.extensions.entries)
    (hcountdown : o.countdown = o'.countdown) (now : Instant) (id : TaskId) (task : String)
    (arguments : Json.Value) : build now id task arguments o = build now id task arguments o' := by
  simp only [build, hsettings, hcountdown]

/-- An extension that sets a time has no fault if it is a text, nor if the options set that time.
The others do not depend on it. -/
theorem extensionFault_set (f : TimeField) {o : TaskOptions} (hnone : f.given o = none)
    (s : String) :
    extensionFault o.eta.isSome o.expires.isSome f.name (.string s) = none ∧
      ∀ key value,
        extensionFault (f.set o (.text s)).eta.isSome (f.set o (.text s)).expires.isSome key value =
          if key = f.name then none else
            extensionFault o.eta.isSome o.expires.isSome key value := by
  cases f with
  | eta =>
    have heta : o.eta = none := hnone
    refine ⟨by rw [heta]; rfl, fun key value => ?_⟩
    by_cases hkey : key = "eta"
    · subst hkey
      rfl
    -- Every other key is checked as before, for only this field was set.
    · simp only [extensionFault, TimeField.name, if_neg hkey]
      rfl
  | expires =>
    have hexpires : o.expires = none := hnone
    refine ⟨by rw [hexpires]; rfl, fun key value => ?_⟩
    by_cases hkey : key = "expires"
    · subst hkey
      rfl
    · simp only [extensionFault, TimeField.name, if_neg hkey]
      rfl

/-- A text among the extensions counts like one among the options. -/
theorem applyAll_insert (f : TimeField) {o : TaskOptions} (hnone : f.given o = none)
    (s : String) :
    Settings.applyAll ⟨o.retries, o.eta, o.expires, []⟩
        (Members.insert f.name (.string s) o.extensions.entries) =
      Settings.applyAll ⟨o.retries, (f.set o (.text s)).eta, (f.set o (.text s)).expires, []⟩
        o.extensions.entries := by
  have ho := o.extensions.ascending
  have hinserted := (ho.insert f.name (.string s)).nodup
  obtain ⟨htext, hfault⟩ := extensionFault_set f hnone s
  -- Neither the member that is set nor one that it replaces has a fault, and neither is kept.
  have hfaults : (Members.insert f.name (.string s) o.extensions.entries).findSome? (fun m =>
      extensionFault o.eta.isSome o.expires.isSome m.1 m.2) =
      o.extensions.entries.findSome? fun m => extensionFault (f.set o (.text s)).eta.isSome
        (f.set o (.text s)).expires.isSome m.1 m.2 := by
    rw [← List.head?_filterMap, ← List.head?_filterMap]
    refine congrArg List.head? (ho.filterMap_insert htext (fun w => ?_) fun m hm => ?_)
    · rw [hfault, if_pos rfl]
    · rw [hfault, if_neg hm]
  have hkept : (Members.insert f.name (.string s) o.extensions.entries).filterMap (fun m =>
      (kept? m.1 m.2).map fun v => (m.1, v)) =
      o.extensions.entries.filterMap fun m => (kept? m.1 m.2).map fun v => (m.1, v) :=
    ho.filterMap_insert (by cases f <;> rfl) (fun _ => by cases f <;> rfl) fun _ _ => rfl
  have hafter : Settings.afterAll ⟨o.retries, o.eta, o.expires, []⟩
      (Members.insert f.name (.string s) o.extensions.entries) =
      Settings.afterAll ⟨o.retries, (f.set o (.text s)).eta, (f.set o (.text s)).expires, []⟩
        o.extensions.entries := by
    have hmoment : moment? (.string s) = some (.text s) := rfl
    unfold Settings.afterAll
    rw [hkept]
    simp only [lookup_insert]
    cases f with
    | eta =>
      have heta : o.eta = none := hnone
      simp [TimeField.name, TimeField.set, heta, hmoment]
    | expires =>
      have hexpires : o.expires = none := hnone
      simp [TimeField.name, TimeField.set, hexpires, hmoment]
  rw [Settings.applyAll_eq _ hinserted, Settings.applyAll_eq _ ho.nodup, hafter]
  simp only [hfaults]

/-- It does not matter whether a text is given as an extension or as an option. -/
theorem build_extension (f : TimeField) {o : TaskOptions} (hnone : f.given o = none) (s : String)
    (now : Instant) (id : TaskId) (task : String) (arguments : Json.Value) :
    build now id task arguments (o.extension f.name (.string s)) =
      build now id task arguments (f.set o (.text s)) := by
  refine build_congr ?_ (by cases f <;> rfl) now id task arguments
  have hsame := applyAll_insert f hnone s
  cases f <;> exact hsame

/-- A text is looked at in one check, and the others do not depend on it. -/
theorem checks_set (f : TimeField) (now : Instant) (task : String) (arguments : Json.Value)
    (o : TaskOptions) :
    ∃ before after, ∀ s : String, checks now task arguments (f.set o (.text s)) =
      before ++ timeFault f.name (some (.text s)) :: after := by
  cases f with
  | eta =>
    refine ⟨[nameFault task, argumentsFault arguments.json] ++
      o.extensions.entries.map (fun m => extensionFault true o.expires.isSome m.1 m.2) ++ [none],
      [timeFault "expires" (givenExpires o)], fun s => ?_⟩
    -- The countdown does not count beside the text.
    have hcountdown : countdownFault now (TimeField.set o (.text s) .eta) = none := by
      unfold countdownFault
      cases o.countdown <;> rfl
    rw [checks, hcountdown, List.append_assoc, List.append_assoc, List.append_assoc]
    rfl
  | expires =>
    refine ⟨[nameFault task, argumentsFault arguments.json] ++
      o.extensions.entries.map (fun m => extensionFault o.eta.isSome true m.1 m.2) ++
        [countdownFault now o, timeFault "eta" (plannedEta now o)], [], fun s => ?_⟩
    rw [checks, List.append_assoc, List.append_assoc, List.append_assoc]
    rfl

/-- If nothing is wrong with one text, another has only itself to blame. -/
theorem firstFault_set (f : TimeField) {now : Instant} {task : String}
    {arguments : Json.Value} {o : TaskOptions} {other : String}
    (h : firstFault (checks now task arguments (f.set o (.text other))) = none) (s : String) :
    firstFault (checks now task arguments (f.set o (.text s))) =
      timeFault f.name (some (.text s)) := by
  obtain ⟨before, after, hchecks⟩ := checks_set f now task arguments o
  rw [hchecks, firstFault_append, firstFault_cons] at h ⊢
  simp only [Option.or_eq_none_iff] at h
  rw [h.1, h.2.2, Option.none_or, Option.or_none]

/-- The specified envelope has the text as it is written, and is otherwise the same. -/
theorem specified_set (f : TimeField) {now : Instant} {id : TaskId} {task : String}
    {arguments : Json.Value} {o : TaskOptions} {other s written : String} {e : Envelope}
    (h : Specified now id task arguments (f.set o (.text other)) e)
    (hs : (TaskTime.text s).normalize f.name = .ok written) :
    Specified now id task arguments (f.set o (.text s)) (f.replace e written) := by
  cases f with
  | eta => exact { h with eta := congrArg some hs }
  | expires => exact { h with expires := congrArg some hs }

/-- If an envelope can be built with one text, another text decides only whether one can be built
with it, and what stands in its place. -/
theorem build_text (f : TimeField) {o : TaskOptions} {now : Instant} {id : TaskId} {task : String}
    {arguments : Json.Value} {other : String} {e : Envelope}
    (h : build now id task arguments (f.set o (.text other)) = .ok e) (s : String) :
    build now id task arguments (f.set o (.text s)) =
      ((TaskTime.text s).normalize f.name).map (f.replace e) := by
  have hother := build_runs now id task arguments (f.set o (.text other))
  have hruns := build_runs now id task arguments (f.set o (.text s))
  -- Only the check of the text can fail, since with the other text none does.
  have hfault := firstFault_set f (hother.ok_iff.1 ⟨e, h⟩) s
  rw [timeFault, Option.bind_some] at hfault
  cases hwritten : (TaskTime.text s).normalize f.name with
  | error reason =>
    rw [hwritten] at hfault
    exact hruns.error_iff.2 hfault
  | ok written =>
    rw [hwritten] at hfault
    obtain ⟨e', he'⟩ := hruns.ok_iff.2 hfault
    rw [he', (hruns.wanted_of_ok he').unique (specified_set f (hother.wanted_of_ok h) hwritten)]
    rfl

end Envelope

open DateText (NamesDate)

/-- A text is taken as a time if and only if it names a date, and is then sent as it was given.
Otherwise the error names the field. An extension that gives the text does what the option does. If
an envelope can be built with some text there, then with any other the result is the same but for
that text: the envelope has it in its place, or the building fails with its error. -/
theorem TaskTime.text_taken_iff (s : String) :
    (∀ field written, (text s).normalize field = .ok written ↔
      NamesDate s.toList ∧ written = s) ∧
    (∀ field e, (text s).normalize field = .error e ↔ ¬NamesDate s.toList ∧
      e = .invalidDate field (Error.ticked s ++ " is not a valid date")) ∧
    ∀ (f : TimeField) {o : TaskOptions}, f.given o = none →
      ∀ (now : Instant) (id : TaskId) (task : String) (arguments : Json.Value),
        Envelope.build now id task arguments (o.extension f.name (.string s)) =
          Envelope.build now id task arguments (f.set o (.text s)) ∧
        ∀ other e,
          Envelope.build now id task arguments (o.extension f.name (.string other)) = .ok e →
          Envelope.build now id task arguments (o.extension f.name (.string s)) =
            ((text s).normalize f.name).map (f.replace e) := by
  have hnormalize (field : String) : (text s).normalize field =
      if NamesDate s.toList then .ok s
      else .error (.invalidDate field (Error.ticked s ++ " is not a valid date")) := by
    simp only [normalize, DateText.isValid_iff, invalid]
  refine ⟨fun field written => ?ok, fun field e => ?error, fun f o hnone now id task arguments =>
    ⟨Envelope.build_extension f hnone s now id task arguments, fun other e h => ?other⟩⟩
  case ok =>
    rw [hnormalize]
    split <;> simp [*, eq_comm]
  case error =>
    rw [hnormalize]
    split <;> simp [*, eq_comm]
  case other =>
    rw [Envelope.build_extension f hnone] at h ⊢
    exact Envelope.build_text f h s

/-- There was a 29th of February in 2000, which ended with a leap second here, and none in 1900. -/
theorem TaskTime.text_taken_iff_leap :
    let build := fun s => Envelope.build ⟨0, 0⟩ ⟨"t-1"⟩ "tasks.add" (.array [.int 2])
      ((TaskOptions.utc {} true).extension "expires" (.string s))
    (∃ e, build "2000-02-29 23:59:60.5" = .ok e ∧ e.expires = some "2000-02-29 23:59:60.5") ∧
      build "1900-02-29 23:59:60.5" = .error (.invalidDate "expires"
        "\x601900-02-29 23:59:60.5\x60 is not a valid date") := by
  intro build
  obtain ⟨e, he⟩ : ∃ e, build "2024-05-01" = .ok e := ⟨_, rfl⟩
  obtain ⟨htaken, -, hbuilt⟩ := TaskTime.text_taken_iff "2000-02-29 23:59:60.5"
  obtain ⟨-, hrefused, hfailed⟩ := TaskTime.text_taken_iff "1900-02-29 23:59:60.5"
  have hleap := (hbuilt .expires rfl _ _ _ _).2 _ e he
  have hnone := (hfailed .expires rfl _ _ _ _).2 _ e he
  rw [(htaken TimeField.expires.name _).2 ⟨by decide, rfl⟩] at hleap
  rw [(hrefused TimeField.expires.name _).2 ⟨by decide, rfl⟩] at hnone
  exact ⟨⟨_, hleap, rfl⟩, hnone⟩

end TaskQueue
