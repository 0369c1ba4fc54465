import TaskQueue.Proofs.Client.Polling
import TaskQueue.Proofs.Dialogue
import TaskQueue.Redis.Connector
import TaskQueue.Redis.Server

/-!
# `TaskQueue.Proofs.Redis.Keeping`: what a fetch from Redis reports and keeps

A fetch from Redis reads the key of the task, and deletes it only if it was asked to and the value
is a JSON object. `Redis.Server.found` says what the server has for a task, and
`Connector.fetch_triple` that a fetch reports it. If a fetch reports something else, then a
command failed or the server could not be reached. A fetch that does not get to delete leaves the
key as it is, whatever fails on the way. `Connector.fetch_asks` says which requests it makes.
-/

set_option autoImplicit false

namespace TaskQueue
namespace Redis

open Attempt (Outcome)

namespace Server

/-- What a server has for a task, as a fetch reports it. -/
def found (s : Server) (id : TaskId) : Found :=
  match s.keys.get? id.resultKey with
  | none => .ok none
  | some (.string value) =>
    (Connector.readValue id.resultKey value).map fun text => some (.ofJsonText text)
  | some (.list _) => .error (.consume wrongType)

/-- The URL leads to the server, and no command fails. -/
def Calm (s : Server) (url : String) : Prop :=
  s.listening = true ∧ s.failing = [] ∧ (s.accept url).1 = .ok ()

/-- The command introduces a client. -/
def Introduces : Command → Prop
  | .auth .. | .select _ => True
  | _ => False

/-- What a client sends first introduces it, and does nothing else. -/
theorem introduction_introduces (url : Url) : ∀ c ∈ introduction url, Introduces c := by
  intro c hc
  unfold introduction at hc
  simp only [List.mem_append] at hc
  -- The password comes first and the database second, and either may be missing.
  rcases hc with hc | hc
  · split at hc
    · cases hc
    · rw [List.mem_singleton.1 hc]
      trivial
  · split at hc
    · split at hc
      · cases hc
      · rw [List.mem_singleton.1 hc]
        trivial
    · cases hc

end Server

variable {s₀ s : Server} {key : String}

/-- The settings of the server and the value of the key are as they were. -/
structure Kept (s₀ : Server) (key : String) (s : Server) : Prop where
  listening : s.listening = s₀.listening
  failing : s.failing = s₀.failing
  value : s.keys.get? key = s₀.keys.get? key

/-! ## Commands -/

/-- A command is refused, it fails, or it is executed; in any case it is logged at most. -/
theorem call_cases (h : Kept s₀ key s) (c : Command) :
    (∃ reason s', s.call c = (.error reason, s') ∧ Kept s₀ key s' ∧
      (s₀.listening = false ∨ s₀.failing ≠ [])) ∨
    ∃ s', s.call c = s'.execute c ∧ Kept s₀ key s' := by
  -- What is carried out is written down first, which leaves the keys alone.
  have hlogged : Kept s₀ key { s with log := s.log ++ [c] } := ⟨h.listening, h.failing, h.value⟩
  unfold Server.call
  split
  · rename_i hdown
    rw [Bool.not_eq_true', h.listening] at hdown
    exact .inl ⟨_, _, rfl, h, .inl hdown⟩
  · dsimp only
    split
    · rename_i reply hfail
      refine .inl ⟨_, _, rfl, hlogged, .inr fun hnil => ?_⟩
      rw [← h.failing] at hnil
      simp [Server.failure?, hnil] at hfail
    · exact .inr ⟨_, rfl, hlogged⟩

/-- A client that introduces itself changes no value. -/
theorem callAll_kept {cs : List Command} (hcs : ∀ c ∈ cs, Server.Introduces c)
    (h : Kept s₀ key s) : Kept s₀ key (s.callAll cs).2 := by
  induction cs generalizing s with
  | nil => exact h
  | cons c rest ih =>
    have hc := hcs c List.mem_cons_self
    have hrest := fun x hx => hcs x (List.mem_cons_of_mem _ hx)
    rw [Server.callAll]
    rcases call_cases h c with ⟨reason, s', hcall, hkept, -⟩ | ⟨s', hcall, hkept⟩
    · rw [hcall]
      exact hkept
    · cases c with
      -- Neither command touches a key, and there is no other that introduces a client.
      | auth login password =>
        rw [hcall]
        exact ih hrest hkept
      | select n =>
        rw [hcall]
        exact ih hrest hkept
      | _ => cases hc

/-- Dialling changes no value. -/
theorem accept_kept (h : Kept s₀ key s) (url : String) : Kept s₀ key (s.accept url).2 := by
  unfold Server.accept
  split
  · exact h
  · split
    · exact callAll_kept (Server.introduction_introduces _) h
    · exact h

/-- Whether a client can introduce itself is up to the settings of the server. -/
theorem callAll_congr {s' : Server} (hl : s'.listening = s.listening)
    (hf : s'.failing = s.failing) {cs : List Command} (hcs : ∀ c ∈ cs, Server.Introduces c) :
    (s'.callAll cs).1 = (s.callAll cs).1 := by
  induction cs generalizing s s' with
  | nil => rfl
  | cons c rest ih =>
    have hc := hcs c List.mem_cons_self
    have hrest := fun x hx => hcs x (List.mem_cons_of_mem _ hx)
    have hfail : ∀ t : Server, t.failure? c = (t.failing.find? fun f => f.1 == c.name).map (·.2) :=
      fun _ => rfl
    -- Whether a command is refused or fails is read from the settings alone, which both share.
    rw [Server.callAll, Server.callAll, Server.call, Server.call, hl]
    cases hup : s.listening with
    | false => rfl
    | true =>
      simp only [hfail, hf, Bool.not_true, Bool.false_eq_true, if_false]
      cases (s.failing.find? fun f => f.1 == c.name).map (·.2) with
      | some reply => rfl
      | none =>
        cases c with
        | auth login password => exact ih rfl rfl hrest
        | select n => exact ih rfl rfl hrest
        | _ => cases hc

/-- Whether a client is let in depends on whether the server listens and on what it refuses, not on
its keys. -/
theorem accept_congr {s' : Server} (hl : s'.listening = s.listening) (hf : s'.failing = s.failing)
    (url : String) : (s'.accept url).1 = (s.accept url).1 := by
  unfold Server.accept
  split
  · rfl
  · rename_i u _
    rw [hl]
    split
    · exact callAll_congr hl hf (Server.introduction_introduces u)
    · rfl

/-- What is found for a task is up to the value of its key. -/
theorem Kept.found {id : TaskId} (h : Kept s₀ id.resultKey s) : s.found id = s₀.found id := by
  rw [Server.found, Server.found, h.value]

/-- A calm server stays calm. -/
theorem Kept.calm {url : String} (h : Kept s₀ key s) (hcalm : s₀.Calm url) : s.Calm url :=
  ⟨h.listening.trans hcalm.1, h.failing.trans hcalm.2.1,
    (accept_congr h.listening h.failing url).trans hcalm.2.2⟩

/-! ## Requests in a dialogue -/

/-- The server could not be reached, or a command failed. -/
def Failed (s₀ : Server) (key url : String) (s : Server) : Prop :=
  Kept s₀ key s ∧ ¬ s₀.Calm url

/-- Dialling changes no value, and fails only if the server cannot be reached. -/
theorem dial_triple (url : String) :
    Attempt.Triple Server.answer (Kept s₀ key) (dial url) (fun _ => Kept s₀ key)
      (fun e s => (∃ reason, e = .connection reason) ∧ Failed s₀ key url s) := by
  refine Dialogue.Triple.ask (M := fun r s => Kept s₀ key s ∧ r = (s₀.accept url).1)
    (fun s h => ⟨accept_kept h url, accept_congr h.listening h.failing url⟩) fun r => ?_
  cases r with
  | ok => exact .done fun _ h => h.1
  | error reason =>
    refine .done fun s h => ⟨⟨reason, rfl⟩, h.1, fun hcalm => ?_⟩
    rw [hcalm.2.2] at h
    cases h.2

/-- Borrowing a connection fails only if the server is gone. -/
theorem lease_triple (url : String) :
    Attempt.Triple Server.answer (Kept s₀ key) lease (fun _ => Kept s₀ key)
      (fun e s => (∃ reason, e = .pool reason) ∧ Failed s₀ key url s) := by
  refine Dialogue.Triple.ask (M := fun r s => Kept s₀ key s ∧
    r = if s₀.listening then .ok () else .error "connection refused")
    (fun s h => ⟨h, by rw [← h.listening]; rfl⟩) fun r => ?_
  cases r with
  | ok => exact .done fun _ h => h.1
  | error reason =>
    refine .done fun s h => ⟨⟨reason, rfl⟩, h.1, fun hcalm => ?_⟩
    rw [hcalm.1] at h
    cases h.2

/-- A server that refuses or fails a command is not calm. -/
theorem not_calm {url : String} (h : s₀.listening = false ∨ s₀.failing ≠ []) :
    ¬ s₀.Calm url := by
  -- Each of the two contradicts one part of calm.
  rintro ⟨hup, hnil, -⟩
  rcases h with h | h
  · rw [hup] at h
    cases h
  · exact h hnil

/-- A ping keeps the key, and fails only as the server fails it. -/
theorem ping_triple (url : String) :
    Attempt.Triple Server.answer (Kept s₀ key) (call .connection .ping) (fun _ => Kept s₀ key)
      (fun e s => (∃ reason, e = .connection reason) ∧ Failed s₀ key url s) := by
  refine Dialogue.Triple.ask (M := fun r s => Kept s₀ key s ∧
    ((∃ reason, r = .error reason) → ¬ s₀.Calm url)) (fun s h => ?_) fun r => ?_
  · rcases call_cases h .ping with ⟨reason, s', hcall, hkept, hbad⟩ | ⟨s', hcall, hkept⟩
    · simp only [Server.answer, hcall]
      exact ⟨hkept, fun _ => not_calm hbad⟩
    · simp only [Server.answer, hcall]
      exact ⟨hkept, fun ⟨reason, hr⟩ => nomatch hr⟩
  · cases r with
    | ok => exact .done fun _ h => h.1
    | error reason => exact .done fun s h => ⟨⟨reason, rfl⟩, h.1, h.2 ⟨reason, rfl⟩⟩

namespace Connector

variable (c : Connector) (id : TaskId)

/-- Connecting changes no value, and fails only if the server cannot be reached. -/
theorem connect_triple :
    Attempt.Triple Server.answer (Kept s₀ key) c.connect (fun _ => Kept s₀ key)
      (fun e s => (∃ reason, e = .connection reason) ∧ Failed s₀ key c.descriptor.redisUrl s) := by
  rw [connect]
  split
  · exact .pure fun _ h => h
  · refine .bind (R := fun _ => Kept s₀ key) ?_ fun _ => ?_
    · exact dial_triple c.descriptor.redisUrl
    refine .bind (R := fun _ => Kept s₀ key) ?_ fun _ => .log fun _ h => h
    exact ping_triple c.descriptor.redisUrl

/-- What a fetch leaves behind: unless it gets to delete, the value is kept. -/
def Left (s₀ : Server) (id : TaskId) (remove : Bool) (s : Server) : Prop :=
  remove = false ∨ (∃ e, s₀.found id = .error e) → Kept s₀ id.resultKey s

/-- A fetch failed: either that is what the server has for the task, or something failed. -/
def Missed (s₀ : Server) (id : TaskId) (remove : Bool) (url : String) (e : ConnectorError)
    (s : Server) : Prop :=
  Left s₀ id remove s ∧
    (s₀.found id = .error e ∨ (∀ reason, e ≠ .malformed reason) ∧ ¬ s₀.Calm url)

/-- A fetch succeeded with what the server has for the task. -/
def Reported (s₀ : Server) (id : TaskId) (remove : Bool) (r : Option ResultMessage)
    (s : Server) : Prop :=
  Left s₀ id remove s ∧ s₀.found id = .ok r

/-- Reading a key gives its value, if it holds a text. -/
theorem get_triple (remove : Bool) (url : String) :
    Attempt.Triple Server.answer (Kept s₀ id.resultKey) (call .consume (.get id.resultKey))
      (fun value s => Kept s₀ id.resultKey s ∧
        s₀.keys.get? id.resultKey = value.map .string) (Missed s₀ id remove url) := by
  refine Dialogue.Triple.ask (M := fun
    | .ok value => fun s => Kept s₀ id.resultKey s ∧
        s₀.keys.get? id.resultKey = value.map .string
    | .error reason => Missed s₀ id remove url (.consume reason)) (fun s h => ?_) fun r => ?_
  · -- A list under the key is no failure of the server: it is what the server has for the task.
    rcases call_cases h (.get id.resultKey) with
      ⟨reason, s', hcall, hkept, hbad⟩ | ⟨s', hcall, hkept⟩
    · simp only [Server.answer, hcall]
      exact ⟨fun _ => hkept, .inr ⟨nofun, not_calm hbad⟩⟩
    · have hvalue := hkept.value
      simp only [Server.answer, hcall, Server.execute]
      cases hk : s'.keys.get? id.resultKey with
      | none =>
        rw [hk] at hvalue
        exact ⟨hkept, hvalue.symm⟩
      | some entry =>
        rw [hk] at hvalue
        cases entry with
        | string value => exact ⟨hkept, hvalue.symm⟩
        | list items => exact ⟨fun _ => hkept, .inl (by rw [Server.found, ← hvalue])⟩
  · cases r with
    | ok value => exact .done fun _ h => h
    | error reason => exact .done fun _ h => h

/-- Deleting the key fails only if a command fails. -/
theorem delete_triple (url : String) {m : ResultMessage} :
    Attempt.Triple Server.answer
      (fun s => Kept s₀ id.resultKey s ∧ s₀.found id = .ok (some m))
      (call .ack (.delete id.resultKey)) (fun _ => Reported s₀ id true (some m))
      (Missed s₀ id true url) := by
  -- The key may be gone after this, but that is allowed: the value was read before.
  have hleft : s₀.found id = .ok (some m) → ∀ s, Left s₀ id true s := by
    rintro hfound s (hfalse | ⟨e, he⟩)
    · cases hfalse
    · rw [hfound] at he
      cases he
  refine Dialogue.Triple.ask (M := fun r _ => s₀.found id = .ok (some m) ∧
    ((∃ reason, r = .error reason) → ¬ s₀.Calm url)) (fun s h => ⟨h.2, ?_⟩) fun r => ?_
  · rcases call_cases h.1 (.delete id.resultKey) with
      ⟨reason, s', hcall, -, hbad⟩ | ⟨s', hcall, -⟩
    · exact fun _ => not_calm hbad
    · rintro ⟨reason, hr⟩
      simp only [Server.answer, hcall, Server.execute] at hr
      split at hr <;> cases hr
  · cases r with
    | ok => exact .done fun s h => ⟨hleft h.1 s, h.1⟩
    | error reason =>
      exact .done fun s h => ⟨hleft h.1 s, .inr ⟨nofun, h.2 ⟨reason, rfl⟩⟩⟩

/-- A fetch reports what the server has for the task unless something failed. It leaves the value
as it is if it does not remove. It also does if the value cannot be read, since then it does not
get to delete the key. -/
theorem fetch_triple (hc : c.connected = true) (remove : Bool) :
    Attempt.Triple Server.answer (Kept s₀ id.resultKey) (c.fetch id remove)
      (Reported s₀ id remove) (Missed s₀ id remove c.descriptor.redisUrl) := by
  refine .bind (R := fun _ => Kept s₀ id.resultKey) ?_ fun _ => ?_
  · rw [demandConnected, hc]
    exact .pure fun _ h => h
  refine .bind (.mono (lease_triple c.descriptor.redisUrl) (fun _ h => h) (fun _ _ h => h) ?_)
    fun _ => ?_
  · rintro e s ⟨⟨reason, rfl⟩, hkept, hcalm⟩
    exact ⟨fun _ => hkept, .inr ⟨nofun, hcalm⟩⟩
  refine .bind (get_triple id remove c.descriptor.redisUrl) fun value => ?_
  cases value with
  | none =>
    refine .bind (R := fun _ s => Kept s₀ id.resultKey s ∧
      s₀.keys.get? id.resultKey = none) (.log fun _ h => h) fun _ => ?_
    exact .pure fun s h => ⟨fun _ => h.1, by rw [Server.found, h.2]⟩
  | some value =>
    -- The value is checked before the key is deleted. What the check refuses is therefore still
    -- there, also in the mode that removes.
    have hfound : s₀.keys.get? id.resultKey = some (.string value) → s₀.found id =
        (readValue id.resultKey value).map fun text => some (.ofJsonText text) :=
      fun h => by rw [Server.found, h]
    refine .bind (R := fun text s => Kept s₀ id.resultKey s ∧
      s₀.found id = .ok (some (.ofJsonText text))) (.ofExcept fun s h => ?_) fun text => ?_
    · cases hr : readValue id.resultKey value with
      | ok text => exact ⟨h.1, by rw [hfound h.2, hr]; rfl⟩
      | error e => exact ⟨fun _ => h.1, .inl (by rw [hfound h.2, hr]; rfl)⟩
    · cases remove with
      | false => exact .pure fun _ h => ⟨fun _ => h.1, h.2⟩
      | true =>
        exact .bind (delete_triple id c.descriptor.redisUrl) fun _ => .pure fun _ h => h

end Connector

/-! ## What a connector asks for -/

section
variable {P : Request → Prop}

/-- Dialling makes one request. -/
theorem dial_asks {url : String} (h : P (.dial url)) : (dial url).run.Asks P := by
  refine .ask h fun r => ?_
  cases r with
  | ok => exact .done _
  | error reason => exact .done _

/-- So does taking the connection. -/
theorem lease_asks (h : P .lease) : lease.run.Asks P := by
  refine .ask h fun r => ?_
  cases r with
  | ok => exact .done _
  | error reason => exact .done _

/-- So does a command. -/
theorem call_asks {fault : String → ConnectorError} {c : Command} (h : P (.call c)) :
    (call fault c).run.Asks P := by
  refine .ask h fun r => ?_
  cases r with
  | ok => exact .done _
  | error reason => exact .done _

namespace Connector

/-- Whether the connector is connected can be told without a request. -/
theorem demandConnected_asks (c : Connector) : c.demandConnected.run.Asks P := by
  unfold demandConnected
  split
  · exact .done _
  · exact .done _

/-- A fetch takes the connection, reads the key of its task, and deletes it if asked to. -/
theorem fetch_asks (c : Connector) {id : TaskId} {remove : Bool} (hlease : P .lease)
    (hget : P (.call (.get id.resultKey)))
    (hdelete : remove = true → P (.call (.delete id.resultKey))) :
    (c.fetch id remove).run.Asks P := by
  refine Attempt.asks_bind (demandConnected_asks c) fun _ => ?_
  refine Attempt.asks_bind (lease_asks hlease) fun _ => ?_
  refine Attempt.asks_bind (call_asks hget) fun stored => ?_
  -- A deletion follows only on a value that was found and passed the check.
  cases stored with
  | none => exact .note (.done _)
  | some value =>
    refine Attempt.asks_bind (.done _) fun s => ?_
    cases remove with
    | false => exact .done _
    | true => exact Attempt.asks_bind (call_asks (hdelete rfl)) fun _ => .done _

end Connector
end
end Redis
end TaskQueue
