import Mathlib.Data.List.Induction
import Mathlib.Logic.Function.Basic
import TaskQueue.Proofs.Dialogue.Turns
import TaskQueue.Proofs.Redis.Keeping

/-!
# `TaskQueue.Proofs.Redis.Contention`: several clients fetch one result

A fetch that removes takes two commands, one that reads the key of the task and one that deletes
it. The server executes them one at a time, and between the two it may execute anything that
others send. `Scene` is a server with clients that all fetch the result of one task, each with
what it still has to say. A `Move` gives one client its turn, or lets the worker store a value;
any list of moves is a run, so the clients and the worker are interleaved in every way there is.

`turned` lists what one turn can do. Only one thing changes the value under the key: a client
that has read a value deletes whatever is there by now.
-/

set_option autoImplicit false

namespace TaskQueue
namespace Redis

/-- What happens next: a client has its request answered, or the worker stores a value. -/
inductive Move (ι : Type) where
  | turn (client : ι)
  | store (value : Bytes)
deriving DecidableEq

/-- The values that the worker stores, in order. -/
def stores {ι : Type} (ms : List (Move ι)) : List Bytes :=
  ms.filterMap fun
    | .turn _ => none
    | .store value => some value

section
variable {ι : Type} (ms ns : List (Move ι))

/-- The values stored in two stretches of moves are those of the first, then those of the second. -/
@[simp] theorem stores_append : stores (ms ++ ns) = stores ms ++ stores ns :=
  List.filterMap_append

/-- A reader whose turn it is stores nothing. -/
@[simp] theorem stores_turn (i : ι) : stores (.turn i :: ms) = stores ms := rfl

/-- A store contributes its value. -/
@[simp] theorem stores_store (value : Bytes) : stores (.store value :: ms) = value :: stores ms :=
  rfl

/-- Without moves nothing is stored. -/
@[simp] theorem stores_nil : stores ([] : List (Move ι)) = [] := rfl

end

/-- A server, and what each client still has to say to it. -/
structure Scene (ι : Type) where
  server : Server
  talks : ι → Dialogue Request Answer Found

namespace Scene

variable {ι : Type} [DecidableEq ι]

/-- All clients are about to fetch the result of a task, and to remove what they find. -/
def start (server : Server) (clients : ι → Connector) (id : TaskId) : Scene ι :=
  ⟨server, fun i => ((clients i).fetch id true).run⟩

/-- One move. -/
def step (id : TaskId) (s : Scene ι) : Move ι → Scene ι
  | .turn i =>
    let (d, server) := (s.talks i).turn Server.answer s.server
    ⟨server, Function.update s.talks i d⟩
  | .store value => { s with server := s.server.putString id.resultKey value }

/-- Several moves. -/
def play (id : TaskId) (s : Scene ι) (ms : List (Move ι)) : Scene ι := ms.foldl (step id) s

/-- What is stored for the task. -/
def stored? (id : TaskId) (s : Scene ι) : Option Entry := s.server.keys.get? id.resultKey

/-- What the fetch of a client has returned, if it has. -/
def returned? (s : Scene ι) (i : ι) : Option Found := (s.talks i).outcome?

/-- The client is about to read the key. -/
def Reads (id : TaskId) (s : Scene ι) (i : ι) : Prop :=
  (s.talks i).next? = some (.call (.get id.resultKey))

instance (id : TaskId) (s : Scene ι) (i : ι) : Decidable (s.Reads id i) :=
  inferInstanceAs (Decidable (_ = _))

/-- The client is about to delete the key. -/
def Deletes (id : TaskId) (s : Scene ι) (i : ι) : Prop :=
  (s.talks i).next? = some (.call (.delete id.resultKey))

instance (id : TaskId) (s : Scene ι) (i : ι) : Decidable (s.Deletes id i) :=
  inferInstanceAs (Decidable (_ = _))

/-- Playing two stretches of moves is playing the second on what the first has left. -/
theorem play_append (id : TaskId) (s : Scene ι) (ms ns : List (Move ι)) :
    s.play id (ms ++ ns) = (s.play id ms).play id ns := by
  simp [play, List.foldl_append]

/-- The last move is a step from where the others lead, which is the form an induction on the latest
move needs. -/
theorem play_snoc (id : TaskId) (s : Scene ι) (ms : List (Move ι)) (m : Move ι) :
    s.play id (ms ++ [m]) = (s.play id ms).step id m := by
  simp [play, List.foldl_append]

end Scene

/-! ## What is left of a fetch -/

section
variable {c : Connector} {id : TaskId}

/-- What a fetch makes of the value that is stored for the task. -/
def resultOf (id : TaskId) (value : Bytes) : Found :=
  (Connector.readValue id.resultKey value).map fun text => some (.ofJsonText text)

/-- What is left when the value has been read. -/
def deleting (id : TaskId) (text : String) : Dialogue Request Answer Found :=
  .ask (.call (.delete id.resultKey)) fun
    | .ok _ => .done (.ok (some (.ofJsonText text)))
    | .error reason => .done (.error (.ack reason))

/-- What is left when the server has said what stands under the key. -/
def told (id : TaskId) : Except String (Option Bytes) → Dialogue Request Answer Found
  | .ok none =>
    .note (.message .debug "Result not ready" [("task_id", .shown id.text)]) (.done (.ok none))
  | .ok (some value) =>
    match Connector.readValue id.resultKey value with
    | .ok text => deleting id text
    | .error e => .done (.error e)
  | .error reason => .done (.error (.consume reason))

/-- What is left when a connection has been borrowed. -/
def reading (id : TaskId) : Dialogue Request Answer Found :=
  .ask (.call (.get id.resultKey)) (told id)

/-- What a fetch has still to do once it has read a text is to delete the key and answer with it. -/
theorem deleting_eq (id : TaskId) (text : String) :
    (do
      let _ ← call .ack (.delete id.resultKey)
      return some (.ofJsonText text) : Talk (Option ResultMessage)).run = deleting id text := by
  show Dialogue.ask _ _ = Dialogue.ask _ _
  congr 1
  funext r
  cases r <;> rfl

/-- What is said by a connector that is connected. -/
def leasing (id : TaskId) : Dialogue Request Answer Found :=
  .ask .lease fun
    | .ok () => reading id
    | .error reason => .done (.error (.pool reason))

/-- A fetch borrows a connection, reads the key, and deletes it if it holds an object. -/
theorem fetch_eq (hc : c.connected = true) : (c.fetch id true).run = leasing id := by
  simp only [Connector.fetch, Connector.demandConnected, hc, if_true]
  show Dialogue.ask _ _ = Dialogue.ask _ _
  congr 1
  funext r
  rcases r with reason | _
  · rfl
  · show Dialogue.ask _ _ = Dialogue.ask _ _
    congr 1
    funext r
    rcases r with reason | _ | value
    · rfl
    · rfl
    · -- The value is checked without a request, and what is left then depends on the check.
      show (Attempt.ofExcept (Connector.readValue id.resultKey value) >>= fun text => do
        let _ ← call .ack (.delete id.resultKey)
        return some (.ofJsonText text) : Talk (Option ResultMessage)).run =
          match Connector.readValue id.resultKey value with
          | .ok text => deleting id text
          | .error e => .done (.error e)
      cases Connector.readValue id.resultKey value with
      | error e => rfl
      | ok text => exact deleting_eq id text

/-- A connector that is not connected returns without a word. -/
theorem outcome_fetch (hc : c.connected = false) :
    (c.fetch id true).run.outcome? = some (.error .notConnected) := by
  simp only [Connector.fetch, Connector.demandConnected, hc]
  rfl

end

/-! ## One turn -/

namespace Keys

/-- A removed key holds nothing. -/
@[simp] theorem get?_remove (key : String) (ks : Keys) : (ks.remove key).get? key = none := by
  induction ks with
  | nil => rfl
  | cons k rest ih =>
    by_cases h : k.1 = key
    · simpa [remove, h] using ih
    · simpa [remove, get?, h] using ih

/-- A key that has been written holds what was written. -/
@[simp] theorem get?_put (key : String) (e : Entry) (ks : Keys) :
    (ks.put key e).get? key = some e := by
  induction ks with
  | nil => simp [put, get?]
  | cons k rest ih =>
    by_cases h : k.1 = key
    · simp [put, get?, h]
    · simpa [put, get?, h] using ih

end Keys

/-- The server executes every command that it gets. -/
def Server.Executes (s : Server) : Prop := s.listening = true ∧ s.failing = []

/-- How far a client has come with its fetch. -/
inductive Stage (id : TaskId) : Dialogue Request Answer Found → Prop where
  | leasing : Stage id (leasing id)
  | reading : Stage id (reading id)
  | deleting (text : String) : Stage id (deleting id text)
  | finished {d : Dialogue Request Answer Found} {r : Found} (h : d.outcome? = some r) : Stage id d

/-- How many turns a client needs at most, by what it says next. -/
def turnsLeft : Option Request → Nat
  | some .lease => 3
  | some (.call (.get _)) => 2
  | some (.call (.delete _)) => 1
  | _ => 0

/-- A fetch that is over has no turn left. -/
theorem turnsLeft_of_outcome {d : Dialogue Request Answer Found} {r : Found}
    (h : d.outcome? = some r) : turnsLeft d.next? = 0 := by
  rw [Dialogue.next?_of_outcome h]
  rfl

/-- A fetch takes three turns at most: the lease, the read and the deletion. -/
theorem Stage.turnsLeft_le {id : TaskId} {d : Dialogue Request Answer Found} (h : Stage id d) :
    turnsLeft d.next? ≤ 3 := by
  cases h with
  | leasing => exact Nat.le_refl 3
  | reading => exact Nat.le_succ 2
  | deleting text => exact Nat.le_add_right 1 2
  | finished h => simp [turnsLeft_of_outcome h]

/-- A client that needs no more turns has returned. -/
theorem Stage.returned {id : TaskId} {d : Dialogue Request Answer Found} (h : Stage id d)
    (hleft : turnsLeft d.next? = 0) : ∃ r, d.outcome? = some r := by
  cases h with
  | leasing => cases hleft
  | reading => cases hleft
  | deleting text => cases hleft
  | finished h => exact ⟨_, h⟩

/-- A removing fetch begins at one of its stages, whether or not its connector is connected. -/
theorem stage_fetch (c : Connector) (id : TaskId) : Stage id (c.fetch id true).run := by
  cases hc : c.connected with
  | true =>
    rw [fetch_eq hc]
    exact .leasing
  | false => exact .finished (outcome_fetch hc)

/-- What a turn of a client can do to the client and to the server. -/
inductive Turned (id : TaskId) (s : Server) :
    Dialogue Request Answer Found → Dialogue Request Answer Found → Server → Prop where
  /-- A connection is borrowed. -/
  | leases : Turned id s (leasing id) (reading id) s
  /-- The request fails, and so does the fetch. -/
  | fails {d d' : Dialogue Request Answer Found} {s' : Server} {q : Request} {e : ConnectorError}
      (next : d.next? = some q) (returns : d'.outcome? = some (.error e))
      (kept : Kept s id.resultKey s') (refused : ¬ s.Executes) : Turned id s d d' s'
  /-- There is nothing to be deleted under the key, and the fetch reports what there is. -/
  | reports {d' : Dialogue Request Answer Found} {s' : Server}
      (returns : d'.outcome? = some (s.found id)) (spared : ∀ m, s.found id ≠ .ok (some m))
      (kept : Kept s id.resultKey s') : Turned id s (reading id) d' s'
  /-- A value is read, and will be deleted next. -/
  | reads {s' : Server} {value : Bytes} {text : String}
      (stored : s.keys.get? id.resultKey = some (.string value))
      (object : Connector.readValue id.resultKey value = .ok text)
      (kept : Kept s id.resultKey s') : Turned id s (reading id) (deleting id text) s'
  /-- The key is deleted, and the value that was read before is returned. -/
  | deletes {d' : Dialogue Request Answer Found} {s' : Server} {text : String}
      (returns : d'.outcome? = some (.ok (some (.ofJsonText text))))
      (listening : s'.listening = s.listening) (failing : s'.failing = s.failing)
      (gone : s'.keys.get? id.resultKey = none) : Turned id s (deleting id text) d' s'
  /-- The client has returned already. -/
  | rests {d d' : Dialogue Request Answer Found} {r : Found} (before : d.outcome? = some r)
      (after : d'.outcome? = some r) : Turned id s d d' s

/-- A refused or failed command shows that the server does not execute all of them. -/
theorem not_executes {s : Server} (h : s.listening = false ∨ s.failing ≠ []) : ¬ s.Executes := by
  rintro ⟨hup, hnil⟩
  rcases h with h | h
  · rw [hup] at h
    cases h
  · exact h hnil

/-- The turn of a fetch that asks for its lease. -/
theorem turned_leasing (id : TaskId) (s : Server) :
    Turned id s (leasing id) ((leasing id).turn Server.answer s).1
      ((leasing id).turn Server.answer s).2 := by
  cases hup : s.listening with
  | true =>
    simp only [leasing, Dialogue.turn, Server.answer, hup, if_true]
    exact .leases
  | false =>
    simp only [leasing, Dialogue.turn, Server.answer, hup]
    exact .fails rfl rfl ⟨rfl, rfl, rfl⟩ (not_executes (.inl hup))

/-- The turn of a fetch that reads its key. -/
theorem turned_reading (id : TaskId) (s : Server) :
    Turned id s (reading id) ((reading id).turn Server.answer s).1
      ((reading id).turn Server.answer s).2 := by
  have hself : Kept s id.resultKey s := ⟨rfl, rfl, rfl⟩
  show Turned id s (reading id) (told id (s.call (.get id.resultKey)).1)
    (s.call (.get id.resultKey)).2
  rcases call_cases hself (.get id.resultKey) with
    ⟨reason, s', hcall, hkept, hbad⟩ | ⟨s', hcall, hkept⟩
  · rw [hcall]
    exact .fails rfl rfl hkept (not_executes hbad)
  · rw [hcall, Server.execute]
    have hvalue := hkept.value
    cases hk : s'.keys.get? id.resultKey with
    | none =>
      rw [hk] at hvalue
      have hfound : s.found id = .ok none := by rw [Server.found, ← hvalue]
      exact .reports (by rw [hfound]; rfl) (by rw [hfound]; intro m hm; cases hm) hkept
    | some entry =>
      rw [hk] at hvalue
      cases entry with
      | list items =>
        -- The server refuses to read a list as a text.
        have hfound : s.found id = .error (.consume Server.wrongType) := by
          rw [Server.found, ← hvalue]
        exact .reports (by rw [hfound]; rfl) (by rw [hfound]; intro m hm; cases hm) hkept
      | string value =>
        have hfound : s.found id =
            (Connector.readValue id.resultKey value).map fun text => some (.ofJsonText text) := by
          rw [Server.found, ← hvalue]
        show Turned id s (reading id) (told id (.ok (some value))) s'
        cases hr : Connector.readValue id.resultKey value with
        | ok text =>
          rw [told, hr]
          exact .reads hvalue.symm hr hkept
        | error e =>
          rw [hr] at hfound
          rw [told, hr]
          exact .reports (by rw [hfound]; rfl) (by rw [hfound]; intro m hm; cases hm) hkept

/-- The turn of a fetch that has read a text and deletes its key. -/
theorem turned_deleting (id : TaskId) (text : String) (s : Server) :
    Turned id s (deleting id text) ((deleting id text).turn Server.answer s).1
      ((deleting id text).turn Server.answer s).2 := by
  have hself : Kept s id.resultKey s := ⟨rfl, rfl, rfl⟩
  rcases call_cases hself (.delete id.resultKey) with
    ⟨reason, s', hcall, hkept, hbad⟩ | ⟨s', hcall, hkept⟩
  · simp only [deleting, Dialogue.turn, Server.answer, hcall]
    exact .fails rfl rfl hkept (not_executes hbad)
  · simp only [deleting, Dialogue.turn, Server.answer, hcall, Server.execute]
    -- Deleting a key that is not there any more succeeds as well.
    cases hk : s'.keys.get? id.resultKey with
    | none => exact .deletes rfl hkept.listening hkept.failing hk
    | some entry => exact .deletes rfl hkept.listening hkept.failing (Keys.get?_remove _ _)

/-- Whatever stage a client is at, its turn does one of these things. -/
theorem turned {id : TaskId} {d : Dialogue Request Answer Found} (h : Stage id d) (s : Server) :
    Turned id s d (d.turn Server.answer s).1 (d.turn Server.answer s).2 := by
  cases h with
  | leasing => exact turned_leasing id s
  | reading => exact turned_reading id s
  | deleting text => exact turned_deleting id text s
  | finished h =>
    obtain ⟨hover, hsame⟩ := Dialogue.turn_of_outcome Server.answer h s
    rw [hsame]
    exact .rests h hover

/-- Only what a client has read can be told from what it is about to delete. -/
theorem deleting_inj {id : TaskId} {text text' : String}
    (h : deleting id text = deleting id text') :
    ResultMessage.ofJsonText text = .ofJsonText text' := by
  have houtcome := congrArg (fun d => (d.turn Server.answer {}).1.outcome?) h
  simpa [deleting, Dialogue.turn, Dialogue.outcome?, Server.answer, Server.call, Server.failure?,
    Server.execute, Keys.get?] using houtcome

namespace Turned

variable {id : TaskId} {s s' : Server} {d d' : Dialogue Request Answer Found}

/-- A turn leads from a stage to a stage. -/
theorem stage (h : Turned id s d d' s') : Stage id d' := by
  cases h with
  | leases => exact .reading
  | fails _ returns => exact .finished returns
  | reports returns => exact .finished returns
  | reads => exact .deleting _
  | deletes returns => exact .finished returns
  | rests _ after => exact .finished after

/-- A turn leaves the server able to carry out commands. -/
theorem executes (h : Turned id s d d' s') (hs : s.Executes) : s'.Executes := by
  cases h with
  | leases => exact hs
  | fails _ _ kept => exact ⟨kept.listening.trans hs.1, kept.failing.trans hs.2⟩
  | reports _ _ kept => exact ⟨kept.listening.trans hs.1, kept.failing.trans hs.2⟩
  | reads _ _ kept => exact ⟨kept.listening.trans hs.1, kept.failing.trans hs.2⟩
  | deletes _ listening failing => exact ⟨listening.trans hs.1, failing.trans hs.2⟩
  | rests => exact hs

/-- Every turn brings the fetch nearer to its end. -/
theorem turnsLeft_le (h : Turned id s d d' s') :
    turnsLeft d'.next? ≤ turnsLeft d.next? - 1 := by
  cases h with
  | leases => exact Nat.le_refl 2
  | fails _ returns => simp [turnsLeft_of_outcome returns]
  | reports returns => simp [turnsLeft_of_outcome returns]
  | reads => exact Nat.le_refl 1
  | deletes returns => simp [turnsLeft_of_outcome returns]
  | rests _ after => simp [turnsLeft_of_outcome after]

/-- A turn leaves what is stored as it is, unless it deletes it. -/
theorem stored (h : Turned id s d d' s') :
    s'.keys.get? id.resultKey = s.keys.get? id.resultKey ∨
      s'.keys.get? id.resultKey = none ∧ ∃ text, d = deleting id text ∧
        d'.outcome? = some (.ok (some (.ofJsonText text))) := by
  cases h with
  | leases => exact .inl rfl
  | fails _ _ kept => exact .inl kept.value
  | reports _ _ kept => exact .inl kept.value
  | reads _ _ kept => exact .inl kept.value
  | deletes returns _ _ gone => exact .inr ⟨gone, _, rfl, returns⟩
  | rests => exact .inl rfl

/-- Whoever is about to delete after a turn has read a value with it. -/
theorem read {text : String} (h : Turned id s d d' s') (hd : d' = deleting id text) :
    d.outcome? = none ∧ d.next? = some (.call (.get id.resultKey)) ∧
      ∃ value, s.keys.get? id.resultKey = some (.string value) ∧
        resultOf id value = .ok (some (.ofJsonText text)) := by
  -- The deletion is still to come, so the turn has not ended the fetch.
  have hover : d'.outcome? = none := by rw [hd]; rfl
  cases h with
  | leases =>
    have hnext := congrArg Dialogue.next? hd
    cases hnext
  | fails _ returns => cases hover.symm.trans returns
  | reports returns => cases hover.symm.trans returns
  | @reads _ value text' stored object =>
    refine ⟨rfl, rfl, value, stored, ?_⟩
    rw [resultOf, object, ← deleting_inj hd]
    rfl
  | deletes returns => cases hover.symm.trans returns
  | rests _ after => cases hover.symm.trans after

/-- If every command is executed, a fetch returns what there is when it reads, or the value that it
has read and deletes. -/
theorem returned {r : Found} (h : Turned id s d d' s') (hs : s.Executes)
    (hr : d'.outcome? = some r) :
    d.outcome? = some r ∨
      d.next? = some (.call (.get id.resultKey)) ∧ r = s.found id ∧ (∀ m, r ≠ .ok (some m)) ∨
      ∃ text, d = deleting id text ∧ r = .ok (some (.ofJsonText text)) ∧
        s'.keys.get? id.resultKey = none := by
  cases h with
  | leases => cases hr
  | fails _ _ _ refused => exact absurd hs refused
  -- A fetch that reports what it read deletes nothing, because there is no message in it.
  | reports returns spared =>
    have hfound := Option.some.inj (hr.symm.trans returns)
    exact .inr (.inl ⟨rfl, hfound, by rw [hfound]; exact spared⟩)
  | reads => cases hr
  | deletes returns _ _ gone =>
    exact .inr (.inr ⟨_, rfl, Option.some.inj (hr.symm.trans returns), gone⟩)
  | rests before after => exact .inl (before.trans (after.symm.trans hr))

/-- If every command is executed, whoever reads while nothing is stored returns that. -/
theorem reads_nothing (h : Turned id s d d' s') (hs : s.Executes)
    (hreads : d.next? = some (.call (.get id.resultKey)))
    (hnone : s.keys.get? id.resultKey = none) : d'.outcome? = some (.ok none) := by
  cases h with
  | leases => cases hreads
  | fails _ _ _ refused => exact absurd hs refused
  | reports returns => rw [returns, Server.found, hnone]
  | reads stored => cases hnone.symm.trans stored
  | deletes => cases hreads
  | rests before => cases (Dialogue.next?_of_outcome before).symm.trans hreads

end Turned

/-! ## Runs -/

namespace Scene

variable {ι : Type} {id : TaskId} {s : Scene ι} {i j : ι}

/-- Every client is at a stage of its fetch. -/
def Staged (id : TaskId) (s : Scene ι) : Prop := ∀ i, Stage id (s.talks i)

/-- Readers that have not had a turn yet are at a stage. -/
theorem staged_start (server : Server) (clients : ι → Connector) (id : TaskId) :
    (start server clients id).Staged id := fun i => stage_fetch (clients i) id

/-- Nobody begins by deleting. -/
theorem not_deleting_start (server : Server) (clients : ι → Connector) (text : String) :
    (start server clients id).talks i ≠ deleting id text := by
  intro h
  have hfetch : ((clients i).fetch id true).run = deleting id text := h
  cases hc : (clients i).connected with
  | true =>
    rw [fetch_eq hc] at hfetch
    have hnext := congrArg Dialogue.next? hfetch
    cases hnext
  | false =>
    have hover : ((clients i).fetch id true).run.outcome? = some (.error .notConnected) :=
      outcome_fetch hc
    rw [hfetch] at hover
    cases hover

/-- Who is connected has not returned at the beginning. -/
theorem returned?_start {server : Server} {clients : ι → Connector}
    (hc : (clients i).connected = true) : (start server clients id).returned? i = none := by
  show ((clients i).fetch id true).run.outcome? = none
  rw [fetch_eq hc]
  rfl

variable [DecidableEq ι]

/-- The client whose turn it is moves on, and so does the server. -/
theorem turned_step (hs : s.Staged id) (i : ι) :
    Turned id s.server (s.talks i) ((s.step id (.turn i)).talks i)
      (s.step id (.turn i)).server := by
  have h := turned (hs i) s.server
  simpa [step] using h

/-- The others stay where they are. -/
theorem talks_step_of_ne (h : j ≠ i) : (s.step id (.turn i)).talks j = s.talks j := by
  simp [step, Function.update_of_ne h]

/-- What is under the key after a store is what was stored. -/
@[simp] theorem stored?_store (value : Bytes) :
    (s.step id (.store value)).stored? id = some (.string value) := Keys.get?_put _ _ _

/-- What comes to be true of a client does so at one of its turns. -/
theorem turn_of_change {p : Dialogue Request Answer Found → Prop} {ms : List (Move ι)}
    (hstart : ¬ p (s.talks i)) (h : p ((s.play id ms).talks i)) :
    ∃ before after, ms = before ++ .turn i :: after ∧ ¬ p ((s.play id before).talks i) ∧
      p ((s.play id (before ++ [.turn i])).talks i) := by
  induction ms generalizing s with
  | nil => exact absurd h hstart
  | cons m ms ih =>
    -- Induction on the moves: either the first one makes the change, or it comes later.
    by_cases hp : p ((s.step id m).talks i)
    · cases m with
      | store value => exact absurd hp hstart
      | turn j =>
        by_cases hij : i = j
        · subst hij
          exact ⟨[], ms, rfl, hstart, hp⟩
        · rw [talks_step_of_ne hij] at hp
          exact absurd hp hstart
    · obtain ⟨before, after, rfl, hnot, hthen⟩ := ih hp h
      exact ⟨m :: before, after, rfl, hnot, hthen⟩

/-- Every move leaves every reader at a stage. -/
theorem Staged.step (hs : s.Staged id) (m : Move ι) : (s.step id m).Staged id := by
  intro j
  cases m with
  | store value => exact hs j
  | turn i =>
    by_cases h : j = i
    · subst h
      exact (turned_step hs j).stage
    · rw [talks_step_of_ne h]
      exact hs j

/-- So do any number of moves. -/
theorem Staged.play (hs : s.Staged id) (ms : List (Move ι)) : (s.play id ms).Staged id := by
  induction ms generalizing s with
  | nil => exact hs
  | cons m ms ih => exact ih (hs.step m)

/-- The server carries out commands throughout, if it does at the start. -/
theorem executes_play (hs : s.Staged id) (hserver : s.server.Executes) (ms : List (Move ι)) :
    (s.play id ms).server.Executes := by
  induction ms generalizing s with
  | nil => exact hserver
  | cons m ms ih =>
    refine ih (hs.step m) ?_
    cases m with
    | store value => exact hserver
    | turn i => exact (turned_step hs i).executes hserver

/-- Once a fetch has returned, it has returned for good. -/
theorem returned?_play {r : Found} (hs : s.Staged id) (h : s.returned? i = some r)
    (ms : List (Move ι)) : (s.play id ms).returned? i = some r := by
  induction ms generalizing s with
  | nil => exact h
  | cons m ms ih =>
    -- A fetch that has returned takes no further turn.
    refine ih (hs.step m) ?_
    cases m with
    | store value => exact h
    | turn j =>
      by_cases hij : i = j
      · subst hij
        have hover := (Dialogue.turn_of_outcome Server.answer h s.server).1
        simpa [Scene.step, returned?] using hover
      · rw [returned?, talks_step_of_ne hij]
        exact h

/-- A client needs one turn less with each turn that it takes. -/
theorem turnsLeft_play (hs : s.Staged id) (i : ι) (ms : List (Move ι)) :
    turnsLeft ((s.play id ms).talks i).next? ≤
      turnsLeft (s.talks i).next? - ms.count (.turn i) := by
  induction ms generalizing s with
  | nil => exact Nat.le_refl _
  | cons m ms ih =>
    -- Only turns of this reader count, and each takes one off what is left.
    have hrest := ih (hs.step m)
    cases m with
    | store value =>
      rw [List.count_cons_of_ne (by simp)]
      exact hrest
    | turn j =>
      by_cases hij : i = j
      · subst hij
        have hturn := (turned_step hs i).turnsLeft_le
        rw [List.count_cons_self]
        show turnsLeft (((s.step id (.turn i)).play id ms).talks i).next? ≤ _
        omega
      · rw [talks_step_of_ne hij] at hrest
        rw [List.count_cons_of_ne (by simpa using Ne.symm hij)]
        exact hrest

/-- Every fetch returns after three turns, whatever the others do. -/
theorem returned?_of_turns (server : Server) (clients : ι → Connector) {ms : List (Move ι)}
    (h : 3 ≤ ms.count (.turn i)) :
    ∃ r, ((start server clients id).play id ms).returned? i = some r := by
  have hs := staged_start server clients id
  have hplay := turnsLeft_play hs i ms
  have hstart := (hs i).turnsLeft_le
  exact ((hs.play ms) i).returned (by omega)

/-- A client that is left alone returns what it returns when its fetch is held in one go. -/
theorem returned?_alone {r : Found} {n : Nat}
    (h : (s.play id (List.replicate n (.turn i))).returned? i = some r) :
    ((s.talks i).run Server.answer s.server).1 = r := by
  obtain ⟨d, server, ⟨hd, -⟩, hrun⟩ := Dialogue.run_of_turns Server.answer
    (f := step id) (m := .turn i) (R := fun s d server => s.talks i = d ∧ s.server = server)
    (by rintro s d server ⟨rfl, rfl⟩; simp [step]) ⟨rfl, rfl⟩ n
  have hover : d.outcome? = some r := hd ▸ h
  exact hrun.symm.trans (Dialogue.run_of_outcome Server.answer hover server).1

/-- A turn leaves what is stored as it is, unless the client deletes it. -/
theorem stored?_turn (hs : s.Staged id) (i : ι) :
    (s.step id (.turn i)).stored? id = s.stored? id ∨
      (s.step id (.turn i)).stored? id = none ∧ ∃ text, s.talks i = deleting id text ∧
        (s.step id (.turn i)).returned? i = some (.ok (some (.ofJsonText text))) :=
  (turned_step hs i).stored

/-- What is stored after some moves was stored before them, or the worker has stored it since. -/
theorem stored?_play (hs : s.Staged id) (ms : List (Move ι)) :
    (s.play id ms).stored? id = none ∨
      stores ms = [] ∧ (s.play id ms).stored? id = s.stored? id ∨
      ∃ value, (stores ms).getLast? = some value ∧
        (s.play id ms).stored? id = some (.string value) := by
  -- Induction on the latest move, for it is the one that decides what is stored.
  induction ms using List.reverseRecOn with
  | nil => exact .inr (.inl ⟨rfl, rfl⟩)
  | append_singleton ms m ih =>
    rw [play_snoc]
    cases m with
    | store value => exact .inr (.inr ⟨value, by simp, stored?_store value⟩)
    | turn i =>
      rcases stored?_turn (hs.play ms) i with hsame | ⟨hgone, -⟩
      · rw [hsame]
        simpa using ih
      · exact .inl hgone

/-- While the worker stores nothing, what is stored stays or goes. -/
theorem stored?_of_quiet {ms : List (Move ι)} (hs : s.Staged id) (hquiet : stores ms = []) :
    (s.play id ms).stored? id = none ∨ (s.play id ms).stored? id = s.stored? id := by
  rcases stored?_play hs ms with hnone | ⟨-, hsame⟩ | ⟨value, hvalue, -⟩
  · exact .inl hnone
  · exact .inr hsame
  · rw [hquiet] at hvalue
    cases hvalue

/-- So nothing appears. -/
theorem gone_of_quiet {ms : List (Move ι)} (hs : s.Staged id) (hquiet : stores ms = [])
    (h : s.stored? id = none) : (s.play id ms).stored? id = none :=
  (stored?_of_quiet hs hquiet).elim (fun hnone => hnone) fun hsame => hsame.trans h

end Scene

end Redis
end TaskQueue
