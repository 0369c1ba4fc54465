import TaskQueue.Proofs.Redis.Removal

/-!
# `TaskQueue.Proofs.Redis.FirstReader`: who gets a result that is stored once

Several clients fetch the same result and remove it, on a server that executes every command. A
fetch returns what was under the key at the moment at which its GET was executed
(`read_of_returned`), and a fetch that returns a result has deleted the key before
(`gone_of_returned`). Put together for a result that is stored once, `stored_once` says that
everybody gets it who reads before the first of them deletes it, and that nobody gets it who reads
after one of them has returned it.

That is one reader only if the fetches do not overlap: in `stored_once_shared` two of them do, and
both return the result.
-/

set_option autoImplicit false

namespace TaskQueue
namespace Redis

/-- What a server has for a task is the result of the value that is stored. -/
theorem Server.found_of_string {s : Server} {id : TaskId} {value : Bytes}
    (h : s.keys.get? id.resultKey = some (.string value)) : s.found id = resultOf id value := by
  rw [Server.found, h]
  rfl

/-- A fetch finds nothing under a key that holds nothing. -/
theorem Server.found_of_none {s : Server} {id : TaskId}
    (h : s.keys.get? id.resultKey = none) : s.found id = .ok none := by
  rw [Server.found, h]

namespace Scene

variable {ι : Type} [DecidableEq ι] {id : TaskId} {server : Server} {clients : ι → Connector}
  {ms : List (Move ι)} {i : ι}

/-- A fetch that has returned did so at a turn of its own: either it read, or it deleted the key
after it had read. -/
theorem turn_of_returned {r : Found} (hserver : server.Executes)
    (hc : (clients i).connected = true)
    (h : ((start server clients id).play id ms).returned? i = some r) :
    ∃ before after, ms = before ++ .turn i :: after ∧
      (((start server clients id).play id before).Reads id i ∧
          r = ((start server clients id).play id before).server.found id ∧
          (∀ m, r ≠ .ok (some m)) ∨
        ∃ value since, (start server clients id).HasRead id before i value since ∧
          r = resultOf id value ∧
          ((start server clients id).play id (before ++ [.turn i])).stored? id = none) := by
  have hs := staged_start server clients id
  have hstart : ¬ (start server clients id).returned? i = some r := by
    rw [returned?_start hc]
    nofun
  -- It had not returned at the beginning, so there is a turn before which it had not and after
  -- which it has.
  obtain ⟨before, after, rfl, hnot, hthen⟩ :=
    turn_of_change (p := fun d => d.outcome? = some r) hstart h
  refine ⟨before, after, rfl, ?_⟩
  rw [play_snoc] at hthen ⊢
  rcases (turned_step (hs.play before) i).returned (executes_play hs hserver before) hthen with
    hover | hreads | ⟨text, htalks, rfl, hgone⟩
  · exact absurd hover hnot
  · exact .inl hreads
  · obtain ⟨value, since, hread, hresult⟩ := read_of_deleting htalks
    exact .inr ⟨value, since, hread, hresult.symm, hgone⟩

/-- A fetch returns what the server had for the task when the fetch read. -/
theorem read_of_returned {r : Found} (hserver : server.Executes)
    (hc : (clients i).connected = true)
    (h : ((start server clients id).play id ms).returned? i = some r) :
    ∃ before after, ms = before ++ .turn i :: after ∧
      ((start server clients id).play id before).Reads id i ∧
      r = ((start server clients id).play id before).server.found id := by
  obtain ⟨before, after, rfl, ⟨hreads, hfound, -⟩ | ⟨value, since, hread, hresult, -⟩⟩ :=
    turn_of_returned hserver hc h
  · exact ⟨before, after, rfl, hreads, hfound⟩
  · obtain ⟨earlier, rfl, hreads, hstored⟩ := hread
    refine ⟨earlier, since ++ .turn i :: after, by simp, hreads, ?_⟩
    rw [hresult, Server.found_of_string hstored]

/-- A client that is not connected returns just that. -/
theorem returned_of_unconnected {r : Found} (hc : (clients i).connected = false)
    (h : ((start server clients id).play id ms).returned? i = some r) :
    r = .error .notConnected :=
  Option.some.inj
    (h.symm.trans (returned?_play (staged_start server clients id) (outcome_fetch hc) ms))

/-- When a fetch has returned a result, then it has deleted the key after it had read, and unless
the worker has stored something since, nothing is stored now. -/
theorem gone_of_returned {m : ResultMessage} (hserver : server.Executes)
    (h : ((start server clients id).play id ms).returned? i = some (.ok (some m))) :
    ∃ before value since after, ms = before ++ .turn i :: after ∧
      (start server clients id).HasRead id before i value since ∧
      (stores after = [] → ((start server clients id).play id ms).stored? id = none) := by
  have hs := staged_start server clients id
  -- A reader without a connection returns no message.
  have hc : (clients i).connected = true := by
    rw [← Bool.not_eq_false]
    intro hc
    cases returned_of_unconnected hc h
  obtain ⟨before, after, rfl, ⟨-, -, hspared⟩ | ⟨value, since, hread, -, hgone⟩⟩ :=
    turn_of_returned hserver hc h
  · exact absurd rfl (hspared m)
  · refine ⟨before, value, since, after, rfl, hread, fun hquiet => ?_⟩
    have hafter := gone_of_quiet (hs.play (before ++ [.turn i])) hquiet hgone
    rwa [← play_append, List.append_assoc, List.singleton_append] at hafter

/-! ## A result that is stored once -/

/-- What is stored at a moment of a run in which the worker stores one value, on a server that had
none before. -/
theorem stored?_once {value : Bytes} {before after : List (Move ι)}
    (habsent : server.keys.get? id.resultKey = none) (honce : stores (before ++ after) = [value]) :
    ((start server clients id).play id before).stored? id = none ∨
      stores after = [] ∧
        ((start server clients id).play id before).stored? id = some (.string value) := by
  rw [stores_append, List.append_eq_singleton_iff] at honce
  rcases stored?_play (staged_start server clients id) before with
    hnone | ⟨-, hsame⟩ | ⟨later, hlater, hstored⟩
  · exact .inl hnone
  · exact .inl (hsame.trans habsent)
  -- Something was stored before this moment, so it was the one value, and nothing comes after.
  · rcases honce with ⟨hnil, -⟩ | ⟨hone, hafter⟩
    · rw [hnil] at hlater
      cases hlater
    · rw [hone] at hlater
      cases hlater
      exact .inr ⟨hafter, hstored⟩

/-- Once a fetch has returned the result, the key is gone. -/
theorem stored?_of_returned {value : Bytes} {m : ResultMessage} {before after : List (Move ι)}
    (hserver : server.Executes) (habsent : server.keys.get? id.resultKey = none)
    (honce : stores (before ++ after) = [value])
    (h : ((start server clients id).play id before).returned? i = some (.ok (some m))) :
    ((start server clients id).play id before).stored? id = none := by
  obtain ⟨_, read, since, later, rfl, ⟨earlier, rfl, -, hstored⟩, hgone⟩ :=
    gone_of_returned hserver h
  -- The only value had been stored when this fetch read, so there is none to come later.
  have hrest : earlier ++ .turn i :: since ++ .turn i :: later ++ after =
      earlier ++ (.turn i :: since ++ .turn i :: later ++ after) := by simp
  rw [hrest] at honce
  rcases stored?_once habsent honce with hnone | ⟨hnil, -⟩
  · cases hnone.symm.trans hstored
  · simp only [stores_append, stores_turn, List.append_eq_nil_iff] at hnil
    exact hgone hnil.1.2

/-- The result is still there unless a fetch has returned it. -/
theorem kept_or_returned {value : Bytes} (habsent : server.keys.get? id.resultKey = none)
    (honce : stores ms = [value]) :
    ((start server clients id).play id ms).stored? id = some (.string value) ∨
      ((start server clients id).play id ms).stored? id = none ∧
        ∃ i m, resultOf id value = .ok (some m) ∧
          ((start server clients id).play id ms).returned? i = some (.ok (some m)) := by
  have hs := staged_start server clients id
  obtain ⟨early, m, late, rfl, hearly, hm, hlate⟩ := List.filterMap_eq_cons_iff.1 honce
  cases m with
  | turn i => cases hm
  | store stored =>
    cases hm
    have hquiet : stores early = [] := List.filterMap_eq_nil_iff.2 hearly
    change stores late = [] at hlate
    -- Of the fates of a value, two would take another value that the worker has stored.
    have hfate : (start server clients id).Fate id early value late := fate early value late
    cases hfate with
    | stored alone still => exact .inl still
    | overwritten split still =>
      rw [split] at hlate
      simp at hlate
    | @returned mid rest i m split still gone result returns =>
      subst split
      have hrest : stores rest = [] := by
        rw [stores_append, stores_turn, List.append_eq_nil_iff] at hlate
        exact hlate.2
      have hstaged := hs.play (early ++ .store value :: mid ++ [.turn i])
      have hgone := gone_of_quiet hstaged hrest gone
      have hstays := returned?_play hstaged returns rest
      have hall : early ++ .store value :: mid ++ [.turn i] ++ rest =
          early ++ .store value :: (mid ++ .turn i :: rest) := by simp
      rw [← play_append, hall] at hgone hstays
      exact .inr ⟨hgone, i, m, result, hstays⟩
    | @unread mid rest between i earlier split still gone read =>
      exfalso
      obtain ⟨before, rfl, -, hread⟩ := read
      rw [stores_append, List.append_eq_nil_iff] at hquiet
      cases (gone_of_quiet hs hquiet.1 habsent).symm.trans hread

/-- A result that is stored once. Every fetch that is given its three turns returns. It returns the
result if its GET was executed while the result was stored, and nothing otherwise. Once one fetch
has returned it, the key is gone, and whoever reads then returns nothing. And the result is not
gone before some fetch has returned it; in particular a value that is no JSON object stays. -/
theorem stored_once {value : Bytes} (hserver : server.Executes)
    (habsent : server.keys.get? id.resultKey = none) (honce : stores ms = [value]) :
    let s := start server clients id
    (∀ i, 3 ≤ ms.count (.turn i) → ∃ r, (s.play id ms).returned? i = some r) ∧
      (∀ i r, (s.play id ms).returned? i = some r →
        (clients i).connected = false ∧ r = .error .notConnected ∨
        ∃ before after, ms = before ++ .turn i :: after ∧ (s.play id before).Reads id i ∧
          ((s.play id before).stored? id = some (.string value) ∧ r = resultOf id value ∨
            (s.play id before).stored? id = none ∧ r = .ok none)) ∧
      (∀ before after j m, ms = before ++ after →
        (s.play id before).returned? j = some (.ok (some m)) →
        (s.play id before).stored? id = none ∧
          ∀ i, (s.play id before).Reads id i →
            (s.play id (before ++ [.turn i])).returned? i = some (.ok none)) ∧
      ((s.play id ms).stored? id = some (.string value) ∨
        (s.play id ms).stored? id = none ∧ ∃ i m, resultOf id value = .ok (some m) ∧
          (s.play id ms).returned? i = some (.ok (some m))) := by
  intro s
  have hs : s.Staged id := staged_start server clients id
  refine ⟨fun i => returned?_of_turns server clients, fun i r hr => ?_,
    fun before after j m hms hm => ?_, kept_or_returned habsent honce⟩
  · cases hc : (clients i).connected with
    | false => exact .inl ⟨rfl, returned_of_unconnected hc hr⟩
    | true =>
      obtain ⟨before, after, rfl, hreads, rfl⟩ := read_of_returned hserver hc hr
      refine .inr ⟨before, after, rfl, hreads, ?_⟩
      rcases stored?_once habsent honce with hnone | ⟨-, hstored⟩
      · exact .inr ⟨hnone, Server.found_of_none hnone⟩
      · exact .inl ⟨hstored, Server.found_of_string hstored⟩
  · subst hms
    have hnone := stored?_of_returned hserver habsent honce hm
    refine ⟨hnone, fun i hreads => ?_⟩
    rw [play_snoc]
    exact (turned_step (hs.play before) i).reads_nothing (executes_play hs hserver before) hreads
      hnone

/-- Two clients, of which the second reads when the first has returned the result: the second gets
nothing. -/
theorem stored_once_in_turn :
    let id : TaskId := ⟨"7f3a"⟩
    let text := "\x7b\"status\":\"SUCCESS\",\"result\":4\x7d"
    let s : Scene Bool := start {} (fun _ => ⟨{}, true⟩) id
    let ms : List (Move Bool) :=
      [.turn true, .turn false, .store (Utf8.encode text), .turn false, .turn false]
    (s.play id ms).returned? false = some (.ok (some (.ofJsonText text))) ∧
      (s.play id (ms ++ [.turn true])).returned? true = some (.ok none) := by
  intro id text s ms
  have hfirst : (s.play id ms).returned? false = some (.ok (some (.ofJsonText text))) := by
    decide +kernel
  have hserver : Server.Executes {} := ⟨rfl, rfl⟩
  have hstores : stores ms = [Utf8.encode text] := rfl
  have honce := @stored_once Bool _ id {} (fun _ => ⟨{}, true⟩) ms _ hserver rfl hstores
  exact ⟨hfirst,
    (honce.2.2.1 ms [] false _ (List.append_nil ms).symm hfirst).2 true (by decide +kernel)⟩

/-- Two clients whose fetches overlap both return the result. And of a value that is no JSON object
neither of them learns that there is nothing. -/
theorem stored_once_shared :
    let id : TaskId := ⟨"7f3a"⟩
    let s : Scene Bool := start {} (fun _ => ⟨{}, true⟩) id
    let together : List (Move Bool) :=
      [.turn false, .turn true, .turn false, .turn true, .turn false, .turn true]
    (let text := "\x7b\"status\":\"SUCCESS\",\"result\":4\x7d"
      ∀ i, (s.play id (.store (Utf8.encode text) :: together)).returned? i =
        some (.ok (some (.ofJsonText text)))) ∧
    (∀ i, (s.play id (.store (Utf8.encode "[1]") :: together)).returned? i =
      some (.error (.malformed "value under celery-task-meta-7f3a is not a JSON object"))) := by
  decide +kernel

end Scene
end Redis
end TaskQueue
