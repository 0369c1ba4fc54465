import TaskQueue.Proofs.Redis.Contention

/-!
# `TaskQueue.Proofs.Redis.Removal`: what a fetch from Redis deletes

A fetch deletes the key, whatever stands there by then. `read_of_deleting` goes back in a run from
a client that is about to delete to the move with which it read, and `removal` compares the two
moments: what is deleted is the value that was read, unless the worker has stored another one in
between. So a value of the worker can be deleted unread, but only by a fetch that had read an
earlier one before it was stored.

`removal_overtaken` is a run with two values and one client in which this happens.
-/

set_option autoImplicit false

namespace TaskQueue
namespace Redis
namespace Scene

variable {ι : Type} [DecidableEq ι] {id : TaskId} {s : Scene ι} {i j : ι}

/-- In the course of `ms` the client has read the value. Since then `after` has happened. -/
def HasRead (id : TaskId) (s : Scene ι) (ms : List (Move ι)) (i : ι) (value : Bytes)
    (after : List (Move ι)) : Prop :=
  ∃ before, ms = before ++ .turn i :: after ∧ (s.play id before).Reads id i ∧
    (s.play id before).stored? id = some (.string value)

/-- Reading changes nothing. -/
theorem stored?_read (hs : s.Staged id) (hreads : s.Reads id i) :
    (s.step id (.turn i)).stored? id = s.stored? id := by
  rcases stored?_turn hs i with hsame | ⟨-, text, htalks, -⟩
  · exact hsame
  · rw [Reads, htalks] at hreads
    cases hreads

/-- Whoever is about to delete the key has read a value under it, and will return its result. -/
theorem read_of_deleting {server : Server} {clients : ι → Connector} {ms : List (Move ι)}
    {text : String} (h : ((start server clients id).play id ms).talks i = deleting id text) :
    ∃ value after, (start server clients id).HasRead id ms i value after ∧
      resultOf id value = .ok (some (.ofJsonText text)) := by
  have hs := staged_start server clients id
  obtain ⟨before, after, rfl, -, hthen⟩ := turn_of_change (p := fun d => d = deleting id text)
    (not_deleting_start server clients text) h
  rw [play_snoc] at hthen
  obtain ⟨-, hreads, value, hstored, hresult⟩ := (turned_step (hs.play before) i).read hthen
  exact ⟨value, after, ⟨before, rfl, hreads, hstored⟩, hresult⟩

/-- The move ends what is stored: the worker stores another value, or a client deletes the key and
returns what it has read. -/
inductive Ends (id : TaskId) (s : Scene ι) : Move ι → Prop where
  | overwrites (value : Bytes) : Ends id s (.store value)
  | deletes {i : ι} {text : String} (talks : s.talks i = deleting id text)
      (gone : (s.step id (.turn i)).stored? id = none)
      (returns : (s.step id (.turn i)).returned? i = some (.ok (some (.ofJsonText text)))) :
      Ends id s (.turn i)

/-- Any other move leaves it. -/
theorem ends_or_keeps {e : Entry} (hs : s.Staged id) (h : s.stored? id = some e) (m : Move ι) :
    s.Ends id m ∨ stores [m] = [] ∧ (s.step id m).stored? id = some e := by
  cases m with
  | store value => exact .inl (.overwrites value)
  | turn i =>
    rcases stored?_turn hs i with hsame | ⟨hgone, text, htalks, hreturned⟩
    · exact .inr ⟨rfl, hsame.trans h⟩
    · exact .inl (.deletes htalks hgone hreturned)

/-- What is stored stays until a move ends it. -/
theorem stored?_until {e : Entry} (hs : s.Staged id) (h : s.stored? id = some e)
    (ms : List (Move ι)) :
    stores ms = [] ∧ (s.play id ms).stored? id = some e ∨
      ∃ before m after, ms = before ++ m :: after ∧ stores before = [] ∧
        (s.play id before).stored? id = some e ∧ (s.play id before).Ends id m := by
  induction ms generalizing s with
  | nil => exact .inl ⟨rfl, h⟩
  | cons m ms ih =>
    -- Induction on the moves: the first one takes the value away, or it is still there for the
    -- rest.
    rcases ends_or_keeps hs h m with hends | ⟨hm, hkept⟩
    · exact .inr ⟨[], m, ms, rfl, rfl, h, hends⟩
    · have hcons : ∀ ns : List (Move ι), stores (m :: ns) = stores ns := fun ns => by
        rw [← List.singleton_append, stores_append, hm, List.nil_append]
      rcases ih (hs.step m) hkept with ⟨hnone, hend⟩ | ⟨before, m', after, rfl, hnone, hend⟩
      · exact .inl ⟨(hcons ms).trans hnone, hend⟩
      · exact .inr ⟨m :: before, m', after, rfl, (hcons before).trans hnone, hend⟩

/-- What has become of a value that the worker stored after the moves `before`, when the moves
`after` have been made as well. -/
inductive Fate (id : TaskId) (s : Scene ι) (before : List (Move ι)) (value : Bytes)
    (after : List (Move ι)) : Prop where
  /-- It is still stored. -/
  | stored (alone : stores after = [])
      (still : (s.play id (before ++ .store value :: after)).stored? id = some (.string value))
  /-- The worker has overwritten it. -/
  | overwritten {mid rest : List (Move ι)} {later : Bytes}
      (split : after = mid ++ .store later :: rest)
      (still : (s.play id (before ++ .store value :: mid)).stored? id = some (.string value))
  /-- A fetch has deleted it and returned its result. -/
  | returned {mid rest : List (Move ι)} {i : ι} {m : ResultMessage}
      (split : after = mid ++ .turn i :: rest)
      (still : (s.play id (before ++ .store value :: mid)).stored? id = some (.string value))
      (gone : (s.play id (before ++ .store value :: mid ++ [.turn i])).stored? id = none)
      (result : resultOf id value = .ok (some m))
      (returns : (s.play id (before ++ .store value :: mid ++ [.turn i])).returned? i =
        some (.ok (some m)))
  /-- A fetch has deleted it that had read an earlier value before this one was stored. -/
  | unread {mid rest between : List (Move ι)} {i : ι} {earlier : Bytes}
      (split : after = mid ++ .turn i :: rest)
      (still : (s.play id (before ++ .store value :: mid)).stored? id = some (.string value))
      (gone : (s.play id (before ++ .store value :: mid ++ [.turn i])).stored? id = none)
      (read : s.HasRead id before i earlier between)

/-- What the turn of a client after the moves `ms` does to the value that is stored. -/
inductive TurnEffect (id : TaskId) (s : Scene ι) (ms : List (Move ι)) (i : ι) : Prop where
  /-- It stays. -/
  | keeps (same : (s.play id (ms ++ [.turn i])).stored? id = (s.play id ms).stored? id)
  /-- The client deletes the value that it has read, and returns its result. -/
  | deletes {value : Bytes} {after : List (Move ι)} (read : s.HasRead id ms i value after)
      (quiet : stores after = []) (stored : (s.play id ms).stored? id = some (.string value))
      (gone : (s.play id (ms ++ [.turn i])).stored? id = none)
      (returns : (s.play id (ms ++ [.turn i])).returned? i = some (resultOf id value))
  /-- The client deletes the last value that the worker has stored since the client has read. It
  returns the result of the value that it has read. -/
  | overtaken {value later : Bytes} {after : List (Move ι)} (read : s.HasRead id ms i value after)
      (since : (stores after).getLast? = some later)
      (stored : (s.play id ms).stored? id = some (.string later))
      (gone : (s.play id (ms ++ [.turn i])).stored? id = none)
      (returns : (s.play id (ms ++ [.turn i])).returned? i = some (resultOf id value))

/-- A turn has one of these effects. -/
theorem turnEffect {server : Server} {clients : ι → Connector} (ms : List (Move ι)) (i : ι) :
    (start server clients id).TurnEffect id ms i := by
  have hs := staged_start server clients id
  rcases stored?_turn (hs.play ms) i with hsame | ⟨hgone, text, htalks, hreturned⟩
  · exact .keeps (by rw [play_snoc, hsame])
  · obtain ⟨value, after, hread, hresult⟩ := read_of_deleting htalks
    rw [← play_snoc] at hgone hreturned
    rw [← hresult] at hreturned
    have ⟨before, hms, hreads, hstored⟩ := hread
    subst hms
    -- From the moment of reading on, what is stored can change as `stored?_play` says.
    have hsince := stored?_play ((hs.play before).step (.turn i)) after
    rw [stored?_read (hs.play before) hreads, hstored, ← play_snoc, ← play_append,
      List.append_assoc, List.singleton_append] at hsince
    rcases hsince with hnone | ⟨hquiet, hsame⟩ | ⟨later, hlater, hlast⟩
    · exact .keeps (hgone.trans hnone.symm)
    · exact .deletes hread hquiet hsame hgone hreturned
    · exact .overtaken hread hlater hlast hgone hreturned

/-- Every value of the worker comes to one of these ends. -/
theorem fate {server : Server} {clients : ι → Connector} (before : List (Move ι)) (value : Bytes)
    (after : List (Move ι)) : (start server clients id).Fate id before value after := by
  have hs := staged_start server clients id
  have hstored : ((start server clients id).play id (before ++ [.store value])).stored? id =
      some (.string value) := by rw [play_snoc, stored?_store]
  have hsplit : ∀ ms, ((start server clients id).play id (before ++ [.store value])).play id ms =
      (start server clients id).play id (before ++ .store value :: ms) := fun ms => by
    rw [← play_append, List.append_assoc, List.singleton_append]
  rcases stored?_until (hs.play _) hstored after with
    ⟨hnone, hend⟩ | ⟨mid, m, rest, rfl, hnone, hend, hends⟩
  · exact .stored hnone (by rw [← hsplit]; exact hend)
  · rw [hsplit] at hend hends
    cases hends with
    | overwrites later => exact .overwritten rfl hend
    | @deletes i text htalks hgone hreturned =>
      rw [← play_snoc] at hgone hreturned
      obtain ⟨read, since, ⟨earlier, hms, hreads, hread⟩, hresult⟩ := read_of_deleting htalks
      -- The fetch that deletes has read either since the value was stored or before.
      rcases List.append_eq_append_iff.1 hms with ⟨as, rfl, has⟩ | ⟨bs, rfl, hbs⟩
      · obtain ⟨rfl, hmid⟩ | ⟨as', rfl, hmid⟩ := List.cons_eq_append_iff.1 has
        · cases hmid
        · -- Then it has read this value, because no other was stored since.
          rw [hmid, stores_append, List.append_eq_nil_iff] at hnone
          have hsame := stored?_of_quiet (hs.play (before ++ [.store value])) hnone.1
          rw [hsplit, hread, hstored] at hsame
          rcases hsame with hsame | hsame
          · cases hsame
          · cases hsame
            exact .returned rfl hend hgone hresult hreturned
      · obtain ⟨rfl, hbs⟩ | ⟨bs', rfl, -⟩ := List.cons_eq_append_iff.1 hbs
        · cases hbs
        · exact .unread rfl hend hgone ⟨earlier, rfl, hreads, hread⟩

/-- What fetches that remove do to the values of a worker. A deletion removes the value that its
fetch has read and returns, unless the worker has stored another one in between. And every value
that the worker stores is still there, or overwritten by the worker, or returned by a fetch that
deleted it, or else it was deleted by a fetch that had read before it was stored. -/
theorem removal (server : Server) (clients : ι → Connector) (id : TaskId) :
    (∀ ms i, (start server clients id).TurnEffect id ms i) ∧
      ∀ before value after, (start server clients id).Fate id before value after :=
  ⟨turnEffect, fate⟩

/-- A fetch has read that the task is started when the worker stores the result. The fetch deletes
the result and returns what it has read, and nobody ever gets the result. -/
theorem removal_overtaken :
    let id : TaskId := ⟨"7f3a"⟩
    let started := Utf8.encode "\x7b\"status\":\"STARTED\"\x7d"
    let succeeded := Utf8.encode "\x7b\"status\":\"SUCCESS\",\"result\":4\x7d"
    let s : Scene Unit := start {} (fun _ => ⟨{}, true⟩) id
    let ms : List (Move Unit) := [.store started, .turn (), .turn (), .store succeeded]
    (s.play id ms).Deletes id () ∧ (s.play id ms).stored? id = some (.string succeeded) ∧
      (s.play id (ms ++ [.turn ()])).stored? id = none ∧
      (s.play id (ms ++ [.turn ()])).returned? () = some (resultOf id started) ∧
      resultOf id started ≠ resultOf id succeeded := by
  decide +kernel

end Scene
end Redis
end TaskQueue
