import TaskQueue.Amqp.Broker
import TaskQueue.Proofs.Connection.RedisUrls

/-!
# `TaskQueue.Proofs.Connection.Credentials`: who a client says it is

A transport takes the user name and the password from the URL that it dials
(`Descriptor.credentialsIn`). Which URL that is depends on the backend, and the two URLs of a
descriptor are written by different rules. The Redis URL has a password whenever there is one. The
AMQP URL has one only next to a user name.

`Descriptor.credentials_dialled` compares the two for every descriptor whose host can stand in a
URL. They give the same credentials, which are those of the descriptor, unless the descriptor has a
password and no user name. Then a client dials Redis with that password, and a broker for AMQP
without any, so that it is taken for a guest there.
-/

set_option autoImplicit false

namespace TaskQueue
namespace Descriptor

/-- The user name and the password in a URL, with their escapes resolved. -/
def credentialsIn (url : String) : Option (String × String) :=
  (Url.parse url).toOption.map fun u => (decoded u.username, decoded u.password)

/-- A descriptor has the credentials of the URL that it was read from. -/
theorem credentialsIn_of_ofUrl {url : String} {d : Descriptor} (h : ofUrl url = .ok d) :
    credentialsIn url = some (d.login, d.password) := by
  unfold ofUrl at h
  split at h
  · cases h
  rename_i u hparse
  split at h
  · cases h
  split at h
  · cases h
  · cases h
    rw [credentialsIn, hparse]
    rfl

/-- User name and password are the same in the two URLs of a descriptor, and are those of the
descriptor, unless it has a password without a user name. The Redis URL has it then, and the AMQP
URL has neither. -/
theorem credentials_dialled {d : Descriptor}
    (hhost : ∃ d', ofUrl ("amqp://" ++ d.host) = .ok d' ∧ d'.host = d.host) :
    credentialsIn d.redisUrl = some (d.login, d.password) ∧
      credentialsIn d.amqpUri = some (d.login, if d.login = "" then "" else d.password) ∧
      (credentialsIn d.amqpUri = credentialsIn d.redisUrl ↔ d.login ≠ "" ∨ d.password = "") := by
  have hfront : "amqp://" = "amqp" ++ "://" := rfl
  rw [hfront] at hhost
  have hscheme : scheme? "amqp" = some (auto, 5672) := rfl
  have hstands : Host.Stands d.host.toList := host_stands hscheme hhost
  have hredis := credentialsIn_of_ofUrl (ofUrl_redisUrl hstands)
  obtain ⟨backend, hread⟩ := ofUrl_amqpUri hstands
  have hamqp := credentialsIn_of_ofUrl hread
  refine ⟨hredis, by simpa using hamqp, ?_⟩
  rw [hredis, hamqp]
  by_cases hlogin : d.login = ""
  · simp [hlogin]
  · simp [hlogin]

/-- Any characters come through in both URLs, as long as there is a user name. -/
theorem credentials_dialled_named :
    let d : Descriptor := { host := "rabbit", login := "ü@", password := ":/%2e" }
    credentialsIn d.amqpUri = some ("ü@", ":/%2e") ∧
      credentialsIn d.redisUrl = some ("ü@", ":/%2e") := by
  intro d
  have hread : (ofUrl "amqp://rabbit").toOption.map (·.host) = some "rabbit" := by rfl
  have hhost : ∃ d', ofUrl ("amqp://" ++ d.host) = .ok d' ∧ d'.host = d.host :=
    host_of_read hread
  have hlogin : d.login ≠ "" := by decide
  obtain ⟨hredis, -, hsame⟩ := credentials_dialled hhost
  exact ⟨(hsame.2 (.inl hlogin)).trans hredis, hredis⟩

/-- A password that a URL gives without a user name is not in the AMQP URL, and the broker takes the
client for a guest. Redis gets the password. -/
theorem credentials_dialled_not :
    ((ofUrl "amqp://:secret@127.0.0.1").toOption.map fun d =>
        (d.password, d.amqpUri, credentialsIn d.amqpUri, credentialsIn d.redisUrl)) =
      some ("secret", "amqp://127.0.0.1:5672/%2F", some ("", ""), some ("", "secret")) ∧
    (Amqp.Broker.accept {} "amqp://127.0.0.1:5672/%2F").2.2.log =
      [.connectionStart "guest" "guest", .connectionOpen "/"] :=
  ⟨rfl, rfl⟩

end Descriptor
end TaskQueue
