import TaskQueue.Connection.Descriptor
import TaskQueue.Proofs.Url.Parts

/-!
# `TaskQueue.Proofs.Connection.Urls`: descriptors and the URLs of brokers

A descriptor is read from the URL of a broker, and it writes such URLs. `Descriptor.ofUrl_written`
says what is read from a URL with an escaped user name, password and path: these three in full,
whatever characters they are made of, with one exception. The readers of URLs take a path `.` or
`..` for a step in a tree, escaped or not, and nothing of it is left. Since a virtual host is
written as a path, `Descriptor.amqpUri_round_trip` holds of all descriptors but for the virtual
hosts with these two names, and connections to them go to the virtual host without a name.
-/

set_option autoImplicit false

namespace TaskQueue

namespace Percent

/-- Only the empty string is written as the empty string. -/
theorem encode_eq_empty {s : String} : encode s = "" ↔ s = "" := by
  constructor
  · intro h
    rw [← decode_encode s, h]
    rfl
  · rintro rfl
    rfl

/-- What is percent-encoded is written in unreserved characters and escapes only. -/
theorem isEscaped_encode (s : String) : ∀ c ∈ (encode s).toList, IsEscaped c := by
  rw [encode, String.toList_ofList]
  exact isEscaped_encodeBytes _

/-- The escaped text is one point or two exactly if the text is. -/
theorem points?_encode (s : String) :
    (UrlPath.points? (encode s).toList = some 1 ↔ s = ".") ∧
      (UrlPath.points? (encode s).toList = some 2 ↔ s = "..") := by
  have hbytes : ∀ n t, Utf8.encode t = List.replicate n 0x2E →
      (UrlPath.points? (encode s).toList = some n ↔ s = t) := by
    intro n t ht
    rw [encode, String.toList_ofList, UrlPath.points?_encodeBytes, ← ht]
    exact ⟨Utf8.encode_injective, fun h => by rw [h]⟩
  exact ⟨hbytes 1 "." rfl, hbytes 2 ".." rfl⟩

end Percent

namespace Descriptor

/-- The schemes of brokers have no rules of their own. -/
theorem scheme?_known {scheme backend : String} {port : UInt16}
    (h : scheme? scheme = some (backend, port)) :
    Url.IsScheme scheme.toList ∧ scheme ∉ Url.webSchemes ∧ scheme ≠ "file" := by
  -- There are three known schemes, and what is claimed can be read off each.
  have hknown : scheme = "amqp" ∨ scheme = "amqps" ∨ scheme = "redis" := by
    unfold scheme? at h
    split at h
    · exact .inl ‹_›
    split at h
    · exact .inr (.inl ‹_›)
    split at h
    · exact .inr (.inr ‹_›)
    · cases h
  rcases hknown with rfl | rfl | rfl
  all_goals
    exact ⟨.of_check rfl, by decide, by decide⟩

/-! ## The host -/

/-- A host that comes back from a URL with nothing but the host stands in every URL. -/
theorem host_stands {scheme backend host : String} {port : UInt16}
    (hscheme : scheme? scheme = some (backend, port))
    (h : ∃ d, ofUrl (scheme ++ "://" ++ host) = .ok d ∧ d.host = host) :
    Host.Stands host.toList := by
  obtain ⟨d, hread, hsame⟩ := h
  obtain ⟨hletters, hown⟩ := scheme?_known hscheme
  obtain ⟨cs, hparse, hclean⟩ := Url.parse_written hletters hown host
  unfold ofUrl at hread
  rw [hparse] at hread
  cases hauthority : Url.ofAuthority false scheme cs with
  | error e =>
    rw [hauthority] at hread
    cases hread
  | ok u =>
    rw [hauthority] at hread
    simp only at hread
    split at hread
    · cases hread
    split at hread
    · cases hread
    rename_i chars hchars
    cases hread
    simp only at hsame
    have htext : chars = host.toList := by rw [← hsame, String.toList_ofList]
    subst htext
    obtain ⟨hne, hopaque⟩ := Url.host_ofAuthority hauthority hchars
    have hlegible := Host.legible_of_opaqueHost hopaque hne
    -- Nothing of a legible host is dropped, so the host was read from its own text.
    rw [hclean fun c hc => (Url.isInner_host hlegible c hc).1.1, Url.hostText_alone hlegible]
      at hopaque
    exact ⟨hlegible, hopaque⟩

/-- What a URL is read to can be computed, and its host with it. -/
theorem host_of_read {url host : String}
    (h : (ofUrl url).toOption.map (·.host) = some host) :
    ∃ d, ofUrl url = .ok d ∧ d.host = host := by
  cases hread : ofUrl url with
  | error e =>
    rw [hread] at h
    cases h
  | ok d =>
    rw [hread] at h
    exact ⟨d, rfl, Option.some.inj h⟩

/-! ## What is read from a URL -/

/-- A port is written with its digits. -/
theorem toList_port (port : UInt16) : (toString port).toList = Nat.toDigits 10 port.toNat := by
  show (toString port.toNat).toList = _
  simp

/-- The part of a URL behind `//`, with user name, password and path escaped. -/
def address (login password host : String) (port : UInt16) (path : String) : String :=
  String.ofList
    (Url.credentials (Percent.encode login).toList (Percent.encode password).toList ++
      Url.hostport host.toList port ++ '/' :: (Percent.encode path).toList)

/-- What is read of a path: all of it, but for one or two points. -/
def reread (path : String) : String := if path = "." ∨ path = ".." then "" else path

/-- Decoding undoes the encoding. -/
theorem decoded_encode (s : String) : decoded (Percent.encode s).toList = s :=
  Percent.decode_encode s

/-- A percent-encoded path is read back as its dot segments leave it. -/
theorem decoded_path (path : String) :
    decoded (withoutSlash (UrlPath.ofChars ('/' :: (Percent.encode path).toList))) =
      reread path := by
  have hslash : '/' ∉ (Percent.encode path).toList := fun hc =>
    (Url.isInner_escaped (Percent.isEscaped_encode path _ hc)).2 (by decide)
  obtain ⟨hone, htwo⟩ := Percent.points?_encode path
  simp only [UrlPath.ofChars_segment hslash, hone, htwo, reread]
  split
  · rfl
  · exact decoded_encode path

/-- User name, password and path are read as they were before they were escaped. -/
theorem ofUrl_written {scheme backend host : String} {usual port : UInt16}
    (hscheme : scheme? scheme = some (backend, usual)) (hhost : Host.Stands host.toList)
    (login password path : String) :
    ofUrl (scheme ++ "://" ++ address login password host port path) =
      .ok { host, login, password, vhost := reread path, port, backend } := by
  obtain ⟨hletters, hown⟩ := scheme?_known hscheme
  obtain ⟨cs, hparse, hclean⟩ :=
    Url.parse_written hletters hown (address login password host port path)
  have hlogin := Percent.isEscaped_encode login
  have hpassword := Percent.isEscaped_encode password
  have hpath := Percent.isEscaped_encode path
  -- None of the characters is one that would be stripped off the ends of a URL.
  have hinner : ∀ c ∈ (address login password host port path).toList, Url.isEdge c = false := by
    rw [address, String.toList_ofList]
    intro c hc
    rcases List.mem_append.1 hc with hc | hc
    · rcases List.mem_append.1 hc with hc | hc
      · exact (Url.isInner_credentials hlogin hpassword c hc).1
      · exact (Url.isInner_hostport hhost.legible port c hc).1.1
    · rcases List.mem_cons.1 hc with rfl | hc
      · rfl
      · exact (Url.isInner_escaped (hpath c hc)).1.1
  have hread := Url.ofAuthority_written scheme port hlogin hpassword hhost hpath
  rw [hclean hinner, address, String.toList_ofList, hread] at hparse
  unfold ofUrl
  rw [address, hparse]
  simp only [hscheme, decoded_encode, decoded_path, Option.getD_some, String.ofList_toList]

/-! ## The AMQP URL -/

/-- The scheme of the AMQP URL. -/
def amqpScheme (d : Descriptor) : String := if d.wantsTls then "amqps" else "amqp"

/-- The virtual host that the AMQP URL names: the default one if the descriptor leaves it open. -/
def namedVhost (d : Descriptor) : String := if d.vhost.isEmpty then "/" else d.vhost

/-- Both schemes of the AMQP address are known. -/
theorem scheme?_amqp (d : Descriptor) :
    ∃ backend port, scheme? d.amqpScheme = some (backend, port) := by
  unfold amqpScheme
  split
  · exact ⟨_, _, rfl⟩
  · exact ⟨_, _, rfl⟩

/-- Without login and password no user information is written. -/
theorem credentials_none :
    Url.credentials (Percent.encode "").toList (Percent.encode "").toList = [] := rfl

/-- With a login, login and password are written with a colon between them. -/
theorem credentials_some {login : String} (h : login ≠ "") (password : String) :
    Url.credentials (Percent.encode login).toList (Percent.encode password).toList =
      (Percent.encode login).toList ++ ':' :: ((Percent.encode password).toList ++ ['@']) := by
  rw [Url.credentials, if_neg]
  rintro ⟨hnone, -⟩
  rw [String.toList_eq_nil_iff, Percent.encode_eq_empty] at hnone
  exact h hnone

/-- Without a user name the AMQP URL has no password either. -/
theorem amqpUri_eq (d : Descriptor) :
    d.amqpUri = d.amqpScheme ++ "://" ++
      address d.login (if d.login.isEmpty then "" else d.password) d.host d.port d.namedVhost := by
  apply String.ext
  unfold amqpUri address Url.hostport
  dsimp only
  split
  · -- The password is left out together with the user name.
    rename_i hlogin
    rw [String.isEmpty_iff.1 hlogin, credentials_none]
    simp [amqpScheme, namedVhost, toList_port]
  · rename_i hlogin
    rw [credentials_some fun h => hlogin (String.isEmpty_iff.2 h)]
    simp [amqpScheme, namedVhost, toList_port]

/-- What is read from the AMQP URL of a descriptor. -/
theorem ofUrl_amqpUri {d : Descriptor} (hhost : Host.Stands d.host.toList) :
    ∃ backend, ofUrl d.amqpUri = .ok {
      host := d.host
      login := d.login
      password := if d.login.isEmpty then "" else d.password
      vhost := reread d.namedVhost
      port := d.port
      backend := backend } := by
  obtain ⟨backend, _, hscheme⟩ := scheme?_amqp d
  refine ⟨backend, ?_⟩
  rw [amqpUri_eq]
  exact ofUrl_written hscheme hhost _ _ _

/-- A virtual host is read again exactly if it is not one of the two that stand for steps. -/
theorem reread_namedVhost (d : Descriptor) :
    (reread d.namedVhost = d.namedVhost ↔ d.vhost ≠ "." ∧ d.vhost ≠ "..") ∧
      (d.vhost = "." ∨ d.vhost = ".." → reread d.namedVhost = "") := by
  by_cases hempty : d.vhost = ""
  · -- The default virtual host is a slash, and no step.
    have hnamed : d.namedVhost = "/" := by simp [namedVhost, hempty]
    rw [hnamed, hempty]
    decide
  · have hnamed : d.namedVhost = d.vhost := by simp [namedVhost, hempty]
    rw [hnamed, reread]
    by_cases hsteps : d.vhost = "." ∨ d.vhost = ".."
    · rw [if_pos hsteps]
      refine ⟨⟨fun h => absurd h.symm hempty, fun h => ?_⟩, fun _ => rfl⟩
      exact (hsteps.elim h.1 h.2).elim
    · rw [if_neg hsteps]
      exact ⟨⟨fun _ => not_or.1 hsteps, fun _ => rfl⟩, fun h => absurd h hsteps⟩

/-- A descriptor comes back from its AMQP URL with its host, its port and its credentials. Its
virtual host comes back exactly if it is neither `.` nor `..`, and from these two it is lost. -/
theorem amqpUri_round_trip {d : Descriptor}
    (hhost : ∃ d', ofUrl ("amqp://" ++ d.host) = .ok d' ∧ d'.host = d.host)
    (hlogin : d.login ≠ "" ∨ d.password = "") :
    ∃ d', ofUrl d.amqpUri = .ok d' ∧ d'.host = d.host ∧ d'.port = d.port ∧
      d'.login = d.login ∧ d'.password = d.password ∧
      (d'.vhost = (if d.vhost = "" then "/" else d.vhost) ↔ d.vhost ≠ "." ∧ d.vhost ≠ "..") ∧
      (d.vhost = "." ∨ d.vhost = ".." → d'.vhost = "") := by
  have hfront : "amqp://" = "amqp" ++ "://" := by decide +kernel
  rw [hfront] at hhost
  have hscheme : scheme? "amqp" = some (auto, 5672) := rfl
  have hstands : Host.Stands d.host.toList := host_stands hscheme hhost
  obtain ⟨backend, hread⟩ := ofUrl_amqpUri hstands
  have hpassword : (if d.login.isEmpty then "" else d.password) = d.password := by
    split
    · rename_i hnone
      exact (hlogin.resolve_left fun h => h (String.isEmpty_iff.1 hnone)).symm
    · rfl
  have hvhost : (if d.vhost = "" then "/" else d.vhost) = d.namedVhost := by
    simp [namedVhost]
  rw [hvhost]
  exact ⟨_, hread, rfl, rfl, rfl, hpassword, reread_namedVhost d⟩

/-- Separators, percent signs and letters beyond ASCII come back, also next to an IPv6 address. -/
theorem amqpUri_round_trip_separators :
    let d : Descriptor :=
      { host := "[2001:db8::1]", port := 5671, login := "ü@:/", password := "%2e#",
        vhost := "a/../ö" }
    ∃ d', ofUrl d.amqpUri = .ok d' ∧ d'.host = "[2001:db8::1]" ∧ d'.login = "ü@:/" ∧
      d'.password = "%2e#" ∧ d'.vhost = "a/../ö" := by
  intro d
  have hhost : ∃ d', ofUrl ("amqp://" ++ d.host) = .ok d' ∧ d'.host = d.host :=
    host_of_read (by decide +kernel)
  have hlogin : d.login ≠ "" := by decide +kernel
  have hsteps : d.vhost ≠ "." ∧ d.vhost ≠ ".." := by decide +kernel
  have hvhost : (if d.vhost = "" then "/" else d.vhost) = d.vhost := by decide +kernel
  obtain ⟨d', hd', hall⟩ := amqpUri_round_trip hhost (.inl hlogin)
  exact ⟨d', hd', hall.1, hall.2.2.1, hall.2.2.2.1, (hall.2.2.2.2.1.2 hsteps).trans hvhost⟩

/-- The virtual host `.` becomes the one without a name. -/
theorem amqpUri_loses_vhost :
    let d : Descriptor := { host := "h", vhost := "." }
    (ofUrl ("amqp://" ++ d.host)).toOption.map (·.host) = some d.host ∧
      d.password = "" ∧ d.amqpUri = "amqp://h:5672/%2E" ∧
      (ofUrl d.amqpUri).toOption.map (·.vhost) = some "" := by
  decide +kernel

end Descriptor
end TaskQueue
