import TaskQueue.Proofs.Connection.Urls

/-!
# `TaskQueue.Proofs.Connection.RedisUrls`: descriptors and their Redis URLs

A Redis URL has the credentials of its descriptor in one of three forms, and a number for a path:
the database that the virtual host names. `Descriptor.redisUrl_eq` brings the three forms together.
User name and password are escaped in front of the host, and they are left out only if both are
empty. So a URL is read back by the rule for all written URLs, and `Descriptor.ofUrl_redisUrl` holds
of every descriptor whose host can stand in a URL.

What is lost is the spelling of the virtual host. `Descriptor.redisUrl_round_trip` is about virtual
hosts that name a database: the number comes back without the slashes that were in front of it, and
it names the same database.
-/

set_option autoImplicit false

namespace TaskQueue

/-! ## Digits in a path -/

namespace Percent

/-- A digit is its own escape. -/
theorem encodeBytes_digit {c : Char} (hc : c.isDigit = true) :
    encodeBytes isAlphanumeric (Utf8.encodeChar c) = [c] := by
  have hascii : c.toNat < 128 := isAlphanum_ascii (by simp [Char.isAlphanum, hc])
  exact ascii_forall
    (P := fun c => c.isDigit = true → encodeBytes isAlphanumeric (Utf8.encodeChar c) = [c])
    (by decide) hascii hc

/-- Digits are written as they are. -/
theorem encodeBytes_digits {cs : List Char} (hcs : Json.Digits cs) :
    encodeBytes isAlphanumeric (Utf8.encodeChars cs) = cs := by
  induction cs with
  | nil => rfl
  | cons c cs ih =>
    have hfirst := encodeBytes_digit (hcs c List.mem_cons_self)
    have hrest := ih fun d hd => hcs d (List.mem_cons_of_mem _ hd)
    rw [encodeBytes] at hfirst hrest ⊢
    rw [Utf8.encodeChars, List.flatMap_cons, List.flatMap_append, hfirst, ← Utf8.encodeChars,
      hrest, List.singleton_append]

/-- There is nothing to be escaped in a number. -/
theorem encode_toString (n : Nat) : encode (toString n) = toString n := by
  have hdigits : Json.Digits (toString n).toList := by
    rw [Nat.toString_eq_ofList_toDigits, String.toList_ofList]
    exact Json.digits_natChars n
  rw [encode, Utf8.encode, encodeBytes_digits hdigits, String.ofList_toList]

end Percent

namespace Descriptor

/-! ## The database -/

/-- A number is read from its digits if it fits 32 bits. -/
theorem index?_toDigits {k : Nat} (hk : k < 2 ^ 32) : index? (Nat.toDigits 10 k) = some k := by
  have hdigits : Json.Digits (Nat.toDigits 10 k) := Json.digits_natChars k
  have hne : Nat.toDigits 10 k ≠ [] := Nat.toDigits_ne_nil
  -- A plus sign in front would be skipped, but a decimal numeral has none.
  have hplus : ∀ rest, Nat.toDigits 10 k ≠ '+' :: rest := by
    intro rest hcons
    exact absurd (hdigits '+' (by simp [hcons])) (by decide)
  have hvalue : (Nat.toDigits 10 k).foldl (fun n c => n * 10 + (c.toNat - 0x30)) 0 = k := by
    simp only [Nat.mul_comm _ 10]
    exact Nat.ofDigitChars_eq_foldl.symm.trans Nat.ofDigitChars_ten_toDigits
  have hall : (Nat.toDigits 10 k).all Char.isDigit = true := List.all_eq_true.2 hdigits
  unfold index?
  split
  · rename_i rest hcons
    exact absurd hcons (hplus rest)
  · simpa [hne, hall, hvalue] using hk

/-- Slashes in front of a number do not count. -/
theorem database_of_vhost {d : Descriptor} {slashes k : Nat} (hk : k < 2 ^ 32)
    (h : d.vhost = String.ofList (List.replicate slashes '/') ++ toString k) :
    d.database = k := by
  have hdigits : Json.Digits (Nat.toDigits 10 k) := Json.digits_natChars k
  have htext : d.vhost.toList = List.replicate slashes '/' ++ Nat.toDigits 10 k := by
    simp [h]
  -- All leading slashes are dropped, and the numeral begins with none of its own.
  have hdrop : d.vhost.toList.dropWhile (· == '/') = Nat.toDigits 10 k := by
    rw [htext, List.dropWhile_append_of_pos (by simp)]
    obtain ⟨c, cs, hcons⟩ := List.exists_cons_of_ne_nil (@Nat.toDigits_ne_nil k 10)
    have hslash : c ≠ '/' := by
      rintro rfl
      exact absurd (hdigits '/' (by simp [hcons])) (by decide)
    rw [hcons, List.dropWhile_cons_of_neg (by simpa using hslash)]
  rw [database, hdrop, index?_toDigits hk]
  rfl

/-- A number is no step in a path. -/
theorem reread_toString (n : Nat) : reread (toString n) = toString n := by
  have hstep (s : String) (hs : '.' ∈ s.toList) : toString n ≠ s := by
    rintro rfl
    rw [Nat.toString_eq_ofList_toDigits, String.toList_ofList] at hs
    exact absurd (Json.digits_natChars n '.' hs) (by decide)
  rw [reread, if_neg (not_or.2 ⟨hstep "." (by decide), hstep ".." (by decide)⟩)]

/-! ## The Redis URL -/

/-- In all three forms the credentials are those in front of the host of any URL. -/
theorem redisCredentials_eq (d : Descriptor) :
    d.redisCredentials.toList =
      Url.credentials (Percent.encode d.login).toList (Percent.encode d.password).toList := by
  by_cases hlogin : d.login = ""
  -- A password without a login is written all the same, behind an empty login.
  · by_cases hpassword : d.password = ""
    · have hnone : d.redisCredentials = "" := by simp [redisCredentials, hlogin, hpassword]
      rw [hnone, hlogin, hpassword]
      rfl
    · have hne : (Percent.encode d.password).toList ≠ [] := fun h =>
        hpassword (Percent.encode_eq_empty.1 (String.toList_eq_nil_iff.1 h))
      have hsome : d.redisCredentials = ":" ++ Percent.encode d.password ++ "@" := by
        simp [redisCredentials, hlogin, hpassword]
      rw [hsome, hlogin, Url.credentials, if_neg fun h => hne h.2, Percent.encode_eq_empty.2 rfl]
      simp
  · have hsome : d.redisCredentials =
        Percent.encode d.login ++ ":" ++ Percent.encode d.password ++ "@" := by
      simp [redisCredentials, hlogin]
    rw [hsome, credentials_some hlogin]
    simp

/-- A Redis address is the scheme and the address of the server with the database as its path. -/
theorem redisUrl_eq (d : Descriptor) :
    d.redisUrl =
      "redis" ++ "://" ++ address d.login d.password d.host d.port (toString d.database) := by
  apply String.ext
  rw [address, Percent.encode_toString]
  simp [redisUrl, Url.hostport, redisCredentials_eq, toList_port]

/-- What is read from the Redis URL of a descriptor. -/
theorem ofUrl_redisUrl {d : Descriptor} (hhost : Host.Stands d.host.toList) :
    ofUrl d.redisUrl = .ok {
      host := d.host
      login := d.login
      password := d.password
      vhost := toString d.database
      port := d.port
      backend := "redis" } := by
  have hscheme : scheme? "redis" = some ("redis", 6379) := rfl
  rw [redisUrl_eq, ofUrl_written hscheme hhost, reread_toString]

/-- A descriptor whose virtual host names a database comes back from its Redis URL with its host,
its port, its credentials and the number of the database. It has the same Redis URL then. -/
theorem redisUrl_round_trip {d : Descriptor}
    (hhost : ∃ d', ofUrl ("redis://" ++ d.host) = .ok d' ∧ d'.host = d.host)
    {slashes k : Nat} (hk : k < 2 ^ 32)
    (hvhost : d.vhost = String.ofList (List.replicate slashes '/') ++ toString k) :
    ∃ d', ofUrl d.redisUrl = .ok d' ∧ d'.host = d.host ∧ d'.login = d.login ∧
      d'.password = d.password ∧ d'.port = d.port ∧ d'.vhost = toString k ∧
      d'.backend = "redis" ∧ d'.redisUrl = d.redisUrl := by
  have hfront : "redis://" = "redis" ++ "://" := rfl
  rw [hfront] at hhost
  have hscheme : scheme? "redis" = some ("redis", 6379) := rfl
  have hread := ofUrl_redisUrl (host_stands hscheme hhost)
  have hdatabase : d.database = k := database_of_vhost hk hvhost
  rw [hdatabase] at hread
  obtain ⟨d', hd'⟩ : ∃ d' : Descriptor, d' =
    { host := d.host, login := d.login, password := d.password, vhost := toString k,
      port := d.port, backend := "redis" } := ⟨_, rfl⟩
  -- The number without its slashes names the same database.
  have hplain : d'.vhost = String.ofList (List.replicate 0 '/') ++ toString k := by simp [hd']
  have hagain : d'.database = k := database_of_vhost hk hplain
  refine ⟨d', by rw [hread, hd'], ?_⟩
  rw [redisUrl, hagain, redisUrl, hdatabase, hd']
  exact ⟨rfl, rfl, rfl, rfl, rfl, rfl, rfl⟩

/-- A password without a user name comes back, and so does the number of a database. -/
theorem redisUrl_round_trip_nameless :
    let d : Descriptor :=
      { host := "[2001:db8::1]", port := 6380, password := ":p@ss/ü%", vhost := "//4294967295" }
    ∃ d', ofUrl d.redisUrl = .ok d' ∧ d'.login = "" ∧ d'.password = ":p@ss/ü%" ∧
      d'.vhost = "4294967295" ∧ d'.redisUrl = d.redisUrl := by
  intro d
  have hread : (ofUrl "redis://[2001:db8::1]").toOption.map (·.host) = some "[2001:db8::1]" := by
    rfl
  have hhost : ∃ d', ofUrl ("redis://" ++ d.host) = .ok d' ∧ d'.host = d.host :=
    host_of_read hread
  have hvhost : d.vhost = String.ofList (List.replicate 2 '/') ++ toString 4294967295 := rfl
  obtain ⟨d', hd', -, hlogin, hpassword, -, hdatabase, -, hsame⟩ :=
    redisUrl_round_trip hhost (by decide) hvhost
  exact ⟨d', hd', hlogin, hpassword, hdatabase.trans rfl, hsame⟩

end Descriptor
end TaskQueue
