import Mathlib.Data.List.TakeWhile
import TaskQueue.Proofs.Json.Numeral
import TaskQueue.Proofs.Url.Host
import TaskQueue.Proofs.Url.Scheme

/-!
# `TaskQueue.Proofs.Url.Parts`: a URL that is put together from its parts

User name, password and path are escaped before they are put into a URL, and the host is one that
stands in a URL already. So no part contains what separates it from the next one, and each of the
splitters finds the border that was written: `Url.ofAuthority_written` for what stands behind `//`,
and `Url.parse_written` for the whole URL. The path is the exception. It comes out as it was put in
unless it consists of one or two points (`UrlPath.ofChars_segment`), and a point that was escaped is
a point all the same (`UrlPath.points?_encodeBytes`).

Conversely `Url.host_ofAuthority` says which text the host of a URL was read from.
-/

set_option autoImplicit false

namespace TaskQueue

/-! ## Paths -/

namespace UrlPath

/-- A path without a slash is one segment. -/
theorem splitSegments_single {segment : List Char} (h : '/' ∉ segment) :
    splitSegments segment = [segment] := by
  induction segment with
  | nil => rfl
  | cons c cs ih =>
    obtain ⟨hc, hcs⟩ := List.ne_and_not_mem_of_not_mem_cons h
    rw [splitSegments, if_neg (Ne.symm hc), ih hcs]

/-- A path of one segment stays as it is, unless the segment is made of one or two points. -/
theorem ofChars_segment {segment : List Char} (h : '/' ∉ segment) :
    ofChars ('/' :: segment) =
      '/' :: (if points? segment = some 1 ∨ points? segment = some 2 then [] else segment) := by
  have hresolve : resolve [] [segment] =
      ([], if points? segment = some 1 ∨ points? segment = some 2 then [] else segment) := by
    -- There is nothing to go up to, so two points lead as little anywhere as one.
    simp only [resolve, goUp]
    split
    · rename_i hone
      rw [if_pos (.inl hone)]
    · rename_i hone
      split
      · rename_i htwo
        rw [if_pos (.inr htwo)]
      · rename_i htwo
        rw [if_neg (not_or.2 ⟨hone, htwo⟩)]
  rw [ofChars, splitSegments_single h, hresolve]
  rfl

/-- A segment that does not begin with a point, escaped or not, is not made of points. -/
theorem points?_eq_none {c : Char} {cs : List Char} (hpoint : c ≠ '.')
    (hescape : c = '%' → ∀ d rest, cs = '2' :: d :: rest → d ≠ 'e' ∧ d ≠ 'E') :
    points? (c :: cs) = none := by
  unfold points?
  split
  · rename_i h
    cases h
  · rename_i h
    cases h
    exact absurd rfl hpoint
  · rename_i rest h
    cases h
    exact absurd rfl (hescape rfl _ _ rfl).1
  · rename_i rest h
    cases h
    exact absurd rfl (hescape rfl _ _ rfl).2
  · rfl

/-- The escapes of a byte that is no point do not begin with a point. -/
theorem points?_other {b : UInt8} (hb : b ≠ 0x2E) (rest : List Char) :
    points? ((if Percent.isAlphanumeric b then [Char.ofNat b.toNat] else Percent.escape b) ++
      rest) = none := by
  split
  · rename_i hplain
    have halnum := Percent.isAlphanum_of_plain hplain
    rw [List.singleton_append]
    refine points?_eq_none (fun h => ?_) fun h => ?_
    · rw [h] at halnum
      exact absurd halnum (by decide)
    · rw [h] at halnum
      exact absurd halnum (by decide)
  · refine points?_eq_none (by decide) fun _ d rest' h => ?_
    obtain ⟨hhigh, h⟩ := List.cons.inj h
    obtain ⟨hlow, -⟩ := List.cons.inj h
    -- The digits of the byte would be 2 and 14.
    have hvalue : ∀ n c, Percent.hexDigit n = c → Percent.hexValue? c = some (n % 16) := by
      rintro n c rfl
      exact Percent.hexValue?_hexDigit n
    have hlt : b.toNat < 256 := b.toNat_lt
    have htwo : 2 = b.toNat / 16 % 16 := Option.some.inj (hvalue _ _ hhigh)
    refine ⟨?_, ?_⟩
    all_goals
      rintro rfl
      have hfourteen : 14 = b.toNat % 16 := Option.some.inj (hvalue _ _ hlow)
      refine hb (UInt8.toNat_inj.1 ?_)
      show b.toNat = 46
      omega

/-- Escapes hide no points. -/
theorem points?_encodeBytes (bs : Bytes) (n : Nat) :
    points? (Percent.encodeBytes Percent.isAlphanumeric bs) = some n ↔
      bs = List.replicate n 0x2E := by
  induction bs generalizing n with
  | nil =>
    cases n with
    | zero => simp [Percent.encodeBytes, points?]
    | succ n => simp [Percent.encodeBytes, points?, List.replicate_succ]
  | cons b bs ih =>
    -- An escaped point still counts as one, and any other byte ends the count.
    by_cases hb : b = 0x2E
    · subst hb
      have hfront : points? (Percent.encodeBytes Percent.isAlphanumeric (0x2E :: bs)) =
          (points? (Percent.encodeBytes Percent.isAlphanumeric bs)).map (· + 1) := rfl
      rw [hfront]
      cases n with
      | zero => simp
      | succ n => simp [List.replicate_succ, ih]
    · rw [Percent.encodeBytes, List.flatMap_cons, points?_other hb]
      cases n with
      | zero => simp
      | succ n => simp [List.replicate_succ, hb]

end UrlPath

namespace Url

/-! ## Borders -/

/-- A text is split at its last `@`. -/
theorem splitUserinfo_none {cs : List Char} (h : '@' ∉ cs) : splitUserinfo cs = (none, cs) := by
  induction cs with
  | nil => rfl
  | cons c cs ih =>
    obtain ⟨hc, hcs⟩ := List.ne_and_not_mem_of_not_mem_cons h
    simp only [splitUserinfo, ih hcs, if_neg (Ne.symm hc)]

/-- The user information is what stands before the at sign. -/
theorem splitUserinfo_some {cs : List Char} (h : '@' ∉ cs) (userinfo : List Char) :
    splitUserinfo (userinfo ++ '@' :: cs) = (some userinfo, cs) := by
  -- What follows has no `@`, so the one in front of it is the last.
  induction userinfo with
  | nil => simp only [List.nil_append, splitUserinfo, splitUserinfo_none h, if_true]
  | cons c userinfo ih => simp only [List.cons_append, splitUserinfo, ih]

/-- The password is what stands after the colon. -/
theorem splitPassword_written {user : List Char} (h : ':' ∉ user) (password : List Char) :
    splitPassword (user ++ ':' :: password) = (user, password) := by
  induction user with
  | nil => rfl
  | cons c user ih =>
    obtain ⟨hc, huser⟩ := List.ne_and_not_mem_of_not_mem_cons h
    simp only [List.cons_append, splitPassword, if_neg (Ne.symm hc), ih huser]

/-- Without a bracket or a colon there is no border. -/
theorem splitPort_name {cs : List Char} (h : ∀ c ∈ cs, c ≠ ':' ∧ c ≠ '[' ∧ c ≠ ']')
    (rest : List Char) :
    splitPort false (cs ++ rest) =
      (cs ++ (splitPort false rest).1, (splitPort false rest).2) := by
  induction cs with
  | nil => rfl
  | cons c cs ih =>
    obtain ⟨hcolon, hopen, hclose⟩ := h c List.mem_cons_self
    have htail := ih fun d hd => h d (List.mem_cons_of_mem _ hd)
    simp only [List.cons_append, splitPort, hcolon, hopen, hclose, false_and, if_false, htail]

/-- Up to the closing bracket there is no border. -/
theorem splitPort_inside {cs : List Char} (h : ∀ c ∈ cs, c ≠ '[' ∧ c ≠ ']') (rest : List Char) :
    splitPort true (cs ++ ']' :: rest) =
      (cs ++ ']' :: (splitPort false rest).1, (splitPort false rest).2) := by
  induction cs with
  | nil => rfl
  | cons c cs ih =>
    obtain ⟨hopen, hclose⟩ := h c List.mem_cons_self
    have htail := ih fun d hd => h d (List.mem_cons_of_mem _ hd)
    simp only [List.cons_append, splitPort, hopen, hclose, Bool.not_true, Bool.false_eq_true,
      and_false, if_false, htail]

/-- There is no border inside a host. -/
theorem splitPort_host {host : List Char} (h : Host.Legible host) (rest : List Char) :
    splitPort false (host ++ rest) =
      (host ++ (splitPort false rest).1, (splitPort false rest).2) := by
  cases h with
  | name hne hcs =>
    refine splitPort_name (fun c hc => ?_) rest
    have hallowed := (hcs c hc).2.2
    refine ⟨?_, ?_, ?_⟩
    all_goals
      rintro rfl
      exact hallowed (by decide)
  | @address cs hcs =>
    -- The colons of an address stand between brackets, where no port begins.
    have hinside : ∀ c ∈ cs, c ≠ '[' ∧ c ≠ ']' := by
      intro c hc
      refine ⟨?_, ?_⟩
      all_goals
        rintro rfl
        exact absurd (hcs _ hc) (by unfold Ipv6.IsAddressChar; decide)
    have hfirst : splitPort false ('[' :: (cs ++ ']' :: rest)) =
        ('[' :: (splitPort true (cs ++ ']' :: rest)).1,
          (splitPort true (cs ++ ']' :: rest)).2) := rfl
    rw [List.cons_append, List.append_assoc, List.singleton_append, hfirst,
      splitPort_inside hinside, List.cons_append, List.append_assoc, List.singleton_append]

/-! ## Ports -/

/-- Further digits do not make a number smaller. -/
theorem le_ofDigitChars (cs : List Char) (value : Nat) :
    value ≤ Nat.ofDigitChars 10 cs value := by
  rw [Nat.ofDigitChars_eq_ofDigitChars_zero]
  exact Nat.le_add_right_of_le (Nat.le_mul_of_pos_left value (Nat.pow_pos (by decide)))

/-- The digits of a port are read as its number. -/
theorem readPort_digits {cs : List Char} (hcs : Json.Digits cs) {value : Nat}
    (hvalue : Nat.ofDigitChars 10 cs value < 65536) :
    readPort value cs = .ok (Nat.ofDigitChars 10 cs value) := by
  induction cs generalizing value with
  | nil => rfl
  | cons c cs ih =>
    have hstep : value * 10 + (c.toNat - 0x30) = 10 * value + (c.toNat - '0'.toNat) := by
      rw [Nat.mul_comm]
      rfl
    rw [Nat.ofDigitChars_cons] at hvalue ⊢
    have hgrows := le_ofDigitChars cs (10 * value + (c.toNat - '0'.toNat))
    -- The value so far is below the bound because the whole value is.
    rw [readPort, if_pos (hcs c List.mem_cons_self)]
    simp only
    rw [if_pos (by omega), hstep]
    exact ih (fun d hd => hcs d (List.mem_cons_of_mem _ hd)) hvalue

/-- A port is read as it was written. -/
theorem port?_written (port : UInt16) : port? (Nat.toDigits 10 port.toNat) = .ok (some port) := by
  have hdigits : Json.Digits (Nat.toDigits 10 port.toNat) := Json.digits_natChars port.toNat
  have hvalue : Nat.ofDigitChars 10 (Nat.toDigits 10 port.toNat) 0 = port.toNat :=
    Nat.ofDigitChars_ten_toDigits
  have hsmall : port.toNat < 65536 := port.toNat_lt
  have hread : readPort 0 (Nat.toDigits 10 port.toNat) = .ok port.toNat := by
    rw [readPort_digits hdigits (by rwa [hvalue]), hvalue]
  rw [port?, if_neg (by simp [Nat.toDigits_ne_nil]), hread, Except.map, UInt16.ofNat_toNat]

/-! ## What is written -/

/-- A character as it stands inside of what follows `//`: it is not dropped, and it does not end the
part. -/
def IsInner (c : Char) : Prop := isEdge c = false ∧ endsAuthority false c = false

/-- What is percent-encoded holds none of the characters that divide an address. -/
theorem isInner_escaped {c : Char} (h : Percent.IsEscaped c) :
    IsInner c ∧ c ∉ ['/', ':', '@', '\\'] := by
  have hascii : c.toNat < 128 := h.elim isAlphanum_ascii (by rintro rfl; decide)
  exact ascii_forall
    (P := fun c => Percent.IsEscaped c → IsInner c ∧ c ∉ ['/', ':', '@', '\\'])
    (by unfold Percent.IsEscaped IsInner; decide) hascii h

/-- A character of a host stands inside, and does not end the credentials. -/
theorem isInner_host {host : List Char} (h : Host.Legible host) :
    ∀ c ∈ host, IsInner c ∧ c ≠ '@' := by
  intro c hc
  cases h with
  | name hne hcs =>
    have hname := hcs c hc
    have hascii : c.toNat < 128 := Nat.lt_of_le_of_lt hname.2.1 (by decide)
    exact ascii_forall (P := fun c => Host.IsNameChar c → IsInner c ∧ c ≠ '@')
      (by unfold Host.IsNameChar IsInner; decide) hascii hname
  | address hcs =>
    simp only [List.mem_cons, List.mem_append, List.not_mem_nil, or_false] at hc
    rcases hc with rfl | hc | rfl
    · exact ⟨⟨rfl, rfl⟩, by decide⟩
    · rcases hcs c hc with halnum | rfl
      · have hinner := isInner_escaped (.inl halnum)
        refine ⟨hinner.1, ?_⟩
        rintro rfl
        exact hinner.2 (by decide)
      · exact ⟨⟨rfl, rfl⟩, by decide⟩
    · exact ⟨⟨rfl, rfl⟩, by decide⟩

/-- User name and password as they are written in front of a host, if there is any of them. -/
def credentials (user password : List Char) : List Char :=
  if user = [] ∧ password = [] then [] else user ++ ':' :: (password ++ ['@'])

/-- The credentials are read back as user and password. -/
theorem splitUserinfo_credentials {user : List Char} (huser : ':' ∉ user) (password : List Char)
    {rest : List Char} (hrest : '@' ∉ rest) :
    ∃ userinfo, splitUserinfo (credentials user password ++ rest) = (userinfo, rest) ∧
      splitPassword (userinfo.getD []) = (user, password) := by
  unfold credentials
  split
  · rename_i hempty
    rw [hempty.1, hempty.2]
    exact ⟨none, splitUserinfo_none hrest, rfl⟩
  · refine ⟨some (user ++ ':' :: password), ?_, splitPassword_written huser password⟩
    rw [List.append_assoc, List.cons_append, List.append_assoc, List.singleton_append,
      ← List.cons_append, ← List.append_assoc, splitUserinfo_some hrest]

end Url

namespace Host

/-- The host is read from its own text. -/
structure Stands (host : List Char) : Prop where
  legible : Legible host
  read : opaqueHost host = .ok host

/-- A host that can be read is not empty. -/
theorem Legible.ne_nil {host : List Char} (h : Legible host) : host ≠ [] := by
  cases h with
  | name hne => exact hne
  | address => exact List.cons_ne_nil _ _

end Host

namespace Url

/-- Percent-encoded credentials stay inside of the authority. -/
theorem isInner_credentials {user password : List Char}
    (huser : ∀ c ∈ user, Percent.IsEscaped c) (hpassword : ∀ c ∈ password, Percent.IsEscaped c) :
    ∀ c ∈ credentials user password, IsInner c := by
  intro c hc
  unfold credentials at hc
  split at hc
  · cases hc
  · simp only [List.mem_append, List.mem_cons, List.not_mem_nil, or_false] at hc
    rcases hc with hc | rfl | hc | rfl
    · exact (isInner_escaped (huser c hc)).1
    · exact ⟨rfl, rfl⟩
    · exact (isInner_escaped (hpassword c hc)).1
    · exact ⟨rfl, rfl⟩

/-- The digits of a number are among the characters that are never escaped. -/
theorem isEscaped_digit {n : Nat} {c : Char} (hc : c ∈ Nat.toDigits 10 n) :
    Percent.IsEscaped c := by
  have hdigit : c.isDigit = true := Json.digits_natChars n c hc
  exact .inl (by simp [Char.isAlphanum, hdigit])

/-- Host and port as they are written. -/
def hostport (host : List Char) (port : UInt16) : List Char :=
  host ++ ':' :: Nat.toDigits 10 port.toNat

/-- So do host and port, which hold no at sign either. -/
theorem isInner_hostport {host : List Char} (hhost : Host.Legible host) (port : UInt16) :
    ∀ c ∈ hostport host port, IsInner c ∧ c ≠ '@' := by
  intro c hc
  simp only [hostport, List.mem_append, List.mem_cons] at hc
  rcases hc with hc | rfl | hc
  · exact isInner_host hhost c hc
  · exact ⟨⟨rfl, rfl⟩, by decide⟩
  · have hinner := isInner_escaped (isEscaped_digit hc)
    refine ⟨hinner.1, ?_⟩
    rintro rfl
    exact hinner.2 (by decide)

/-- Host and port are read back as they were written. -/
theorem splitPort_hostport {host : List Char} (hhost : Host.Legible host) (port : UInt16) :
    splitPort false (hostport host port) = (host, some (Nat.toDigits 10 port.toNat)) := by
  rw [hostport, splitPort_host hhost]
  simp [splitPort]

/-- The part behind `//` ends with the first slash. -/
theorem authority_ends {authority : List Char} (h : ∀ c ∈ authority, IsInner c)
    (rest : List Char) :
    (authority ++ '/' :: rest).takeWhile (fun c => !endsAuthority false c) = authority ∧
      (authority ++ '/' :: rest).dropWhile (fun c => !endsAuthority false c) = '/' :: rest := by
  have hinner : ∀ c ∈ authority, (!endsAuthority false c) = true := by
    intro c hc
    rw [(h c hc).2]
    rfl
  rw [List.takeWhile_append_of_pos hinner, List.dropWhile_append_of_pos hinner,
    List.takeWhile_cons_of_neg (by decide), List.dropWhile_cons_of_neg (by decide),
    List.append_nil]
  exact ⟨rfl, rfl⟩

/-- The digits of a port have no backslash behind them. -/
theorem port_ends (port : Nat) :
    (Nat.toDigits 10 port).takeWhile (· != '\\') = Nat.toDigits 10 port ∧
      (Nat.toDigits 10 port).dropWhile (· != '\\') = [] := by
  have hplain : ∀ c ∈ Nat.toDigits 10 port, (c != '\\') = true := by
    intro c hc
    rw [bne_iff_ne]
    rintro rfl
    exact (isInner_escaped (isEscaped_digit hc)).2 (by decide)
  exact ⟨List.takeWhile_eq_self_iff.2 hplain, List.dropWhile_eq_nil_iff.2 hplain⟩

/-- Neither a query nor a fragment follows an escaped path. -/
theorem path_ends {segment : List Char} (h : ∀ c ∈ segment, Percent.IsEscaped c) :
    ('/' :: segment).takeWhile (fun c => !endsPath c) = '/' :: segment := by
  refine List.takeWhile_eq_self_iff.2 fun c hc => ?_
  rcases List.mem_cons.1 hc with rfl | hc
  · rfl
  · have hinner := (isInner_escaped (h c hc)).1.2
    simp only [endsAuthority, Bool.or_eq_false_iff] at hinner
    simp [endsPath, hinner]

/-- What stands behind `//` is taken apart as it was put together. -/
theorem ofAuthority_written (scheme : String) {user password host segment : List Char}
    (port : UInt16) (huser : ∀ c ∈ user, Percent.IsEscaped c)
    (hpassword : ∀ c ∈ password, Percent.IsEscaped c) (hhost : Host.Stands host)
    (hsegment : ∀ c ∈ segment, Percent.IsEscaped c) :
    ofAuthority false scheme
        (credentials user password ++ hostport host port ++ '/' :: segment) =
      .ok ⟨scheme, user, password, some host, some port, UrlPath.ofChars ('/' :: segment)⟩ := by
  have hinner : ∀ c ∈ credentials user password ++ hostport host port, IsInner c := by
    intro c hc
    rcases List.mem_append.1 hc with hc | hc
    · exact isInner_credentials huser hpassword c hc
    · exact (isInner_hostport hhost.legible port c hc).1
  obtain ⟨hfront, hbehind⟩ := authority_ends hinner segment
  have hcolon : ':' ∉ user := fun hc => (isInner_escaped (huser _ hc)).2 (by decide)
  have hat : '@' ∉ hostport host port := fun hc =>
    (isInner_hostport hhost.legible port _ hc).2 rfl
  obtain ⟨userinfo, hsplit, hpair⟩ := splitUserinfo_credentials hcolon password hat
  have hne : host.isEmpty = false := by simp [hhost.legible.ne_nil]
  have hplace : (hostport host port).isEmpty = false := by simp [hostport]
  -- None of the parts that must not be empty is, since the host is not.
  unfold ofAuthority
  simp only [hfront, hbehind, hsplit, hpair, splitPort_hostport hhost.legible, hne, hplace,
    hhost.read, Option.getD_some, port_ends port.toNat, path_ends hsegment, port?_written port,
    Bool.false_eq_true, false_and, and_false, if_false]
  simp only [bind, Except.bind, hne, Bool.false_eq_true, false_and, if_false, List.nil_append]

/-! ## The host that was read -/

/-- The text between credentials and port. -/
def hostText (cs : List Char) : List Char :=
  (splitPort false (splitUserinfo (cs.takeWhile fun c => !endsAuthority false c)).2).1

/-- The host of a URL was read from the text in its place. -/
theorem host_ofAuthority {scheme : String} {cs : List Char} {u : Url} {host : List Char}
    (hread : ofAuthority false scheme cs = .ok u) (hhost : u.host = some host) :
    host ≠ [] ∧ Host.opaqueHost (hostText cs) = .ok host := by
  unfold ofAuthority at hread
  dsimp only at hread
  split at hread
  · cases hread
  split at hread
  · cases hread
  -- Without rules of the web the host is opaque.
  rw [if_neg Bool.false_ne_true] at hread
  obtain ⟨h, hopaque, hread⟩ := Except.bind_ok hread
  split at hread
  · cases hread
  obtain ⟨port, -, hread⟩ := Except.bind_ok hread
  split at hread
  · cases hread
  · cases hread
    simp only at hhost
    split at hhost
    · cases hhost
    · rename_i hne
      cases hhost
      exact ⟨fun h => hne (by rw [h]; rfl), hopaque⟩

/-- A host that stands alone is its own text. -/
theorem hostText_alone {host : List Char} (h : Host.Legible host) : hostText host = host := by
  have hinner : ∀ c ∈ host, (!endsAuthority false c) = true := by
    intro c hc
    rw [(isInner_host h c hc).1.2]
    rfl
  have hat : '@' ∉ host := fun hc => (isInner_host h _ hc).2 rfl
  have halone := splitPort_host h []
  rw [List.append_nil] at halone
  rw [hostText, List.takeWhile_eq_self_iff.2 hinner, splitUserinfo_none hat, halone]
  exact List.append_nil host

/-! ## Whole URLs -/

/-- A URL with a scheme that has no rules of its own is read from what stands behind `//`. If
nothing is to be dropped there, this is what was written. -/
theorem parse_written {scheme : String} (hscheme : IsScheme scheme.toList)
    (hown : scheme ∉ webSchemes ∧ scheme ≠ "file") (rest : String) :
    ∃ cs, parse (scheme ++ "://" ++ rest) = ofAuthority false scheme cs ∧
      ((∀ c ∈ rest.toList, isEdge c = false) → cs = rest.toList) := by
  have hprintable : ∀ c ∈ scheme.toList ++ "://".toList, isEdge c = false := by
    intro c hc
    rcases List.mem_append.1 hc with hc | hc
    · have := toNat_small (hscheme.small c hc)
      exact decide_eq_false (by omega)
    · have hseparator : c = ':' ∨ c = '/' := by simpa using hc
      rcases hseparator with rfl | rfl
      · rfl
      · rfl
  have htext : scheme ++ "://" ++ rest =
      String.ofList (scheme.toList ++ "://".toList ++ rest.toList) := by
    apply String.ext
    simp
  -- The front stays where it is, whatever is dropped behind it.
  obtain ⟨cs, hclean⟩ := cleaned_front hprintable (by simp) rest.toList
  have hfront : scheme.toList ++ "://".toList ++ cs = scheme.toList ++ ':' :: '/' :: '/' :: cs := by
    simp
  refine ⟨cs, ?_, fun hrest => ?_⟩
  · unfold parse
    rw [htext, hclean, hfront, scheme?_written hscheme]
    simp only [String.ofList_toList]
    rw [if_neg (by simpa using hown.1), if_neg hown.2]
  · rw [cleaned_of_clean] at hclean
    · exact (List.append_cancel_left hclean).symm
    · intro c hc
      rcases List.mem_append.1 hc with hc | hc
      · exact hprintable c hc
      · exact hrest c hc

end Url
end TaskQueue
