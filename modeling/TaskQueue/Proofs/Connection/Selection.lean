import TaskQueue.Connection.Selection
import TaskQueue.Proofs.Text.Folding

/-!
# `TaskQueue.Proofs.Connection.Selection`: which backend a descriptor gets

`Capabilities.Chosen` lists, case by case, what may come of a name: the name leaves the choice
open, or it names a backend, or it names none. `Capabilities.resolve_selects` says that the
registry does what is listed there and nothing else, for every text that a descriptor may hold as
the name of its backend. The name is that text without the white space around it.

Two things follow for every descriptor. What is chosen is supported, and whoever supports more
still chooses. Only a choice among the backends for plain connections may then fall on another one.
-/

set_option autoImplicit false

namespace TaskQueue

/-! ## The names of the backends -/

namespace BackendKind

/-- The names of a backend in small letters. -/
def names : BackendKind → List String
  | native => ["native"]
  | amqp => ["amqp"]
  | amqpTls => ["amqp-tls", "amqps"]
  | redis => ["redis"]

/-- A text is one of the names, in capitals or small letters. -/
def NamedBy (kind : BackendKind) (n : String) : Prop := Text.lower n ∈ kind.names

/-- A lower-case name selects a backend exactly if it is one of the names of that backend. -/
theorem ofLower?_iff {s : String} {kind : BackendKind} :
    ofLower? s = some kind ↔ s ∈ kind.names := by
  have hdistinct : ∀ kind' : BackendKind, s ∈ kind'.names → ofLower? s = some kind' := by
    intro kind' hs
    cases kind' <;> simp only [names, List.mem_cons, List.not_mem_nil, or_false] at hs
    · exact hs ▸ rfl
    · exact hs ▸ rfl
    · rcases hs with rfl | rfl <;> rfl
    · exact hs ▸ rfl
  refine ⟨fun h => ?_, hdistinct kind⟩
  -- Conversely, the text is compared with one name after the other, and a match says which.
  unfold ofLower? at h
  split at h
  · cases h
    simp [names, *]
  · split at h
    · cases h
      simp [names, *]
    · split at h
      · cases h
        simpa [names] using ‹_›
      · split at h
        · cases h
          simp [names, *]
        · cases h

/-- A name is read as the backend that has it. -/
theorem ofName_ok_iff {n : String} {kind : BackendKind} :
    ofName n = .ok kind ↔ kind.NamedBy n := by
  unfold ofName NamedBy
  rw [← ofLower?_iff]
  cases ofLower? (Text.lower n) with
  | none => simp
  | some kind' => simp

/-- A name that no backend has is reported as it was given. -/
theorem ofName_unknown {n : String} (h : ∀ kind : BackendKind, ¬ kind.NamedBy n) :
    ofName n = .error (.unknownBackend n) := by
  unfold ofName
  split
  · rename_i kind hkind
    exact (h kind (ofLower?_iff.1 hkind)).elim
  · rfl

/-- The full lower-casing of Unicode finds a name in no text in which that of ASCII does not. -/
theorem namedBy_iff {n : String} {kind : BackendKind} :
    kind.NamedBy n ↔ ∃ t ∈ kind.names, Text.sameIgnoringAsciiCase n t = true := by
  -- No name has a `k`, so the Kelvin sign is not mistaken for a letter of one.
  have hplain : ∀ t ∈ kind.names, (t.toList.all fun l => decide (l.toNat < 0x80 ∧ l ≠ 'k')) ∧
      t.toList.map Char.toLower = t.toList := by
    cases kind <;> decide +kernel
  have hfolds (t : String) (ht : t ∈ kind.names) :
      Text.lower n = t ↔ Text.sameIgnoringAsciiCase n t = true := by
    have hsmall (l : Char) (hl : l ∈ t.toList) : l.toNat < 0x80 ∧ l ≠ 'k' :=
      of_decide_eq_true (List.all_eq_true.1 (hplain t ht).1 l hl)
    exact Text.lower_eq_iff hsmall (hplain t ht).2
  constructor
  · intro h
    exact ⟨_, h, (hfolds _ h).1 rfl⟩
  · rintro ⟨t, ht, hsame⟩
    have hlower := (hfolds t ht).2 hsame
    rwa [NamedBy, hlower]

end BackendKind

/-! ## The choice -/

namespace Capabilities

/-- A name that leaves the choice open: none at all, or `auto` in capitals or small letters. -/
def Open (n : String) : Prop := n = "" ∨ Text.sameIgnoringAsciiCase n "auto" = true

/-- The first of these backends that is supported. -/
def First (c : Capabilities) (kinds : List BackendKind) (kind : BackendKind) : Prop :=
  ∃ before after, kinds = before ++ kind :: after ∧ c.supports kind = true ∧
    ∀ k ∈ before, c.supports k = false

/-- What comes of the name of a backend, with the wish for an encrypted connection or without. -/
inductive Chosen (c : Capabilities) (n : String) : Bool → Except Error BackendKind → Prop
  | encrypted (hopen : Open n) (hsupports : c.supports .amqpTls = true) :
      Chosen c n true (.ok .amqpTls)
  | noneEncrypts (hopen : Open n) (hlacks : c.supports .amqpTls = false) :
      Chosen c n true (.error .noBackendAvailable)
  | plain {kind : BackendKind} (hopen : Open n) (hfirst : c.First [.native, .amqp, .redis] kind) :
      Chosen c n false (.ok kind)
  | nonePlain (hopen : Open n)
      (hlacks : ∀ k ∈ [BackendKind.native, .amqp, .redis], c.supports k = false) :
      Chosen c n false (.error .noBackendAvailable)
  | named {kind : BackendKind} (tls : Bool) (hclosed : ¬ Open n) (hname : kind.NamedBy n)
      (hsupports : c.supports kind = true) : Chosen c n tls (.ok kind)
  | unavailable {kind : BackendKind} (tls : Bool) (hclosed : ¬ Open n) (hname : kind.NamedBy n)
      (hlacks : c.supports kind = false) : Chosen c n tls (.error (.backendUnavailable kind.name))
  | unknown (tls : Bool) (hclosed : ¬ Open n) (hname : ∀ kind : BackendKind, ¬ kind.NamedBy n) :
      Chosen c n tls (.error (.unknownBackend n))

/-- Whatever the one supports the other supports too. -/
def Within (c c' : Capabilities) : Prop :=
  ∀ kind, c.supports kind = true → c'.supports kind = true

variable {c c' : Capabilities} {n : String} {kind : BackendKind}

/-- More capabilities include those there were. -/
theorem within_add (c : Capabilities) (kind : BackendKind) : c.Within (c.add kind) := by
  intro k hk
  cases kind <;> cases k <;> first | rfl | exact hk

/-- The search finds the first kind that is supported. -/
theorem find?_first {kinds : List BackendKind} :
    kinds.find? c.supports = some kind ↔ c.First kinds kind := by
  rw [List.find?_eq_some_iff_append]
  constructor
  · rintro ⟨hsupports, before, after, rfl, hlacks⟩
    exact ⟨before, after, rfl, hsupports, fun k hk => by simpa using hlacks k hk⟩
  · rintro ⟨before, after, rfl, hsupports, hlacks⟩
    exact ⟨hsupports, before, after, rfl, fun k hk => by simpa using hlacks k hk⟩

/-- Who supports more has a first backend wherever there was one. -/
theorem First.grows {kinds : List BackendKind} (h : c.First kinds kind) (hwithin : c.Within c') :
    ∃ kind', c'.First kinds kind' := by
  obtain ⟨before, after, hkinds, hsupports, -⟩ := h
  have hsome : (kinds.find? c'.supports).isSome = true := by
    rw [List.find?_isSome]
    exact ⟨kind, by simp [hkinds], hwithin kind hsupports⟩
  obtain ⟨kind', hfind⟩ := Option.isSome_iff_exists.1 hsome
  exact ⟨kind', find?_first.1 hfind⟩

/-! ## What is asked for -/

/-- A descriptor whose backend is blank or leaves the choice open names none. -/
theorem explicitBackend_open {d : Descriptor} (hn : Text.Trimmed d.backend n) (hopen : Open n) :
    d.explicitBackend = none := by
  rw [Descriptor.explicitBackend, ← Text.trimmed_iff.1 hn]
  refine if_pos (Bool.or_eq_true_iff.2 ?_)
  rcases hopen with rfl | hauto
  · exact .inl rfl
  · exact .inr hauto

/-- Any other descriptor names its backend. -/
theorem explicitBackend_closed {d : Descriptor} (hn : Text.Trimmed d.backend n)
    (hclosed : ¬ Open n) : d.explicitBackend = some n := by
  rw [Descriptor.explicitBackend, ← Text.trimmed_iff.1 hn]
  refine if_neg fun h => hclosed ?_
  rcases Bool.or_eq_true_iff.1 h with hempty | hauto
  · exact .inl (String.isEmpty_iff.1 hempty)
  · exact .inr hauto

/-- What the registry does is one of the cases. -/
theorem chosen_resolve {d : Descriptor} (hn : Text.Trimmed d.backend n) :
    Chosen c n d.wantsTls (c.resolve d) := by
  by_cases hopen : Open n
  · rw [resolve, explicitBackend_open hn hopen, select]
    cases d.wantsTls with
    | true =>
      rw [if_pos rfl]
      cases htls : c.supports .amqpTls with
      | true => exact .encrypted hopen htls
      | false => exact .noneEncrypts hopen htls
    | false =>
      rw [if_neg Bool.false_ne_true]
      cases hfind : plainPreference.find? c.supports with
      | some kind => exact .plain hopen (find?_first.1 hfind)
      | none => exact .nonePlain hopen fun k hk => by simpa using List.find?_eq_none.1 hfind k hk
  · rw [resolve, explicitBackend_closed hn hopen, select]
    cases hname : BackendKind.ofName n with
    | ok kind =>
      have hnamed := BackendKind.ofName_ok_iff.1 hname
      cases hsupports : c.supports kind with
      | true => simpa [hsupports] using Chosen.named d.wantsTls hopen hnamed hsupports
      | false => simpa [hsupports] using Chosen.unavailable d.wantsTls hopen hnamed hsupports
    | error e =>
      -- Reading a name fails in one way only, so the error is known without looking into it.
      have hnone : ∀ kind : BackendKind, ¬ kind.NamedBy n := by
        intro kind hnamed
        rw [BackendKind.ofName_ok_iff.2 hnamed] at hname
        cases hname
      rw [BackendKind.ofName_unknown hnone] at hname
      cases hname
      exact .unknown d.wantsTls hopen hnone

/-- What the cases say, the registry does. -/
theorem Chosen.resolve_eq {d : Descriptor} {r : Except Error BackendKind}
    (hn : Text.Trimmed d.backend n) (h : Chosen c n d.wantsTls r) : c.resolve d = r := by
  generalize htls : d.wantsTls = tls at h
  cases h with
  -- The choice is open: it is up to whether TLS is wanted, and to what the registry supports.
  | encrypted hopen hsupports =>
    rw [resolve, explicitBackend_open hn hopen, select, if_pos htls, if_pos hsupports]
  | noneEncrypts hopen hlacks =>
    rw [resolve, explicitBackend_open hn hopen, select, if_pos htls,
      if_neg (Bool.eq_false_iff.1 hlacks)]
  | plain hopen hfirst =>
    rw [resolve, explicitBackend_open hn hopen, select, if_neg (Bool.eq_false_iff.1 htls),
      plainPreference, find?_first.2 hfirst]
  | nonePlain hopen hlacks =>
    have hnone : plainPreference.find? c.supports = none :=
      List.find?_eq_none.2 fun k hk => Bool.eq_false_iff.1 (hlacks k hk)
    rw [resolve, explicitBackend_open hn hopen, select, if_neg (Bool.eq_false_iff.1 htls), hnone]
  -- A backend is named, and nothing else is asked for.
  | named _ hclosed hname hsupports =>
    rw [resolve, explicitBackend_closed hn hclosed, select, BackendKind.ofName_ok_iff.2 hname]
    exact if_pos hsupports
  | unavailable _ hclosed hname hlacks =>
    rw [resolve, explicitBackend_closed hn hclosed, select, BackendKind.ofName_ok_iff.2 hname]
    exact if_neg (Bool.eq_false_iff.1 hlacks)
  | unknown _ hclosed hname =>
    rw [resolve, explicitBackend_closed hn hclosed, select, BackendKind.ofName_unknown hname]

/-! ## What follows from the cases -/

/-- What is chosen is supported. -/
theorem Chosen.supports {tls : Bool} (h : Chosen c n tls (.ok kind)) : c.supports kind = true := by
  cases h with
  | encrypted _ hsupports => exact hsupports
  | plain _ hfirst => exact hfirst.choose_spec.choose_spec.2.1
  | named _ _ _ hsupports => exact hsupports

/-- Who supports more chooses too. -/
theorem Chosen.grows {tls : Bool} (h : Chosen c n tls (.ok kind)) (hwithin : c.Within c') :
    ∃ kind', Chosen c' n tls (.ok kind') := by
  cases h with
  | encrypted hopen hsupports => exact ⟨_, .encrypted hopen (hwithin _ hsupports)⟩
  | plain hopen hfirst =>
    obtain ⟨kind', hfirst'⟩ := hfirst.grows hwithin
    exact ⟨kind', .plain hopen hfirst'⟩
  | named _ hclosed hname hsupports => exact ⟨_, .named tls hclosed hname (hwithin _ hsupports)⟩

/-- By name and for an encrypted connection it is the same backend that is chosen. -/
theorem Chosen.stays {tls : Bool} (h : Chosen c n tls (.ok kind)) (hwithin : c.Within c')
    (hbound : ¬ Open n ∨ tls = true) : Chosen c' n tls (.ok kind) := by
  cases h with
  | encrypted hopen hsupports => exact .encrypted hopen (hwithin _ hsupports)
  | plain hopen hfirst =>
    -- An open choice among plain connections is the one that may change.
    rcases hbound with hclosed | htls
    · exact (hclosed hopen).elim
    · cases htls
  | named _ hclosed hname hsupports => exact .named tls hclosed hname (hwithin _ hsupports)

/-- The choice of a backend for a descriptor that names it in this way. -/
structure Selects (c : Capabilities) (d : Descriptor) (n : String) : Prop where
  /-- Each outcome is one of the cases, and each case has its outcome. -/
  chosen : ∀ r, c.resolve d = r ↔ Chosen c n d.wantsTls r
  /-- Nothing else in the descriptor counts. -/
  nothingElse : ∀ d' : Descriptor, d'.backend = d.backend → d'.wantsTls = d.wantsTls →
    c.resolve d' = c.resolve d
  /-- What is chosen is supported. -/
  supported : ∀ kind, c.resolve d = .ok kind → c.supports kind = true
  /-- With more backends there is still one to choose. -/
  grows : ∀ c', c.Within c' → ∀ kind, c.resolve d = .ok kind → ∃ kind', c'.resolve d = .ok kind'
  /-- By name and for an encrypted connection it is the same one. -/
  stays : ∀ c', c.Within c' → ¬ Open n ∨ d.wantsTls = true →
    ∀ kind, c.resolve d = .ok kind → c'.resolve d = .ok kind

/-- For every descriptor and all capabilities, the backend is chosen by the name that is left when
the white space around it is dropped, by the wish for encryption, and by what is supported. -/
theorem resolve_selects (c : Capabilities) (d : Descriptor) {n : String}
    (hn : Text.Trimmed d.backend n) : Selects c d n where
  chosen _ := ⟨fun h => h ▸ chosen_resolve hn, fun h => h.resolve_eq hn⟩
  nothingElse d' hbackend htls := by
    have hn' : Text.Trimmed d'.backend n := hbackend ▸ hn
    exact Chosen.resolve_eq hn' (htls ▸ chosen_resolve hn)
  supported _ h := (h ▸ chosen_resolve hn : Chosen c n d.wantsTls _).supports
  grows c' hwithin _ h := by
    obtain ⟨kind', hchosen⟩ := (h ▸ chosen_resolve hn : Chosen c n d.wantsTls _).grows hwithin
    exact ⟨kind', hchosen.resolve_eq hn⟩
  stays c' hwithin hbound _ h :=
    ((h ▸ chosen_resolve hn : Chosen c n d.wantsTls _).stays hwithin hbound).resolve_eq hn

/-- A name among blanks that ASCII does not know is found, and reported by its canonical form. It
is kept when there are more backends. Where the choice is left open, the Redis backend gives way to
the native one as soon as there is one. -/
theorem resolve_selects_amqps :
    let named : Descriptor := { host := "rabbit", backend := "\u3000AMQPS\u00a0" }
    let left : Descriptor := { host := "rabbit", backend := " Auto\t" }
    let tlsOnly : Capabilities := ofList [.amqpTls]
    let redisOnly : Capabilities := ofList [.redis]
    (Text.Trimmed named.backend "AMQPS" ∧ tlsOnly.resolve named = .ok .amqpTls ∧
      (tlsOnly.add .native).resolve named = .ok .amqpTls ∧
      redisOnly.resolve named = .error (.backendUnavailable "amqp-tls")) ∧
      Text.Trimmed left.backend "Auto" ∧ redisOnly.resolve left = .ok .redis ∧
        (redisOnly.add .native).resolve left = .ok .native := by
  intro named left tlsOnly redisOnly
  have hnamed : Text.Trimmed named.backend "AMQPS" := Text.trimmed_iff.2 (by decide +kernel)
  have hleft : Text.Trimmed left.backend "Auto" := Text.trimmed_iff.2 (by decide +kernel)
  have hclosed : ¬ Open "AMQPS" := by
    unfold Open
    decide +kernel
  have hname : BackendKind.amqpTls.NamedBy "AMQPS" :=
    BackendKind.namedBy_iff.2 ⟨"amqps", by decide, rfl⟩
  have hfound : tlsOnly.resolve named = .ok .amqpTls :=
    ((resolve_selects tlsOnly named hnamed).chosen _).2 (.named _ hclosed hname rfl)
  refine ⟨⟨hnamed, hfound, ?_, ?_⟩, hleft, ?_, ?_⟩
  · exact (resolve_selects tlsOnly named hnamed).stays _ (within_add _ _) (.inl hclosed) _ hfound
  · exact ((resolve_selects _ named hnamed).chosen _).2 (.unavailable _ hclosed hname rfl)
  · exact ((resolve_selects _ left hleft).chosen _).2
      (.plain (.inr rfl) ⟨[.native, .amqp], [], rfl, rfl, by decide⟩)
  · exact ((resolve_selects _ left hleft).chosen _).2
      (.plain (.inr rfl) ⟨[], [.amqp, .redis], rfl, rfl, by decide⟩)

end Capabilities
end TaskQueue
