import TaskQueue.Config
import TaskQueue.Proofs.Json.Order

/-!
# `TaskQueue.Proofs.Config`: a file and an environment together

`Config.applyEnvironment_ok_iff` says all that the environment does to a configuration: it is taken
in exactly if the URLs in it can be read, and what comes out is `Config.overridden`, whatever the
combination of variables. The variables are applied in an order in which only the backend of the
broker is set twice, and there the name wins over the URL.

A URL says where a broker is (`Descriptor.place`) and which backend reaches it. How the broker is
used (`Descriptor.tuning`) it does not say, but a descriptor that was read from a URL has the
defaults there, and it takes the place of the whole descriptor of the file. So
`Config.load_agrees` has one condition: the tuning of a file survives a URL only if it is the
default one. Everything else is as the file says, or as the variable says that determines it.
-/

set_option autoImplicit false

namespace TaskQueue

/-! ## What a URL determines -/

/-- Where a broker is, and who connects to it. -/
structure Place where
  host : String
  login : String
  password : String
  vhost : String
  port : UInt16
deriving DecidableEq

/-- How a broker is used. -/
structure Tuning where
  exchange : String
  binding : String
  persistentMessages : Bool
  resultExpire : UInt64
  keepMessages : Bool
  durableResultQueue : Bool
  waitTimeoutMillis : UInt64
  tls : TlsOptions

namespace Descriptor

/-- The part of a descriptor that says where the broker is. -/
def place (d : Descriptor) : Place := ⟨d.host, d.login, d.password, d.vhost, d.port⟩

/-- The part of a descriptor of which a URL says nothing. -/
def tuning (d : Descriptor) : Tuning :=
  ⟨d.exchange, d.binding, d.persistentMessages, d.resultExpire, d.keepMessages,
    d.durableResultQueue, d.waitTimeoutMillis, d.tls⟩

/-- The tuning of a descriptor that says nothing. -/
def usualTuning : Tuning := ({} : Descriptor).tuning

/-- What is read from a URL has the usual tuning. -/
theorem tuning_ofUrl {raw : String} {d : Descriptor} (h : ofUrl raw = .ok d) :
    d.tuning = usualTuning := by
  unfold ofUrl at h
  split at h
  · cases h
  · split at h
    · cases h
    · split at h
      · cases h
      · cases h
        rfl

end Descriptor

/-! ## What the environment determines -/

namespace Environment

variable (env : Environment)

/-- The descriptor that is read from the URL in a variable, if it is set to one. -/
def descriptor? (name : String) : Option Descriptor :=
  (env.get? name).bind fun url => (Descriptor.ofUrl url).toOption

/-- If the variable is set, it is set to the URL of a broker. -/
def Readable (name : String) : Prop :=
  ∀ url, env.get? name = some url → ∃ d, Descriptor.ofUrl url = .ok d

variable {env} {name : String}

/-- A variable that is not set gives no descriptor. -/
theorem descriptor?_of_unset (h : env.get? name = none) : env.descriptor? name = none := by
  rw [descriptor?, h, Option.bind_none]

/-- A variable that is not set can be read. -/
theorem readable_of_unset (h : env.get? name = none) : env.Readable name := by
  intro url hset
  rw [h] at hset
  cases hset

/-- A variable that holds an address gives the descriptor of the address. -/
theorem descriptor?_of_url {url : String} {d : Descriptor} (hset : env.get? name = some url)
    (hread : Descriptor.ofUrl url = .ok d) : env.descriptor? name = some d := by
  rw [descriptor?, hset, Option.bind_some, hread]
  rfl

end Environment

/-- A descriptor in the place of another has the same tuning only if that one has the usual
tuning. -/
theorem Environment.tuning_getD_iff {env : Environment} {name : String}
    (hread : env.Readable name) (file : Descriptor) :
    ((env.descriptor? name).getD file).tuning = file.tuning ↔
      env.get? name = none ∨ file.tuning = Descriptor.usualTuning := by
  cases hset : env.get? name with
  | none => simp [descriptor?_of_unset hset]
  | some url =>
    obtain ⟨d, hd⟩ := hread url hset
    simp [descriptor?_of_url hset hd, Descriptor.tuning_ofUrl hd, eq_comm]

/-- A success is passed on. -/
theorem Except.ok_bind {ε α β : Type} (a : α) (f : α → Except ε β) : (.ok a >>= f) = f a := rfl

namespace Config

variable {env : Environment} {c r : Config} {name : String}

/-- The configuration with everything that the environment says in the place of what it said
before. -/
def overridden (env : Environment) (c : Config) : Config where
  broker :=
    let d := (env.descriptor? brokerUrlVariable).getD c.broker
    { d with backend := (env.get? brokerBackendVariable).getD d.backend }
  backend := (env.descriptor? backendUrlVariable).or c.backend
  logging := { c.logging with level := (env.get? logLevelVariable).getD c.logging.level }

/-- A variable with a text is taken in as it is. -/
theorem applyVariable_text (change : String → Config → Config) :
    applyVariable env name (fun value c => .ok (change value c)) c =
      .ok ((env.get? name).elim c fun value => change value c) := by
  unfold applyVariable
  cases env.get? name with
  | none => rfl
  | some value => rfl

/-- A variable with a URL is taken in if the URL can be read. -/
theorem applyVariable_url (change : Descriptor → Config → Config) :
    applyVariable env name (fun url c => (Descriptor.ofUrl url).map fun d => change d c) c = .ok r ↔
      env.Readable name ∧ r = (env.descriptor? name).elim c fun d => change d c := by
  unfold applyVariable Environment.Readable Environment.descriptor?
  cases env.get? name with
  | none => simp [eq_comm]
  | some url =>
    cases hread : Descriptor.ofUrl url with
    | error e => simp [hread, Except.map]
    | ok d => simp [hread, Except.map, Except.toOption, eq_comm]

/-- The changes that the variables make one after the other. -/
theorem overridden_eq : c.overridden env =
    let c := (env.descriptor? brokerUrlVariable).elim c fun d => { c with broker := d }
    let c := (env.get? brokerBackendVariable).elim c
      fun name => { c with broker := { c.broker with backend := name } }
    let c := (env.descriptor? backendUrlVariable).elim c fun d => { c with backend := some d }
    (env.get? logLevelVariable).elim c
      fun level => { c with logging := { c.logging with level := level } } := by
  unfold overridden
  cases env.descriptor? brokerUrlVariable <;> cases env.get? brokerBackendVariable <;>
    cases env.descriptor? backendUrlVariable <;> cases env.get? logLevelVariable <;> rfl

/-- The environment is taken in exactly if its URLs can be read, and then everything that it says
replaces what was said before. -/
theorem applyEnvironment_ok_iff : applyEnvironment env c = .ok r ↔
    env.Readable brokerUrlVariable ∧ env.Readable backendUrlVariable ∧ r = c.overridden env := by
  rw [overridden_eq]
  constructor
  -- Only the two variables that hold addresses can fail, so the result is known from the start.
  · intro h
    obtain ⟨c₁, h₁, h⟩ := Except.bind_ok h
    obtain ⟨c₂, h₂, h⟩ := Except.bind_ok h
    obtain ⟨c₃, h₃, h⟩ := Except.bind_ok h
    obtain ⟨hbroker, rfl⟩ := (applyVariable_url fun d c => { c with broker := d }).1 h₁
    rw [applyVariable_text] at h₂
    cases h₂
    obtain ⟨hbackend, rfl⟩ := (applyVariable_url fun d c => { c with backend := some d }).1 h₃
    rw [applyVariable_text] at h
    cases h
    exact ⟨hbroker, hbackend, rfl⟩
  · rintro ⟨hbroker, hbackend, rfl⟩
    rw [applyEnvironment, (applyVariable_url fun d c => { c with broker := d }).2 ⟨hbroker, rfl⟩,
      Except.ok_bind, applyVariable_text, Except.ok_bind,
      (applyVariable_url fun d c => { c with backend := some d }).2 ⟨hbackend, rfl⟩,
      Except.ok_bind, applyVariable_text]

/-! ## The file under the environment -/

/-- With a file that can be read, the configuration is that of the file with the environment
applied. -/
theorem load_file {files : Files} {path : String} (hfile : ofFile files path = .ok c) :
    load files env (some path) = applyEnvironment env c := by
  rw [load, hfile]
  rfl

/-- Without variables the configuration stays as it is. -/
theorem overridden_of_unset (hbroker : env.get? brokerUrlVariable = none)
    (hname : env.get? brokerBackendVariable = none)
    (hbackend : env.get? backendUrlVariable = none)
    (hlevel : env.get? logLevelVariable = none) : c.overridden env = c := by
  simp only [overridden, Environment.descriptor?_of_unset hbroker, hname,
    Environment.descriptor?_of_unset hbackend, hlevel, Option.getD_none, Option.none_or]

/-- What was loaded agrees with the file on everything that no variable determines, but for the
tuning of descriptors for which there is a URL. -/
structure Agrees (env : Environment) (file loaded : Config) : Prop where
  /-- A URL says where the broker is, and by which backend it is reached if no name is given. -/
  brokerUrl (url : String) : env.get? brokerUrlVariable = some url →
    ∃ d, Descriptor.ofUrl url = .ok d ∧ loaded.broker.place = d.place ∧
      loaded.broker.backend = (env.get? brokerBackendVariable).getD d.backend
  broker : env.get? brokerUrlVariable = none → loaded.broker =
    { file.broker with backend := (env.get? brokerBackendVariable).getD file.broker.backend }
  backendUrl (url : String) : env.get? backendUrlVariable = some url →
    ∃ d, Descriptor.ofUrl url = .ok d ∧ loaded.backend = some d
  backend : env.get? backendUrlVariable = none → loaded.backend = file.backend
  logging : loaded.logging =
    { file.logging with level := (env.get? logLevelVariable).getD file.logging.level }
  unset : env.get? brokerUrlVariable = none → env.get? brokerBackendVariable = none →
    env.get? backendUrlVariable = none → env.get? logLevelVariable = none → loaded = file
  /-- The tuning of the file survives a URL only if it is the usual one. -/
  brokerTuning : loaded.broker.tuning = file.broker.tuning ↔
    env.get? brokerUrlVariable = none ∨ file.broker.tuning = Descriptor.usualTuning
  backendTuning (d : Descriptor) : file.backend = some d →
    (loaded.backend.map Descriptor.tuning = some d.tuning ↔
      env.get? backendUrlVariable = none ∨ d.tuning = Descriptor.usualTuning)

/-- The overridden configuration agrees with the environment where it is set, and with the file
where it is not. -/
theorem overridden_agrees (hbroker : env.Readable brokerUrlVariable)
    (hbackend : env.Readable backendUrlVariable) : Agrees env c (c.overridden env) where
  brokerUrl url hset := by
    obtain ⟨d, hd⟩ := hbroker url hset
    refine ⟨d, hd, ?_, ?_⟩ <;> rw [overridden, Environment.descriptor?_of_url hset hd] <;> rfl
  broker hunset := by
    rw [overridden, Environment.descriptor?_of_unset hunset]
    rfl
  backendUrl url hset := by
    obtain ⟨d, hd⟩ := hbackend url hset
    exact ⟨d, hd, by rw [overridden, Environment.descriptor?_of_url hset hd]; rfl⟩
  backend hunset := by
    rw [overridden, Environment.descriptor?_of_unset hunset]
    rfl
  logging := rfl
  unset := overridden_of_unset
  brokerTuning := Environment.tuning_getD_iff hbroker c.broker
  backendTuning d hd := by
    -- With a descriptor in the file there is one in any case.
    have hboth : (c.overridden env).backend =
        some ((env.descriptor? backendUrlVariable).getD d) := by
      rw [overridden, hd]
      cases env.descriptor? backendUrlVariable <;> rfl
    rw [hboth, Option.map_some, Option.some.injEq]
    exact Environment.tuning_getD_iff hbackend d

/-- A file is loaded if the URLs in the environment can be read, and what is loaded agrees with
it. -/
theorem load_agrees (env : Environment) {files : Files} {path : String}
    (hfile : ofFile files path = .ok c) :
    ((∃ r, load files env (some path) = .ok r) ↔
      env.Readable brokerUrlVariable ∧ env.Readable backendUrlVariable) ∧
    ∀ r, load files env (some path) = .ok r → Agrees env c r := by
  rw [load_file hfile]
  refine ⟨⟨fun ⟨r, h⟩ => ?_, fun h => ⟨_, applyEnvironment_ok_iff.2 ⟨h.1, h.2, rfl⟩⟩⟩,
    fun r h => ?_⟩
  · obtain ⟨hbroker, hbackend, -⟩ := applyEnvironment_ok_iff.1 h
    exact ⟨hbroker, hbackend⟩
  · obtain ⟨hbroker, hbackend, rfl⟩ := applyEnvironment_ok_iff.1 h
    exact overridden_agrees hbroker hbackend

/-- The name of a backend leaves the options for TLS and the exchange of the file as they are. -/
theorem load_agrees_named :
    let files : Files := [("client.toml", .file (Utf8.encode
      "[broker]\nexchange = \"tasks\"\n\n[broker.ssl_options]\nca_cert = \"ca.pem\"\n"))]
    let env : Environment := [("CELERIAC_BROKER_BACKEND", Utf8.encode "native")]
    ∃ c r, ofFile files "client.toml" = .ok c ∧ load files env (some "client.toml") = .ok r ∧
      c.broker.wantsTls = true ∧ r.broker.tuning = c.broker.tuning ∧
      r.broker.backend = "native" := by
  intro files env
  have hfile : ((ofFile files "client.toml").toOption.map fun c => c.broker.wantsTls) =
      some true := by decide +kernel
  have hbroker : env.get? brokerUrlVariable = none := by decide +kernel
  have hname : env.get? brokerBackendVariable = some "native" := by decide +kernel
  have hbackend : env.get? backendUrlVariable = none := by decide +kernel
  cases hc : ofFile files "client.toml" with
  | error e =>
    rw [hc] at hfile
    cases hfile
  | ok c =>
    rw [hc] at hfile
    obtain ⟨hloads, hagrees⟩ := load_agrees env hc
    obtain ⟨r, hr⟩ := hloads.2
      ⟨Environment.readable_of_unset hbroker, Environment.readable_of_unset hbackend⟩
    have hr' := hagrees r hr
    refine ⟨c, r, rfl, hr, Option.some.inj hfile, hr'.brokerTuning.2 (.inl hbroker), ?_⟩
    rw [hr'.broker hbroker, hname, Option.getD_some]

/-- A URL in the environment takes the options for TLS and the exchange away that the file has. -/
theorem load_agrees_not :
    let files : Files := [("client.toml", .file (Utf8.encode
      "[broker]\nexchange = \"tasks\"\n\n[broker.ssl_options]\nca_cert = \"ca.pem\"\n"))]
    let env : Environment := [("CELERIAC_BROKER_URL", Utf8.encode "amqp://rabbit")]
    let shown := fun c : Config => (c.broker.exchange, c.broker.tls.caCert, c.broker.wantsTls)
    (ofFile files "client.toml").toOption.map shown = some ("tasks", some "ca.pem", true) ∧
      (load files env (some "client.toml")).toOption.map shown = some ("celery", none, false) := by
  decide +kernel

end Config
end TaskQueue
