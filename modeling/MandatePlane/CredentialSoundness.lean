import MandatePlane.ControlPlane

/-!
# What a credential proves

In production an agent is let in by the credential alone.  It should be let in only by
its secret, the text whose hash the row stores, and never by what the row shows to
everybody who can read it: its id or the stored hash itself.
-/

namespace MandatePlane.CredentialSoundness

open DomainModel KeyedTable HostEnvironment CallerAuth

/-! ### Secrets -/

/-- The credential is the agent's secret: the row stores its hash, or the secret behind `hash_`. -/
def Secret (env : Platform) (key : String) (agent : Agent) : Prop :=
  env.sha256Hex key = agent.apiKeyHash ∨ "hash_" ++ key = agent.apiKeyHash

/-- The credential can be read in the agent's row. -/
def Public (key : String) (agent : Agent) : Prop := key = agent.id ∨ key = agent.apiKeyHash

/-- **Entering soundly**: by the secret of an ACTIVE agent, under its own id if one is sent. -/
structure Sound (env : Platform) (headers : CallerHeaders) (agent : Agent) : Prop where
  secret : ∃ key, activeKey headers = some key ∧ Secret env key agent
  active : agent.status = .active
  named : ∀ id, truthyHeader headers.xAgentId = some id → agent.id = id
  notByPublic : ∀ key, activeKey headers = some key → ¬ (Public key agent ∧ ¬ Secret env key agent)

/-- The credential fits this row and no row before it. -/
structure FirstFit (env : Platform) (agents : Table Agent) (key : String) (agent : Agent) :
    Prop where
  fits : Secret env key agent ∨ Public key agent
  first : ∃ before after, agents.rows = before ++ agent :: after ∧
    ∀ other ∈ before, ¬ (Secret env key other ∨ Public key other)

/-- **The way in beside the secret**: the first row that the credential fits is that of an ACTIVE
agent, under whose id the caller goes, and the credential is the id or the stored hash of this
row without being its secret. -/
def PublicEntry (env : Platform) (agents : Table Agent) (headers : CallerHeaders) : Prop :=
  ∃ key agent, activeKey headers = some key ∧ FirstFit env agents key agent ∧ Public key agent ∧
    ¬ Secret env key agent ∧ agent.status = .active ∧
    ∀ id, truthyHeader headers.xAgentId = some id → agent.id = id

section Production

variable {env : Platform} {settings : Settings} {agents : Table Agent} {headers : CallerHeaders}
  {required : Bool} {agent : Agent} {key : String}

theorem matchesCredential_iff :
    matchesCredential env key agent = true ↔ Secret env key agent ∨ Public key agent := by
  have htext : s!"hash_{key}" = "hash_" ++ key := rfl
  rw [matchesCredential, htext]
  simp only [Bool.or_eq_true, decide_eq_true_eq, Secret, Public]
  constructor
  · rintro (((h | h) | h) | h)
    · exact .inr (.inr h.symm)
    · exact .inl (.inr h.symm)
    · exact .inl (.inl h.symm)
    · exact .inr (.inl h.symm)
  · rintro ((h | h) | (h | h))
    · exact .inl (.inr h.symm)
    · exact .inl (.inl (.inr h.symm))
    · exact .inr h.symm
    · exact .inl (.inl (.inl h.symm))

theorem find?_eq_some_iff_firstFit :
    agents.rows.find? (matchesCredential env key) = some agent ↔ FirstFit env agents key agent := by
  rw [List.find?_eq_some_iff_append, matchesCredential_iff]
  have hnot (other : Agent) : (!matchesCredential env key other) = true ↔
      ¬ (Secret env key other ∨ Public key other) := by
    rw [← matchesCredential_iff, Bool.not_eq_true', Bool.not_eq_true]
  simp only [hnot]
  exact ⟨fun ⟨hfits, before, after, hrows, hall⟩ => ⟨hfits, before, after, hrows, hall⟩,
    fun h => ⟨h.fits, h.first⟩⟩

/-- **In production the first row that fits decides**, its status and the id that is sent. -/
theorem authenticated_iff (hproduction : env.lower settings.environment = "production") :
    authenticateAgentCaller env settings agents headers required = .ok (some agent) ↔
      ∃ key, activeKey headers = some key ∧ FirstFit env agents key agent ∧
        agent.status = .active ∧ ∀ id, truthyHeader headers.xAgentId = some id → agent.id = id := by
  have hmissing : authenticateAgentCaller.missing required ≠ .ok (some agent) := by
    cases required <;> exact fun h => by cases h
  simp only [← find?_eq_some_iff_firstFit]
  unfold authenticateAgentCaller
  cases hkey : activeKey headers with
  | none =>
    -- the path by a bare id is closed in production
    refine iff_of_false ?_ (fun ⟨key, h, _⟩ => by cases h)
    dsimp only
    split
    · rw [if_neg (not_not.mpr hproduction)]
      exact hmissing
    · exact hmissing
  | some key =>
    simp only [Option.some.injEq, exists_eq_left']
    cases hfind : agents.rows.find? (matchesCredential env key) with
    | none => simp
    | some found =>
      by_cases hactive : found.status = .active
      · cases hid : truthyHeader headers.xAgentId with
        | none =>
          simp only [hactive, ne_eq, not_true_eq_false, if_false, Except.ok.injEq,
            Option.some.injEq, reduceCtorEq, false_implies, implies_true, and_true]
          exact ⟨fun h => ⟨h, h ▸ hactive⟩, And.left⟩
        | some id =>
          simp only [hactive, ne_eq, not_true_eq_false, if_false, Option.some.injEq, forall_eq']
          by_cases hsame : found.id = id
          · simp only [hsame, not_true_eq_false, if_false, Except.ok.injEq, Option.some.injEq]
            exact ⟨fun h => ⟨h, h ▸ hactive, h ▸ hsame⟩, And.left⟩
          · simp only [hsame, not_false_eq_true, if_true, reduceCtorEq, false_iff]
            rintro ⟨rfl, -, h⟩
            exact hsame h
      · simp only [ne_eq, hactive, not_false_eq_true, if_true, reduceCtorEq, Option.some.injEq,
          false_iff]
        rintro ⟨rfl, h, -⟩
        exact hactive h

/-- **Authentication is sound exactly where nobody enters by what is public.** -/
theorem authentication_sound_iff (hproduction : env.lower settings.environment = "production") :
    (∀ agent, authenticateAgentCaller env settings agents headers required = .ok (some agent) →
        Sound env headers agent) ↔ ¬ PublicEntry env agents headers := by
  simp only [authenticated_iff hproduction]
  constructor
  · rintro h ⟨key, agent, hkey, hfirst, hpublic, hsecret, hactive, hnamed⟩
    have hsound : Sound env headers agent := h agent ⟨key, hkey, hfirst, hactive, hnamed⟩
    exact hsound.notByPublic key hkey ⟨hpublic, hsecret⟩
  · rintro h agent ⟨key, hkey, hfirst, hactive, hnamed⟩
    have hsecret : Secret env key agent := by
      by_contra hnot
      have hpublic : Public key agent := hfirst.fits.resolve_left hnot
      exact h ⟨key, agent, hkey, hfirst, hpublic, hnot, hactive, hnamed⟩
    refine ⟨⟨key, hkey, hsecret⟩, hactive, hnamed, fun other hother hpublic => ?_⟩
    rw [hkey] at hother
    cases hother
    exact hpublic.2 hsecret

end Production

/-! ### The sample world in production -/

namespace Sample

open ControlPlane.Sample

def production : Settings := { settings with environment := "production" }

/-- The sample platform with the digests of the agent's id, secret and stored hash. -/
def hashing : Platform :=
  { platform with
    sha256Hex := fun text =>
      ([("agt_1", "aaa6ba278f66412c7f0f6989eb771ce2f3ae4cbd38f243839de8ceb05a763abd"),
        ("key_1", "0c08dbd4adb6472c1bc04f17529157918848018cdc481bb3208353d5123ea339"),
        ("hash_key_1", "0cad41fc567b1b20eb286578cc6f90b8d9be7340446c348b3cfe8ed47abc9824")].lookup
          text).getD "" }

def keyHeader (key : String) : CallerHeaders := ⟨some key, none, none⟩

end Sample

open Sample ControlPlane.Sample

/-- The only row of the sample world decides. -/
theorem firstFit_sample {key : String}
    (h : Secret hashing key ControlPlane.Sample.agent ∨ Public key ControlPlane.Sample.agent) :
    FirstFit hashing store.agents key ControlPlane.Sample.agent :=
  ⟨h, [], [], rfl, fun _ h => absurd h List.not_mem_nil⟩

/-- By its secret the agent of the sample world enters, and soundly. -/
theorem authentication_sound_by_secret :
    (∃ agent, authenticateAgentCaller hashing production store.agents (keyHeader "key_1") true =
        .ok (some agent)) ∧
      ∀ agent, authenticateAgentCaller hashing production store.agents (keyHeader "key_1") true =
        .ok (some agent) → Sound hashing (keyHeader "key_1") agent := by
  have hproduction : hashing.lower production.environment = "production" := rfl
  have hsecret : Secret hashing "key_1" ControlPlane.Sample.agent := .inr (by decide +kernel)
  refine ⟨⟨ControlPlane.Sample.agent, (authenticated_iff hproduction).mpr
      ⟨"key_1", by decide +kernel, firstFit_sample (.inl hsecret), rfl, fun _ h => by cases h⟩⟩,
    (authentication_sound_iff hproduction).mpr ?_⟩
  rintro ⟨key, other, hkey, hfirst, -, hnot, -⟩
  have hkey' : "key_1" = key := Option.some.inj ((by decide +kernel : some "key_1" =
    activeKey (keyHeader "key_1")).trans hkey)
  obtain ⟨before, after, hrows, -⟩ := hfirst.first
  have hmem : other ∈ store.agents.rows := by
    rw [hrows]
    exact List.mem_append_right before List.mem_cons_self
  have hother : other = ControlPlane.Sample.agent := List.mem_singleton.mp hmem
  rw [← hkey', hother] at hnot
  exact hnot hsecret

/-- **The id of an agent and its stored hash are credentials**: each lets the caller in, and
neither is the agent's secret. -/
theorem authentication_unsound : hashing.lower production.environment = "production" ∧
    ∀ key ∈ ["agt_1", "hash_key_1"], ¬ ∀ agent,
      authenticateAgentCaller hashing production store.agents (keyHeader key) true =
        .ok (some agent) → Sound hashing (keyHeader key) agent := by
  have hproduction : hashing.lower production.environment = "production" := rfl
  refine ⟨hproduction, fun key hkey h => ?_⟩
  have hactive : activeKey (keyHeader key) = some key := by
    have hall : ∀ key ∈ ["agt_1", "hash_key_1"], activeKey (keyHeader key) = some key := by
      decide +kernel
    exact hall key hkey
  have hpublic : Public key ControlPlane.Sample.agent := by
    have hall : ∀ key ∈ ["agt_1", "hash_key_1"],
        key = ControlPlane.Sample.agent.id ∨ key = ControlPlane.Sample.agent.apiKeyHash := by
      decide +kernel
    exact hall key hkey
  have hsecret : ¬ Secret hashing key ControlPlane.Sample.agent := by
    have hall : ∀ key ∈ ["agt_1", "hash_key_1"],
        ¬ (hashing.sha256Hex key = ControlPlane.Sample.agent.apiKeyHash ∨
          "hash_" ++ key = ControlPlane.Sample.agent.apiKeyHash) := by
      decide +kernel
    exact hall key hkey
  have hsound : Sound hashing (keyHeader key) ControlPlane.Sample.agent :=
    h _ ((authenticated_iff hproduction).mpr
      ⟨key, hactive, firstFit_sample (.inr hpublic), rfl, fun _ h => by cases h⟩)
  exact hsound.notByPublic key hactive ⟨hpublic, hsecret⟩

end MandatePlane.CredentialSoundness
