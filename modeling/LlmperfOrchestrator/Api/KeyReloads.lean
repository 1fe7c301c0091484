import LlmperfOrchestrator.Api.TokenVerifier
import LlmperfOrchestrator.Library.Outcomes

set_option autoImplicit false

namespace LlmperfOrchestrator.Api

open Tables Runs Outcomes Storage Storage.TrustedClients

namespace TokenVerifier

inductive Event where
  | refresh (force : Bool) (now : Rat) (file : KeyFile)
  | look (now : Rat)

section Reloads

variable (crypto : Cryptography) (config : AuthConfig)

def apply (verifier : TokenVerifier) : Event → TokenVerifier
  | .refresh force now file => (verifier.refresh crypto config force now file).1
  | .look now => verifier.expirePrevious now

def step (verifier : TokenVerifier) (event : Event) : Option TokenVerifier := some (apply crypto config verifier event)

structure SameKeys (before after : TokenVerifier) : Prop where
  active : after.active = before.active
  previous : after.previous = before.previous
  expires : after.previousExpiresAt = before.previousExpiresAt
  generation : after.generation = before.generation

theorem expire_cases (now : Rat) (verifier : TokenVerifier) :
    SameKeys verifier (verifier.expirePrevious now) ∧ (verifier.previous.isSome → now < verifier.previousExpiresAt) ∨
      (verifier.expirePrevious now).active = verifier.active ∧ (verifier.expirePrevious now).previous = none ∧
        (verifier.expirePrevious now).generation = verifier.generation := by
  rw [expirePrevious]
  by_cases past : verifier.previous.isSome ∧ verifier.previousExpiresAt ≤ now
  · rw [if_pos past]
    exact .inr ⟨rfl, rfl, rfl⟩
  · rw [if_neg past]
    exact .inl ⟨⟨rfl, rfl, rfl, rfl⟩, fun held => Rat.not_le.mp fun late => past ⟨held, late⟩⟩

def Genuine (material : KeyMaterial) : Prop := ∃ key, material.pem = crypto.pem key ∧ material.keyId = keyIdOf crypto key

theorem genuine_key_id (first second : KeyMaterial) (one : Genuine crypto first) (other : Genuine crypto second)
    (same : first.pem = second.pem) : first.keyId = second.keyId := by
  obtain ⟨key, pem, keyId⟩ := one
  obtain ⟨key', pem', keyId'⟩ := other
  have der := crypto.encoded key key' (pem.symm.trans (same.trans pem'))
  rw [keyId, keyId', keyIdOf, keyIdOf, der]

theorem load_key_genuine (path : String) (file : KeyFile) (material : KeyMaterial)
    (loaded : loadKey crypto path file = .ok material) : Genuine crypto material := by
  rw [loadKey] at loaded
  split at loaded
  · cases loaded
  · split at loaded
    · cases loaded
    · cases loaded
      exact ⟨_, rfl, rfl⟩

inductive Refreshed (now : Rat) (before after : TokenVerifier) : Bool → Prop where
  | kept : SameKeys before after → Refreshed now before after false
  | unchanged : SameKeys (before.expirePrevious now) after → Refreshed now before after false
  | rewritten (candidate old : KeyMaterial) : Genuine crypto candidate → before.active = some old →
      candidate.keyId = old.keyId → SameKeys (expirePrevious now { before with active := some candidate }) after →
      Refreshed now before after false
  | replaced (candidate : KeyMaterial) : Genuine crypto candidate →
      (∀ old, before.active = some old → candidate.keyId ≠ old.keyId) →
      SameKeys { before with
        active := some candidate
        previous := before.active
        previousExpiresAt := now + config.previousKeyGraceSeconds
        generation := before.generation + 1 } after → Refreshed now before after true

theorem expire_same (now : Rat) (before after : TokenVerifier) (same : SameKeys before after) :
    SameKeys (before.expirePrevious now) (after.expirePrevious now) := by
  rw [expirePrevious, expirePrevious, same.previous, same.expires]
  by_cases past : before.previous.isSome ∧ before.previousExpiresAt ≤ now
  · rw [if_pos past, if_pos past]
    exact ⟨same.active, rfl, rfl, same.generation⟩
  · rw [if_neg past, if_neg past]
    exact same

theorem reload_refreshed (now : Rat) (path : String) (file : KeyFile) (before checked : TokenVerifier)
    (same : SameKeys before checked) :
    Refreshed crypto config now before (reload crypto config now path file checked).1 (reload crypto config now path file checked).2 := by
  rw [reload]
  cases file.stat with
  | error reason => exact .kept ⟨same.active, same.previous, same.expires, same.generation⟩
  | ok signature =>
      dsimp only
      by_cases equal : checked.active.any fun key => signature = key.fileSignature
      · rw [if_pos equal]
        exact .unchanged (expire_same now before checked same)
      · rw [if_neg equal]
        cases loaded : loadKey crypto path file with
        | error reason => exact .kept ⟨same.active, same.previous, same.expires, same.generation⟩
        | ok candidate =>
            have genuine := load_key_genuine crypto path file candidate loaded
            dsimp only
            by_cases known : checked.active.any fun key => candidate.keyId = key.keyId
            · rw [if_pos known]
              cases held : checked.active with
              | none =>
                  rw [held] at known
                  cases known
              | some old =>
                  rw [held] at known
                  refine .rewritten candidate old genuine (same.active.symm.trans held) (of_decide_eq_true known) ?_
                  exact expire_same now _ _ ⟨rfl, same.previous, same.expires, same.generation⟩
            · rw [if_neg known]
              refine .replaced candidate genuine ?_ ⟨rfl, same.active, rfl, congrArg (· + 1) same.generation⟩
              intro old held keyId
              rw [← same.active] at held
              rw [held] at known
              exact known (decide_eq_true keyId)

theorem refresh_refreshed (force : Bool) (now : Rat) (file : KeyFile) (verifier : TokenVerifier) :
    Refreshed crypto config now verifier (verifier.refresh crypto config force now file).1
      (verifier.refresh crypto config force now file).2 := by
  rw [refresh]
  cases verifier.keyPath with
  | none => exact .kept ⟨rfl, rfl, rfl, rfl⟩
  | some path =>
      dsimp only
      by_cases disabled : config.enabled = false
      · rw [if_pos disabled]
        exact .kept ⟨rfl, rfl, rfl, rfl⟩
      · rw [if_neg disabled]
        by_cases early : force = false ∧ now < verifier.nextReloadCheck
        · rw [if_pos early]
          exact .kept ⟨rfl, rfl, rfl, rfl⟩
        · rw [if_neg early]
          exact reload_refreshed crypto config now path file verifier _ ⟨rfl, rfl, rfl, rfl⟩

structure Held (verifier : TokenVerifier) : Prop where
  active : ∀ key, verifier.active = some key → Genuine crypto key
  previous : ∀ key, verifier.previous = some key → Genuine crypto key

theorem create_held (resolve : String → String) (file : KeyFile) (start : TokenVerifier)
    (created : create crypto config resolve file = .ok start) : Held crypto start ∧ start.previous = none := by
  rw [create] at created
  by_cases enabled : config.enabled = true
  · rw [if_pos enabled] at created
    split at created
    · cases created
    · cases created
    · rename_i path _ _
      cases loaded : loadKey crypto (resolve path) file with
      | error reason =>
          rw [loaded] at created
          cases created
      | ok active =>
          rw [loaded] at created
          cases created
          refine ⟨⟨?_, ?_⟩, rfl⟩
          · intro key same
            cases same
            exact load_key_genuine crypto _ file active loaded
          · intro key absent
            cases absent
  · rw [if_neg enabled] at created
    cases created
    refine ⟨⟨?_, ?_⟩, rfl⟩
    · intro key absent
      cases absent
    · intro key absent
      cases absent

theorem same_held (before after : TokenVerifier) (same : SameKeys before after) (held : Held crypto before) : Held crypto after :=
  ⟨fun key read => held.active key (same.active.symm.trans read), fun key read => held.previous key (same.previous.symm.trans read)⟩

theorem expire_held (now : Rat) (verifier : TokenVerifier) (held : Held crypto verifier) :
    Held crypto (verifier.expirePrevious now) := by
  rcases expire_cases now verifier with ⟨same, _⟩ | ⟨active, previous, _⟩
  · exact same_held crypto verifier _ same held
  · refine ⟨fun key read => held.active key (active.symm.trans read), ?_⟩
    intro key read
    rw [previous] at read
    cases read

theorem step_held (verifier next : TokenVerifier) (event : Event) (held : Held crypto verifier)
    (taken : step crypto config verifier event = some next) : Held crypto next := by
  cases taken
  cases event with
  | look now => exact expire_held crypto now verifier held
  | refresh force now file =>
      rw [apply]
      have refreshed := refresh_refreshed crypto config force now file verifier
      generalize verifier.refresh crypto config force now file = result at refreshed
      obtain ⟨after, swapped⟩ := result
      cases refreshed with
      | kept same => exact same_held crypto verifier after same held
      | unchanged same => exact same_held crypto _ after same (expire_held crypto now verifier held)
      | rewritten candidate old genuine active keyId same =>
          refine same_held crypto _ after same (expire_held crypto now _ ⟨?_, held.previous⟩)
          intro key read
          cases read
          exact genuine
      | replaced candidate genuine other same =>
          refine same_held crypto _ after same ⟨?_, held.active⟩
          intro key read
          cases read
          exact genuine

def changes (verifier : TokenVerifier) (event : Event) : Bool :=
  (apply crypto config verifier event).active.map KeyMaterial.keyId ≠ verifier.active.map KeyMaterial.keyId

theorem expire_ids (now : Rat) (verifier : TokenVerifier) :
    (verifier.expirePrevious now).active = verifier.active ∧ (verifier.expirePrevious now).generation = verifier.generation := by
  rcases expire_cases now verifier with ⟨same, _⟩ | ⟨active, _, generation⟩
  · exact ⟨same.active, same.generation⟩
  · exact ⟨active, generation⟩

theorem apply_generation (verifier : TokenVerifier) (event : Event) :
    (apply crypto config verifier event).generation =
      verifier.generation + if changes crypto config verifier event then 1 else 0 := by
  have unmoved : (apply crypto config verifier event).active.map KeyMaterial.keyId = verifier.active.map KeyMaterial.keyId →
      (apply crypto config verifier event).generation = verifier.generation →
      (apply crypto config verifier event).generation =
        verifier.generation + if changes crypto config verifier event then 1 else 0 := by
    intro ids generation
    rw [changes, if_neg (by simp [ids]), generation, Nat.add_zero]
  cases event with
  | look now =>
      obtain ⟨active, generation⟩ := expire_ids now verifier
      exact unmoved (congrArg _ active) generation
  | refresh force now file =>
      have refreshed := refresh_refreshed crypto config force now file verifier
      rw [apply] at unmoved ⊢
      rw [changes, apply] at unmoved ⊢
      generalize verifier.refresh crypto config force now file = result at refreshed unmoved ⊢
      obtain ⟨after, swapped⟩ := result
      cases refreshed with
      | kept same => exact unmoved (congrArg _ same.active) same.generation
      | unchanged same =>
          obtain ⟨active, generation⟩ := expire_ids now verifier
          exact unmoved (congrArg _ (same.active.trans active)) (same.generation.trans generation)
      | rewritten candidate old genuine held keyId same =>
          obtain ⟨active, generation⟩ := expire_ids now { verifier with active := some candidate }
          refine unmoved ?_ (same.generation.trans generation)
          dsimp only
          rw [same.active, active, held, Option.map_some, Option.map_some, keyId]
      | replaced candidate genuine other same =>
          have moved : after.active.map KeyMaterial.keyId ≠ verifier.active.map KeyMaterial.keyId := by
            rw [same.active]
            cases held : verifier.active with
            | none => exact Option.some_ne_none _
            | some old => exact fun equal => other old held (Option.some.inj equal)
          rw [if_pos (decide_eq_true moved), same.generation]

theorem run_generation (events : List Event) (start last : TokenVerifier)
    (reached : run (step crypto config) start events = some last) :
    last.generation = start.generation + occurrences (step crypto config) (changes crypto config) start events := by
  induction events generalizing start with
  | nil =>
      cases reached
      rfl
  | cons event rest ih =>
      have later := ih (apply crypto config start event) reached
      rw [later, apply_generation, Nat.add_assoc]
      rfl

structure Retired (pem : Bytes) (deadline : Rat) (verifier : TokenVerifier) : Prop where
  inactive : ∀ key, verifier.active = some key → key.pem ≠ pem
  ending : ∀ key, verifier.previous = some key → key.pem = pem → verifier.previousExpiresAt ≤ deadline

def Active (pem : Bytes) (verifier : TokenVerifier) : Prop := ∃ key, verifier.active = some key ∧ key.pem = pem

theorem same_retired (pem : Bytes) (deadline : Rat) (before after : TokenVerifier) (same : SameKeys before after)
    (retired : Retired pem deadline before) : Retired pem deadline after := by
  refine ⟨fun key read => retired.inactive key (same.active.symm.trans read), ?_⟩
  intro key read is
  rw [same.expires]
  exact retired.ending key (same.previous.symm.trans read) is

theorem expire_retired (pem : Bytes) (deadline now : Rat) (verifier : TokenVerifier) (retired : Retired pem deadline verifier) :
    Retired pem deadline (verifier.expirePrevious now) := by
  rcases expire_cases now verifier with ⟨same, _⟩ | ⟨active, previous, _⟩
  · exact same_retired pem deadline verifier _ same retired
  · refine ⟨fun key read => retired.inactive key (active.symm.trans read), ?_⟩
    intro key read
    rw [previous] at read
    cases read

theorem retired_step (pem : Bytes) (deadline : Rat) (verifier : TokenVerifier) (event : Event)
    (retired : Retired pem deadline verifier) :
    Retired pem deadline (apply crypto config verifier event) ∨ Active pem (apply crypto config verifier event) := by
  cases event with
  | look now => exact .inl (expire_retired pem deadline now verifier retired)
  | refresh force now file =>
      rw [apply]
      have refreshed := refresh_refreshed crypto config force now file verifier
      generalize verifier.refresh crypto config force now file = result at refreshed
      obtain ⟨after, swapped⟩ := result
      cases refreshed with
      | kept same => exact .inl (same_retired pem deadline verifier after same retired)
      | unchanged same =>
          exact .inl (same_retired pem deadline _ after same (expire_retired pem deadline now verifier retired))
      | rewritten candidate old genuine held keyId same =>
          by_cases again : candidate.pem = pem
          · exact .inr ⟨candidate, same.active.trans (expire_ids now _).1, again⟩
          · left
            refine same_retired pem deadline _ after same (expire_retired pem deadline now _ ⟨?_, retired.ending⟩)
            intro key read
            cases read
            exact again
      | replaced candidate genuine other same =>
          by_cases again : candidate.pem = pem
          · exact .inr ⟨candidate, same.active, again⟩
          · left
            refine same_retired pem deadline _ after same ⟨?_, ?_⟩
            · intro key read
              cases read
              exact again
            · intro key read is
              exact absurd is (retired.inactive key read)

def MadeActive (pem : Bytes) (start : TokenVerifier) (events : List Event) : Prop :=
  ∃ earlier event rest middle, events = earlier ++ event :: rest ∧ run (step crypto config) start earlier = some middle ∧
    ¬ Active pem middle ∧ Active pem (apply crypto config middle event)

theorem retired_run (pem : Bytes) (deadline : Rat) (events : List Event) (start last : TokenVerifier)
    (retired : Retired pem deadline start) (reached : run (step crypto config) start events = some last) :
    Retired pem deadline last ∨ MadeActive crypto config pem start events := by
  induction events generalizing start with
  | nil =>
      cases reached
      exact .inl retired
  | cons event rest ih =>
      rcases retired_step crypto config pem deadline start event retired with kept | again
      · rcases ih (apply crypto config start event) kept reached with still | ⟨earlier, later, others, middle, split, ran, before, active⟩
        · exact .inl still
        · exact .inr ⟨event :: earlier, later, others, middle, congrArg (event :: ·) split, ran, before, active⟩
      · exact .inr ⟨[], event, rest, start, rfl, rfl, fun ⟨key, held, is⟩ => retired.inactive key held is, again⟩

def ReplacedAt (start : TokenVerifier) (events : List Event) (key : KeyMaterial) (time : Rat) : Prop :=
  ∃ before force file after middle, events = before ++ .refresh force time file :: after ∧
    run (step crypto config) start before = some middle ∧ middle.active = some key ∧
      (middle.refresh crypto config force time file).2 = true

theorem replaced_at_more (start : TokenVerifier) (events more : List Event) (key : KeyMaterial) (time : Rat)
    (replaced : ReplacedAt crypto config start events key time) : ReplacedAt crypto config start (events ++ more) key time := by
  obtain ⟨before, force, file, after, middle, split, rest⟩ := replaced
  refine ⟨before, force, file, after ++ more, middle, ?_, rest⟩
  rw [split, List.append_assoc, List.cons_append]

theorem expire_previous (now : Rat) (verifier : TokenVerifier) (key : KeyMaterial)
    (held : (verifier.expirePrevious now).previous = some key) :
    verifier.previous = some key ∧ (verifier.expirePrevious now).previousExpiresAt = verifier.previousExpiresAt ∧
      now < verifier.previousExpiresAt := by
  rcases expire_cases now verifier with ⟨same, unexpired⟩ | ⟨_, previous, _⟩
  · have stays := same.previous.symm.trans held
    exact ⟨stays, same.expires, unexpired (by rw [stays, Option.isSome_some])⟩
  · rw [previous] at held
    cases held

theorem previous_step (verifier : TokenVerifier) (event : Event) (key : KeyMaterial)
    (held : (apply crypto config verifier event).previous = some key) :
    (verifier.previous = some key ∧ (apply crypto config verifier event).previousExpiresAt = verifier.previousExpiresAt) ∨
      ∃ force now file, event = .refresh force now file ∧ verifier.active = some key ∧
        (verifier.refresh crypto config force now file).2 = true ∧
        (apply crypto config verifier event).previousExpiresAt = now + config.previousKeyGraceSeconds := by
  cases event with
  | look now =>
      obtain ⟨before, expires, _⟩ := expire_previous now verifier key held
      exact .inl ⟨before, expires⟩
  | refresh force now file =>
      rw [apply] at held ⊢
      have refreshed := refresh_refreshed crypto config force now file verifier
      generalize result : verifier.refresh crypto config force now file = pair at refreshed held ⊢
      obtain ⟨after, swapped⟩ := pair
      cases refreshed with
      | kept same => exact .inl ⟨same.previous.symm.trans held, same.expires⟩
      | unchanged same =>
          obtain ⟨before, expires, _⟩ := expire_previous now verifier key (same.previous.symm.trans held)
          exact .inl ⟨before, same.expires.trans expires⟩
      | rewritten candidate old genuine active keyId same =>
          obtain ⟨before, expires, _⟩ :=
            expire_previous now { verifier with active := some candidate } key (same.previous.symm.trans held)
          exact .inl ⟨before, same.expires.trans expires⟩
      | replaced candidate genuine other same =>
          exact .inr ⟨force, now, file, rfl, same.previous.symm.trans held, congrArg Prod.snd result, same.expires⟩

theorem previous_replaced (start : TokenVerifier) (none : start.previous = none) (events : List Event) (last : TokenVerifier)
    (key : KeyMaterial) (reached : run (step crypto config) start events = some last) (held : last.previous = some key) :
    ∃ time, ReplacedAt crypto config start events key time ∧
      last.previousExpiresAt = time + config.previousKeyGraceSeconds := by
  induction events using List.reverseRecOn generalizing last with
  | nil =>
      cases reached
      rw [none] at held
      cases held
  | append_singleton earlier event ih =>
      obtain ⟨middle, ran, taken⟩ := (run_append _ _ _ _ _).mp reached
      cases taken
      rcases previous_step crypto config middle event key held with ⟨before, expires⟩ | ⟨force, now, file, is, active, swapped, expires⟩
      · obtain ⟨time, replaced, ends⟩ := ih middle ran before
        exact ⟨time, replaced_at_more crypto config start earlier [event] key time replaced, expires.trans ends⟩
      · exact ⟨now, ⟨earlier, force, file, [], middle, by rw [is], ran, active, swapped⟩, expires⟩

end Reloads

section Checks

variable (crypto : Cryptography) (config : AuthConfig) (jwt : Jwt)

theorem claims_trusted (verifier : TokenVerifier) (token : String) (claims : Claims)
    (read : claimsOf config jwt verifier token = .ok claims) :
    ∃ key, decodePem config jwt token key.pem = .ok claims ∧ (verifier.active = some key ∨ verifier.previous = some key) := by
  rw [claimsOf] at read
  cases held : verifier.active with
  | none =>
      rw [held] at read
      cases read
  | some active =>
      rw [held] at read
      dsimp only at read
      by_cases named : tokenKeyId jwt token = some active.keyId
      · rw [if_pos named] at read
        exact ⟨active, read, .inl rfl⟩
      · rw [if_neg named] at read
        cases kept : verifier.previous.filter fun previous => tokenKeyId jwt token = some previous.keyId with
        | some previous =>
            rw [kept] at read
            exact ⟨previous, read, .inr (Option.filter_eq_some_iff.mp kept).1⟩
        | none =>
            rw [kept] at read
            dsimp only at read
            by_cases other : tokenKeyId jwt token ≠ none
            · rw [if_pos other] at read
              cases read
            · rw [if_neg other] at read
              split at read
              · split at read
                · cases read
                · rename_i previous same
                  exact ⟨previous, read, .inr same⟩
              · exact ⟨active, read, .inl rfl⟩

-- One call of verify_token or of _verify_any_trusted_key, with all that it reads.
inductive Verification where
  | direct (now : Rat) (file : KeyFile) (check : Rat)
  | anyKey (reads : Reads)

def Verification.refreshes : Verification → List Event
  | .direct now file _ => [.refresh false now file]
  | .anyKey reads => [.refresh false reads.first reads.firstFile, .refresh false reads.second reads.secondFile]

def Verification.checkedAt : Verification → Rat
  | .direct _ _ check => check
  | .anyKey reads => reads.check

def Verification.principal (verification : Verification) (token : String) (verifier : TokenVerifier) : Except TokenError Claims :=
  match verification with
  | .direct now file check => (verifier.verifyToken crypto config jwt token now file check).1
  | .anyKey reads => (verifier.verifyAnyTrustedKey crypto config jwt token reads).1

def Bootstrap (principal : Claims) : Prop := Dict.get "auth_source" principal = some (.text "bootstrap")

instance (principal : Claims) : Decidable (Bootstrap principal) := inferInstanceAs (Decidable (_ = _))

theorem direct_checked (token : String) (now : Rat) (file : KeyFile) (check : Rat) (verifier : TokenVerifier) (principal : Claims)
    (accepted : (verifier.verifyToken crypto config jwt token now file check).1 = .ok principal) (bootstrap : Bootstrap principal) :
    ∃ claims, claimsOf config jwt ((apply crypto config verifier (.refresh false now file)).expirePrevious check) token = .ok claims ∧
      Dict.get "sub" claims = some (.text config.bootstrapSubject) := by
  rw [verifyToken] at accepted
  by_cases disabled : config.enabled = false
  · rw [if_pos disabled] at accepted
    cases accepted
    exact absurd bootstrap (by decide)
  · rw [if_neg disabled] at accepted
    obtain ⟨claims, read, made⟩ := (bind_ok _ _ _).mp accepted
    refine ⟨claims, read, ?_⟩
    rw [bootstrapPrincipal] at made
    by_cases owner : Dict.get "sub" claims = some (.text config.bootstrapSubject)
    · exact owner
    · rw [if_neg owner] at made
      cases made

theorem database_not_bootstrap (token : String) (client : Option TrustedClient) (principal : Claims)
    (accepted : databasePrincipal config jwt token client = .ok principal) : ¬ Bootstrap principal := by
  cases client with
  | none => cases accepted
  | some client =>
      obtain ⟨claims, _, made⟩ := (bind_ok _ _ _).mp accepted
      by_cases owner : Dict.get "sub" claims = some (.text client.username)
      · rw [if_pos owner] at made
        cases made
        rw [Bootstrap, dict_get_put, if_pos rfl]
        decide
      · rw [if_neg owner] at made
        cases made

theorem principal_checked (verification : Verification) (token : String) (verifier : TokenVerifier) (principal : Claims)
    (accepted : verification.principal crypto config jwt token verifier = .ok principal) (bootstrap : Bootstrap principal) :
    ∃ last claims, run (step crypto config) verifier verification.refreshes = some last ∧
      claimsOf config jwt (last.expirePrevious verification.checkedAt) token = .ok claims ∧
      Dict.get "sub" claims = some (.text config.bootstrapSubject) := by
  cases verification with
  | direct now file check =>
      obtain ⟨claims, read, owner⟩ := direct_checked crypto config jwt token now file check verifier principal accepted bootstrap
      exact ⟨_, claims, rfl, read, owner⟩
  | anyKey reads =>
      have verified : ((apply crypto config verifier (.refresh false reads.first reads.firstFile)).verifyToken crypto config jwt token
          reads.second reads.secondFile reads.check).1 = .ok principal := by
        rw [Verification.principal, verifyAnyTrustedKey] at accepted
        split at accepted
        · exact accepted
        · split at accepted
          · exact accepted
          · exact absurd bootstrap (database_not_bootstrap config jwt token reads.client principal accepted)
      obtain ⟨claims, read, owner⟩ := direct_checked crypto config jwt token reads.second reads.secondFile reads.check _ principal
        verified bootstrap
      exact ⟨_, claims, rfl, read, owner⟩

def Trusted (start verifier : TokenVerifier) (events : List Event) (now : Rat) (key : KeyMaterial) : Prop :=
  verifier.active = some key ∨
    verifier.previous = some key ∧ now < verifier.previousExpiresAt ∧
      ∃ time, ReplacedAt crypto config start events key time ∧
        verifier.previousExpiresAt = time + config.previousKeyGraceSeconds

theorem bootstrap_trusted (start verifier : TokenVerifier) (first : start.previous = none) (events : List Event)
    (reached : run (step crypto config) start events = some verifier) (verification : Verification) (token : String)
    (principal : Claims) (accepted : verification.principal crypto config jwt token verifier = .ok principal)
    (bootstrap : Bootstrap principal) :
    ∃ last key claims, run (step crypto config) verifier verification.refreshes = some last ∧
      Trusted crypto config start last (events ++ verification.refreshes) verification.checkedAt key ∧
      decodePem config jwt token key.pem = .ok claims ∧ Dict.get "sub" claims = some (.text config.bootstrapSubject) := by
  obtain ⟨last, claims, ran, read, owner⟩ := principal_checked crypto config jwt verification token verifier principal accepted bootstrap
  obtain ⟨key, decoded, held⟩ := claims_trusted config jwt _ token claims read
  refine ⟨last, key, claims, ran, ?_, decoded, owner⟩
  rcases held with active | previous
  · exact .inl ((expire_ids _ last).1.symm.trans active)
  · obtain ⟨before, _, unexpired⟩ := expire_previous _ last key previous
    have whole := (run_append _ _ _ _ _).mpr ⟨verifier, reached, ran⟩
    exact .inr ⟨before, unexpired, previous_replaced crypto config start first _ last key whole before⟩

def ReloadFails (file : KeyFile) (verifier : TokenVerifier) : Prop :=
  (∃ reason, file.stat = .error reason) ∨
    ∃ signature path reason, file.stat = .ok signature ∧ (∀ key, verifier.active = some key → signature ≠ key.fileSignature) ∧
      verifier.keyPath = some path ∧ loadKey crypto path file = .error reason

theorem failed_reload_keeps (force : Bool) (now : Rat) (file : KeyFile) (verifier : TokenVerifier)
    (fails : ReloadFails crypto file verifier) :
    SameKeys verifier (verifier.refresh crypto config force now file).1 ∧ (verifier.refresh crypto config force now file).2 = false := by
  rw [refresh]
  cases located : verifier.keyPath with
  | none => exact ⟨⟨rfl, rfl, rfl, rfl⟩, rfl⟩
  | some path =>
      dsimp only
      by_cases disabled : config.enabled = false
      · rw [if_pos disabled]
        exact ⟨⟨rfl, rfl, rfl, rfl⟩, rfl⟩
      · rw [if_neg disabled]
        by_cases early : force = false ∧ now < verifier.nextReloadCheck
        · rw [if_pos early]
          exact ⟨⟨rfl, rfl, rfl, rfl⟩, rfl⟩
        · rw [if_neg early, reload]
          rcases fails with ⟨reason, missing⟩ | ⟨signature, read, reason, found, fresh, same, unreadable⟩
          · rw [missing]
            exact ⟨⟨rfl, rfl, rfl, rfl⟩, rfl⟩
          · cases located.symm.trans same
            rw [found]
            dsimp only
            have differs : ¬ (verifier.active.any fun key => signature = key.fileSignature) := by
              cases held : verifier.active with
              | none => exact Bool.false_ne_true
              | some key => exact fun equal => fresh key held (of_decide_eq_true equal)
            rw [if_neg differs, unreadable]
            exact ⟨⟨rfl, rfl, rfl, rfl⟩, rfl⟩

theorem replaced_retired (force : Bool) (time : Rat) (file : KeyFile) (verifier : TokenVerifier) (key : KeyMaterial)
    (held : Held crypto verifier) (active : verifier.active = some key)
    (swapped : (verifier.refresh crypto config force time file).2 = true) :
    Retired key.pem (time + config.previousKeyGraceSeconds) (verifier.refresh crypto config force time file).1 := by
  have refreshed := refresh_refreshed crypto config force time file verifier
  generalize verifier.refresh crypto config force time file = result at refreshed swapped ⊢
  obtain ⟨after, did⟩ := result
  cases swapped
  cases refreshed with
  | replaced candidate genuine other same =>
      refine ⟨?_, fun _ _ _ => same.expires ▸ Rat.le_refl⟩
      intro kept read is
      cases same.active.symm.trans read
      exact other key active (genuine_key_id crypto candidate key genuine (held.active key active) is)

theorem replaced_key_ends (force : Bool) (time : Rat) (file : KeyFile) (verifier : TokenVerifier) (key : KeyMaterial)
    (held : Held crypto verifier) (active : verifier.active = some key)
    (swapped : (verifier.refresh crypto config force time file).2 = true) (later : List Event) (last : TokenVerifier)
    (reached : run (step crypto config) (verifier.refresh crypto config force time file).1 later = some last)
    (verification : Verification) (token : String) (principal : Claims)
    (late : time + config.previousKeyGraceSeconds ≤ verification.checkedAt)
    (accepted : verification.principal crypto config jwt token last = .ok principal) (bootstrap : Bootstrap principal)
    (signer : jwt.signer token = some key.pem) :
    MadeActive crypto config key.pem (verifier.refresh crypto config force time file).1 (later ++ verification.refreshes) := by
  obtain ⟨final, claims, ran, read, _⟩ := principal_checked crypto config jwt verification token last principal accepted bootstrap
  have retired := replaced_retired crypto config force time file verifier key held active swapped
  have whole := (run_append _ _ _ _ _).mpr ⟨last, reached, ran⟩
  rcases retired_run crypto config key.pem _ _ _ final retired whole with still | again
  · exfalso
    obtain ⟨used, decoded, holds⟩ := claims_trusted config jwt _ token claims read
    have same : used.pem = key.pem := Option.some.inj ((jwt.signed _ _ _ _ decoded).symm.trans signer)
    rcases holds with first | previous
    · exact still.inactive used ((expire_ids _ final).1.symm.trans first) same
    · obtain ⟨before, _, unexpired⟩ := expire_previous _ final used previous
      have ends := Rat.le_trans (still.ending used before same) late
      exact Rat.not_lt.mpr ends unexpired
  · exact again

structure ReloadSafe (start verifier : TokenVerifier) (events : List Event) : Prop where
  accepted : ∀ (verification : Verification) token principal,
    verification.principal crypto config jwt token verifier = .ok principal → Bootstrap principal →
    ∃ last key claims, run (step crypto config) verifier verification.refreshes = some last ∧
      Trusted crypto config start last (events ++ verification.refreshes) verification.checkedAt key ∧
      decodePem config jwt token key.pem = .ok claims ∧ Dict.get "sub" claims = some (.text config.bootstrapSubject)
  failed : ∀ force now file, ReloadFails crypto file verifier →
    SameKeys verifier (verifier.refresh crypto config force now file).1 ∧ (verifier.refresh crypto config force now file).2 = false
  ended : ∀ force time file key, verifier.active = some key → (verifier.refresh crypto config force time file).2 = true →
    ∀ later last (verification : Verification) token principal,
      run (step crypto config) (verifier.refresh crypto config force time file).1 later = some last →
      time + config.previousKeyGraceSeconds ≤ verification.checkedAt →
      verification.principal crypto config jwt token last = .ok principal → Bootstrap principal →
      jwt.signer token = some key.pem →
      MadeActive crypto config key.pem (verifier.refresh crypto config force time file).1 (later ++ verification.refreshes)
  counted : ∀ event, (apply crypto config verifier event).generation =
    verifier.generation + if changes crypto config verifier event then 1 else 0
  generation : verifier.generation =
    start.generation + occurrences (step crypto config) (changes crypto config) start events

theorem bootstrap_keys_reloaded (resolve : String → String) (initial : KeyFile) (start : TokenVerifier)
    (created : create crypto config resolve initial = .ok start) (events : List Event) (verifier : TokenVerifier)
    (reached : run (step crypto config) start events = some verifier) :
    ReloadSafe crypto config jwt start verifier events := by
  obtain ⟨held, first⟩ := create_held crypto config resolve initial start created
  have holds := run_invariant (step crypto config) (Held crypto)
    (fun state event next => step_held crypto config state next event) events start verifier held reached
  refine ⟨?_, ?_, ?_, apply_generation crypto config verifier, run_generation crypto config events start verifier reached⟩
  · intro verification token principal accepted bootstrap
    exact bootstrap_trusted crypto config jwt start verifier first events reached verification token principal accepted bootstrap
  · intro force now file fails
    exact failed_reload_keeps crypto config force now file verifier fails
  · intro force time file key active swapped later last verification token principal ran late accepted bootstrap signer
    exact replaced_key_ends crypto config jwt force time file verifier key holds active swapped later last ran verification token
      principal late accepted bootstrap signer

end Checks

section Reading

variable (crypto : Cryptography) (config : AuthConfig)

theorem load_key_ok (path : String) (file : KeyFile) (source : Bytes) (signature : FileSignature) (key : crypto.PublicKey)
    (read : file.read = .ok (source, signature)) (parsed : deserializePublicKey crypto source = .ok key) :
    loadKey crypto path file = .ok ⟨crypto.pem key, keyIdOf crypto key, signature⟩ := by
  rw [loadKey, read]
  dsimp only
  rw [parsed]

theorem refresh_replaces (now : Rat) (path : String) (file : KeyFile) (verifier : TokenVerifier) (signature : FileSignature)
    (active candidate : KeyMaterial) (enabled : config.enabled = true) (located : verifier.keyPath = some path)
    (due : verifier.nextReloadCheck ≤ now) (held : verifier.active = some active) (found : file.stat = .ok signature)
    (fresh : signature ≠ active.fileSignature) (loaded : loadKey crypto path file = .ok candidate)
    (other : candidate.keyId ≠ active.keyId) :
    (verifier.refresh crypto config false now file).1 =
      { verifier with
        active := some candidate
        previous := some active
        previousExpiresAt := now + config.previousKeyGraceSeconds
        nextReloadCheck := now + config.reloadIntervalSeconds
        generation := verifier.generation + 1
        lastReloadError := none } := by
  rw [refresh, located]
  dsimp only
  rw [if_neg (by rw [enabled]; decide), if_neg fun both => Rat.not_lt.mpr due both.2, reload, found]
  simp only [held, Option.any_some, decide_eq_true_eq, if_neg fresh, loaded, if_neg other]

theorem refresh_unchanged (now : Rat) (path : String) (file : KeyFile) (verifier : TokenVerifier) (active : KeyMaterial)
    (enabled : config.enabled = true) (located : verifier.keyPath = some path) (due : verifier.nextReloadCheck ≤ now)
    (held : verifier.active = some active) (found : file.stat = .ok active.fileSignature) :
    (verifier.refresh crypto config false now file).1 =
      expirePrevious now { verifier with nextReloadCheck := now + config.reloadIntervalSeconds } := by
  rw [refresh, located]
  dsimp only
  rw [if_neg (by rw [enabled]; decide), if_neg fun both => Rat.not_lt.mpr due both.2, reload, found]
  simp only [held, Option.any_some, decide_true, if_true]

theorem previous_decodes (jwt : Jwt) (token : String) (verifier : TokenVerifier) (active previous : KeyMaterial) (claims : Claims)
    (held : verifier.active = some active) (kept : verifier.previous = some previous)
    (kid : jwt.unverifiedKid token = .ok (some previous.keyId)) (other : previous.keyId ≠ active.keyId)
    (decoded : decodePem config jwt token previous.pem = .ok claims) : claimsOf config jwt verifier token = .ok claims := by
  have named : tokenKeyId jwt token = some previous.keyId := by rw [tokenKeyId, kid]
  simp only [claimsOf, held, kept, named, Option.some.injEq, if_neg other, Option.filter_some, decide_true, if_true, decoded]

end Reading

inductive SampleKey where
  | first
  | second
deriving DecidableEq

-- Two RSA keys of 2048 bits.
def modulus : SampleKey → Nat
  | .first =>
    0xbbedcc6b06ef7c7a9ec480577efca52f525396e6de7a59a125548612374d43146d976448cfc336672fc9691e87719d4ff01a44c479c417f14a39bf9872c907e2e2524019193338952c2d4498aaa2d1178529c904486fb6a7044283ee2f67cc06d6a3c10bcc23c78bbc7fda5970de41fc33aeee01fbfa0b268259a3a6cb7d1290da63793b0ab38e1f3b0c9a3430e2338ceb6a51e9cedd3ff34e008180317cbe81efe677b90055e5e8fa3a8433ee4f71e17d2d02568cf6884c0fd7ad16013b4c90560eccfa521a25da24cc6443c7ce2fa01cfdcaf41fc04baca0c6a2fe3d68fbaf8e79bab19fc04e8fec3d5a4a47cdff611873416fcdd3fadfe7bb1c84ce7522cd
  | .second =>
    0xdb807e06cecf2ad1803097ad61ff36d7b4cac2de3f397e9f636548f415a469248a82e2c95b3345d8dbb390ccc9b27498f57ec139d6aa67bbacab56d16bfcb2a6dc45e8eb16b727e4fd7a4d8bed80fa38494407ef5dfa3775ad1f162c822c2be17ff75a6df076516140b787d4f7f3bb75d1c40c6caa35b1fb55d15659a8d90fd9c5bcfe405a8b4b3c59fc3f8e6a1a834d8543e356f39ef38016e8b6d77ee19ea39501638755eb4d1b568479a95081f48e90f505929762c696112fd48ac1e074c83cf2b292090652da82ec9c378693c2fc7b8f1acf5018dac1c07884df5f50fc1b94bf55c7117d4f73ccbe40bc8c28d8567a90dbca288f551b30e824ca4ef2448b

-- SubjectPublicKeyInfo of a modulus and the exponent 65537
def derNumber (key : SampleKey) : Nat :=
  (0x30820122300d06092a864886f70d01010105000382010f003082010a0282010100 * 256 ^ 256 + modulus key) * 256 ^ 5 + 0x0203010001

def sampleDer (key : SampleKey) : Bytes := (List.range 294).map fun place => UInt8.ofNat (derNumber key / 256 ^ (293 - place))

def base64Digit (digit : Nat) : Nat :=
  if digit < 26 then digit + 65
  else if digit < 52 then digit + 71
  else if digit < 62 then digit - 4
  else if digit = 62 then 43
  else 47

def base64Body (number : Nat) : Bytes :=
  (List.range 392).flatMap fun place =>
    let digit := UInt8.ofNat (base64Digit (number / 64 ^ (391 - place) % 64))
    if place % 64 = 63 ∨ place = 391 then [digit, 10] else [digit]

def textBytes (text : String) : Bytes := text.toList.map fun c => UInt8.ofNat c.toNat

def samplePem (key : SampleKey) : Bytes :=
  textBytes "-----BEGIN PUBLIC KEY-----\n" ++ base64Body (derNumber key) ++ textBytes "-----END PUBLIC KEY-----\n"

theorem sample_key_of_pem (key other : SampleKey) (same : samplePem key = samplePem other) : key = other := by
  have differ : samplePem .first ≠ samplePem .second := by decide +kernel
  cases key with
  | first =>
      cases other with
      | first => rfl
      | second => exact absurd same differ
  | second =>
      cases other with
      | first => exact absurd same.symm differ
      | second => rfl

def sampleDigest (data : Bytes) : String :=
  if data = sampleDer .first then "f40d73659a42a01c95f4f7fc5662e2f4fb2a42dabc3b0c8b5cf2c57c66076f0b"
  else if data = sampleDer .second then "dcdfc0bffd59fa0f64ac0768e1f56b12e3ae8c49fe67760d76dbc9891a2121c9"
  else ""

def sampleLoad (data : Bytes) : Except String SampleKey :=
  if data = samplePem .first then .ok .first
  else if data = samplePem .second then .ok .second
  else .error "Could not deserialize key data"

theorem sample_load (key : SampleKey) : sampleLoad (samplePem key) = .ok key := by
  cases key with
  | first => rw [sampleLoad, if_pos rfl]
  | second =>
      have differ : samplePem .second ≠ samplePem .first := fun same => by cases sample_key_of_pem .second .first same
      rw [sampleLoad, if_neg differ, if_pos rfl]

def sampleCrypto : Cryptography where
  PublicKey := SampleKey
  loadPem := sampleLoad
  loadSsh := fun _ => .error "Key is not in SSH format"
  isRsa := fun _ => true
  keySize := fun _ => 2048
  pem := samplePem
  der := sampleDer
  hexdigest := sampleDigest
  encoded := fun key other same => congrArg sampleDer (sample_key_of_pem key other same)

def sampleKeyId : SampleKey → KeyId
  | .first => "f40d73659a42a01c"
  | .second => "dcdfc0bffd59fa0f"

-- Signed RS256 by the first key, which its header names.
def sampleToken : String :=
  "eyJhbGciOiJSUzI1NiIsImtpZCI6ImY0MGQ3MzY1OWE0MmEwMWMiLCJ0eXAiOiJKV1QifQ.eyJzdWIiOiJsbG1wZXJmLWFkbWluIiwiaXNzIjoibGxtcGVyZ" ++
  "mN0bCIsImF1ZCI6ImxsbXBlcmYtYXBpIiwiaWF0IjoxNzM1Njg5NjAwLCJleHAiOjE3MzU2ODk5MDAsImp0aSI6IjNmMmI4YzFlOWQ3YTRmNjBhMWIyYzNkN" ++
  "GU1ZjYwNzE4In0.ttmlT2yf7DDW1pt8v7PKcFmgJKNjA-0BLmHdbS8sUYoi_JilkkbokBchqKnLuBzQJGNhbL40xD38lkMGyWJTerfUq_tiLXeXbG8j3jR8n" ++
  "RoyTki9LxhgefrtObNOFsct46p5FfLUL4vBVGzlMbkJMJhw_6XoSA8TWRrChBkSOC2vKn2tNFtgvt66Rt3nXbZUcYeNOZgYI7-faBrLC575LATf8T1AgeOJ_" ++
  "Rm_RtKIgPd4cQVbNTcQH0tbI0Cdp6IeXclnj_HnV3X0tS_Ly8BOrZs45XTYppilaY9dvtUM3lWXYx9SSp51emOyN7F7ctVB2ED8gL6DoTsSMv2Uc-MQKQ"

def sampleClaims : Claims :=
  [("sub", .text "llmperf-admin"), ("iss", .text "llmperfctl"), ("aud", .text "llmperf-api"), ("iat", .number 1735689600),
    ("exp", .number 1735689900), ("jti", .text "3f2b8c1e9d7a4f60a1b2c3d4e5f60718")]

-- A library that verifies one token, signed by one key.
def issuedJwt (issued : String) (kid : KeyId) (signing : Bytes) (claims : Claims) : Jwt where
  unverifiedKid := fun token => if token = issued then .ok (some kid) else .error "Not enough segments"
  decode := fun token pem _ =>
    if token = issued ∧ pem = signing then .ok claims else .error (.invalidSignature "Signature verification failed")
  signer := fun token => if token = issued then some signing else none
  signed := by
    intro token pem options read decoded
    by_cases real : token = issued ∧ pem = signing
    · rw [if_pos real.1, real.2]
    · rw [if_neg real] at decoded
      cases decoded

theorem issued_kid (issued : String) (kid : KeyId) (signing : Bytes) (claims : Claims) :
    (issuedJwt issued kid signing claims).unverifiedKid issued = .ok (some kid) := if_pos rfl

theorem issued_decoded (config : AuthConfig) (issued : String) (kid : KeyId) (signing : Bytes) (claims : Claims) :
    decodePem config (issuedJwt issued kid signing claims) issued signing = .ok claims := if_pos ⟨rfl, rfl⟩

def sampleJwt : Jwt := issuedJwt sampleToken (sampleKeyId .first) (samplePem .first) sampleClaims

def sampleConfig : AuthConfig := ⟨true, some "key.pem", "RS256", "llmperf-admin", "llmperfctl", "llmperf-api", 5, 1, 120⟩

def sampleFile (key : SampleKey) (modified : Int) : KeyFile := ⟨.ok (7, modified, 451), .ok (samplePem key, 7, modified, 451)⟩

def sampleMaterial (key : SampleKey) (modified : Int) : KeyMaterial := ⟨samplePem key, sampleKeyId key, 7, modified, 451⟩

def sampleStart : TokenVerifier := ⟨some "key.pem", some (sampleMaterial .first 0), none, 0, 0, 1, none⟩

def rotation : Event := .refresh false 1 (sampleFile .second 1)

def sampleRotated : TokenVerifier := ⟨some "key.pem", some (sampleMaterial .second 1), some (sampleMaterial .first 0), 121, 2, 2, none⟩

theorem sample_key_id (key : SampleKey) : keyIdOf sampleCrypto key = sampleKeyId key := by
  cases key with
  | first => decide +kernel
  | second => decide +kernel

theorem sample_read (key : SampleKey) : deserializePublicKey sampleCrypto (samplePem key) = .ok key := by
  have loader : sampleCrypto.loadPem = sampleLoad := rfl
  rw [deserializePublicKey, loader, sample_load]
  rfl

theorem sample_loaded (path : String) (key : SampleKey) (modified : Int) :
    loadKey sampleCrypto path (sampleFile key modified) = .ok (sampleMaterial key modified) := by
  have loaded := load_key_ok sampleCrypto path (sampleFile key modified) (samplePem key) (7, modified, 451) key rfl (sample_read key)
  rw [loaded, sample_key_id]
  rfl

theorem sample_created : create sampleCrypto sampleConfig id (sampleFile .first 0) = .ok sampleStart := by
  change (loadKey sampleCrypto "key.pem" (sampleFile .first 0) >>= _) = _
  rw [sample_loaded]
  rfl

theorem sample_key_ids : sampleKeyId .first ≠ sampleKeyId .second := by decide +kernel

theorem sample_rotated : apply sampleCrypto sampleConfig sampleStart rotation = sampleRotated := by
  have ends : (1 : Rat) + sampleConfig.previousKeyGraceSeconds = 121 := by decide +kernel
  have next : (1 : Rat) + sampleConfig.reloadIntervalSeconds = 2 := by decide +kernel
  have replaced := refresh_replaces sampleCrypto sampleConfig 1 "key.pem" (sampleFile .second 1) sampleStart (7, 1, 451)
    (sampleMaterial .first 0) (sampleMaterial .second 1) rfl rfl (by decide +kernel) rfl rfl (by decide)
    (sample_loaded "key.pem" .second 1) sample_key_ids.symm
  rw [ends, next] at replaced
  exact replaced

theorem sample_accepted :
    (Verification.direct 60 (sampleFile .second 1) 61).principal sampleCrypto sampleConfig sampleJwt sampleToken sampleRotated =
      .ok (sampleClaims ++ [("role", .text "superuser"), ("auth_source", .text "bootstrap")]) := by
  have unchanged := refresh_unchanged sampleCrypto sampleConfig 60 "key.pem" (sampleFile .second 1) sampleRotated
    (sampleMaterial .second 1) rfl rfl (by decide +kernel) rfl rfl
  have now : ¬ (sampleRotated.previous.isSome = true ∧ sampleRotated.previousExpiresAt ≤ 60) := by decide +kernel
  have later : ¬ (sampleRotated.previous.isSome = true ∧ sampleRotated.previousExpiresAt ≤ 61) := by decide +kernel
  rw [expirePrevious, if_neg now] at unchanged
  have claims := previous_decodes sampleConfig sampleJwt sampleToken
    { sampleRotated with nextReloadCheck := 60 + sampleConfig.reloadIntervalSeconds } (sampleMaterial .second 1) (sampleMaterial .first 0)
    sampleClaims rfl rfl (issued_kid _ _ _ _) sample_key_ids (issued_decoded _ _ _ _ _)
  rw [Verification.principal, verifyToken, if_neg (by decide)]
  dsimp only
  rw [unchanged, expirePrevious, if_neg later, claims]
  rfl

theorem replaced_key_in_grace :
    ∃ last key claims,
      Trusted sampleCrypto sampleConfig sampleStart last [rotation, .refresh false 60 (sampleFile .second 1)] 61 key ∧
      decodePem sampleConfig sampleJwt sampleToken key.pem = .ok claims ∧
      Dict.get "sub" claims = some (.text "llmperf-admin") := by
  have safe := bootstrap_keys_reloaded sampleCrypto sampleConfig sampleJwt id (sampleFile .first 0) sampleStart sample_created
    [rotation] sampleRotated (congrArg some sample_rotated)
  obtain ⟨last, key, claims, _, trusted, decoded, owner⟩ := safe.accepted (.direct 60 (sampleFile .second 1) 61) sampleToken _
    sample_accepted (by decide +kernel)
  exact ⟨last, key, claims, trusted, decoded, owner⟩

end TokenVerifier

end LlmperfOrchestrator.Api
