import LlmperfOrchestrator.Storage.TrustedClients

set_option autoImplicit false

namespace LlmperfOrchestrator.Storage.TrustedClients

open Tables Runs

def movesDeadline (grace : Nat) (directory : Directory) : Call → Bool
  | .upsert now write =>
      !conflicting directory write && directory.keys.any fun keyId key =>
        current write now keyId key && key.validUntil.any fun deadline => decide (deadline < graceEnd grace now)
  | .revoke _ _ _ => false

def Owned (directory : Directory) (username : String) (keyId : KeyId) : Prop :=
  ∃ key, directory.keys.get keyId = some key ∧ key.username = username

structure KeyInvariant (directory : Directory) : Prop where
  housed : ∀ keyId key, directory.keys.get keyId = some key → directory.users.get key.username ≠ none
  oneOpen : ∀ a b left right, directory.keys.get a = some left → directory.keys.get b = some right →
    left.username = right.username → left.enabled = true → right.enabled = true →
    left.validUntil = none → right.validUntil = none → a = b

theorem empty_invariant : KeyInvariant empty := by
  apply KeyInvariant.mk
  · intro keyId key read
    cases read
  · intro a b left right read
    cases read

variable (grace : Nat) (directory : Directory)

theorem users_stay (call : Call) (username : String) (known : directory.users.get username ≠ none) :
    (perform grace directory call).1.users.get username ≠ none := by
  cases call with
  | upsert now write =>
      cases refused : conflicting directory write with
      | true =>
          rw [perform, upsertTrustedClient, if_pos refused]
          exact known
      | false =>
          rw [perform, upsertTrustedClient, refused, if_neg Bool.false_ne_true]
          show (directory.users.put write.username (writtenUser now write)).get username ≠ none
          rw [table_get_put]
          by_cases same : username = write.username
          · simp [same]
          · rw [if_neg same]
            exact known
  | revoke now owner actor =>
      cases found : directory.users.get owner with
      | none =>
          rw [perform, revokeTrustedClient, found]
          exact known
      | some user =>
          rw [perform, revokeTrustedClient, found]
          show (directory.users.put owner _).get username ≠ none
          rw [table_get_put]
          by_cases same : username = owner
          · simp [same]
          · rw [if_neg same]
            exact known

variable (now : Instant) (write : ClientWrite)

theorem writer_known (free : conflicting directory write = false) :
    (perform grace directory (.upsert now write)).1.users.get write.username ≠ none := by
  rw [perform, upsertTrustedClient, free, if_neg Bool.false_ne_true]
  show (directory.users.put write.username (writtenUser now write)).get write.username ≠ none
  rw [table_get_put_self]
  exact Option.some_ne_none _

theorem accepted_open (key : TrustedClientKey) (now : Instant) (enabled : key.enabled = true)
    (endless : key.validUntil = none) : key.accepted now = true := by
  simp [TrustedClientKey.accepted, enabled, endless]

theorem upserted_open (keyId : KeyId) (after : TrustedClientKey)
    (read : (upserted grace directory now write).keys.get keyId = some after) (other : keyId ≠ write.keyId)
    (enabled : after.enabled = true) (endless : after.validUntil = none) :
    directory.keys.get keyId = some after ∧ after.username ≠ write.username := by
  rw [upserted, table_get_put_other _ _ _ _ other, table_get_update] at read
  obtain ⟨before, stored, same⟩ := Option.map_eq_some_iff.mp read
  by_cases held : current write now keyId before = true
  · rw [supersede, if_pos held] at same
    rw [← same] at endless
    cases endless
  · rw [supersede, if_neg held] at same
    subst same
    refine ⟨stored, fun mine => held ?_⟩
    simp [current, mine, other, accepted_open before now enabled endless]

theorem upserted_owner (free : conflicting directory write = false) (after : TrustedClientKey)
    (read : (upserted grace directory now write).keys.get write.keyId = some after) : after.username = write.username := by
  rw [upserted, table_get_put_self] at read
  cases stored : directory.keys.get write.keyId with
  | none =>
      rw [stored] at read
      cases read
      rfl
  | some before =>
      rw [stored] at read
      cases read
      exact (unconflicted directory write free before stored).symm

theorem upserted_one_open (inv : KeyInvariant directory) (free : conflicting directory write = false) (a b : KeyId)
    (left right : TrustedClientKey) (readLeft : (upserted grace directory now write).keys.get a = some left)
    (readRight : (upserted grace directory now write).keys.get b = some right) (same : left.username = right.username)
    (leftEnabled : left.enabled = true) (rightEnabled : right.enabled = true) (leftOpen : left.validUntil = none)
    (rightOpen : right.validUntil = none) : a = b := by
  by_cases isLeft : a = write.keyId
  · by_cases isRight : b = write.keyId
    · rw [isLeft, isRight]
    · have foreign := (upserted_open grace directory now write b right readRight isRight rightEnabled rightOpen).2
      subst isLeft
      exact absurd (same.symm.trans (upserted_owner grace directory now write free left readLeft)) foreign
  · have fromLeft := upserted_open grace directory now write a left readLeft isLeft leftEnabled leftOpen
    by_cases isRight : b = write.keyId
    · subst isRight
      exact absurd (same.trans (upserted_owner grace directory now write free right readRight)) fromLeft.2
    · have fromRight := upserted_open grace directory now write b right readRight isRight rightEnabled rightOpen
      exact inv.oneOpen a b left right fromLeft.1 fromRight.1 same leftEnabled rightEnabled leftOpen rightOpen

theorem revoked_enabled (username actor : String) (keyId : KeyId) (after : TrustedClientKey)
    (read : (perform grace directory (.revoke now username actor)).1.keys.get keyId = some after) (enabled : after.enabled = true) :
    directory.keys.get keyId = some after := by
  cases stored : directory.keys.get keyId with
  | none =>
      obtain ⟨_, _, absurd_, _⟩ := key_origin grace directory _ keyId after read stored
      cases absurd_
  | some before =>
      obtain ⟨other, found, goes⟩ := key_goes grace directory (.revoke now username actor) keyId before stored
      cases Option.some.inj (read.symm.trans found)
      cases goes with
      | kept => rfl
      | disabled => cases enabled

theorem invariant_step (call : Call) (inv : KeyInvariant directory) : KeyInvariant (perform grace directory call).1 := by
  apply KeyInvariant.mk
  · intro keyId after read
    cases stored : directory.keys.get keyId with
    | none =>
        obtain ⟨now, write, isUpsert, same, fresh⟩ := key_origin grace directory call keyId after read stored
        subst isUpsert same
        have free : conflicting directory write = false := by
          rw [conflicting, stored]
          rfl
        rw [fresh]
        exact writer_known grace directory now write free
    | some before =>
        obtain ⟨other, found, goes⟩ := key_goes grace directory call keyId before stored
        cases Option.some.inj (read.symm.trans found)
        rw [goes_owner grace before after keyId call goes]
        exact users_stay grace directory call before.username (inv.housed keyId before stored)
  · intro a b left right readLeft readRight same leftEnabled rightEnabled leftOpen rightOpen
    cases call with
    | upsert now write =>
        cases refused : conflicting directory write with
        | true =>
            rw [perform, upsertTrustedClient, if_pos refused] at readLeft readRight
            exact inv.oneOpen a b left right readLeft readRight same leftEnabled rightEnabled leftOpen rightOpen
        | false =>
            rw [perform, upsertTrustedClient, refused, if_neg Bool.false_ne_true] at readLeft readRight
            exact upserted_one_open grace directory now write inv refused a b left right readLeft readRight same
              leftEnabled rightEnabled leftOpen rightOpen
    | revoke now username actor =>
        exact inv.oneOpen a b left right (revoked_enabled grace directory now username actor a left readLeft leftEnabled)
          (revoked_enabled grace directory now username actor b right readRight rightEnabled) same leftEnabled
          rightEnabled leftOpen rightOpen

variable (calls : List Call)

theorem run_keys (directory last : Directory) (inv : KeyInvariant directory)
    (reached : run (step grace) directory calls = some last) : KeyInvariant last := by
  refine run_invariant (step grace) KeyInvariant (fun state call next held taken => ?_) calls directory last inv reached
  cases Option.some.inj taken
  exact invariant_step grace state call held

def Fading (keyId : KeyId) (deadline : Instant) (directory : Directory) : Prop :=
  ∀ key, directory.keys.get keyId = some key → key.enabled = true → ∃ ends, key.validUntil = some ends ∧ ends ≤ deadline

def Disabled (keyId : KeyId) (directory : Directory) : Prop :=
  ∀ key, directory.keys.get keyId = some key → key.enabled = false

theorem fading_refused (keyId : KeyId) (deadline query : Instant) (fading : Fading keyId deadline directory)
    (late : deadline ≤ query) : getTrustedClientByKeyId directory query keyId = none := by
  cases read : directory.keys.get keyId with
  | none => simp [getTrustedClientByKeyId, read]
  | some key =>
      have refused : key.accepted query = false := by
        cases enabled : key.enabled with
        | false => simp [TrustedClientKey.accepted, enabled]
        | true =>
            obtain ⟨ends, held, early⟩ := fading key read enabled
            simpa [TrustedClientKey.accepted, enabled, held] using le_trans early late
      cases known : directory.users.get key.username <;> simp [getTrustedClientByKeyId, read, known, refused]

theorem disabled_fading (keyId : KeyId) (deadline : Instant) (disabled : Disabled keyId directory) :
    Fading keyId deadline directory := by
  intro key read enabled
  rw [disabled key read] at enabled
  cases enabled

theorem disabled_step (call : Call) (username : String) (keyId : KeyId) (owned : Owned directory username keyId)
    (disabled : Disabled keyId directory) (unregistered : registers username keyId call = false) :
    Disabled keyId (perform grace directory call).1 := by
  intro after read
  obtain ⟨before, stored, owner⟩ := owned
  obtain ⟨other, found, goes⟩ := key_goes grace directory call keyId before stored
  cases Option.some.inj (read.symm.trans found)
  cases goes with
  | kept => exact disabled _ stored
  | superseded now write held => exact disabled before stored
  | renewed now write writer same => simp [registers, writer, owner, same] at unregistered
  | disabled => rfl

theorem fading_step (call : Call) (username : String) (keyId : KeyId) (deadline : Instant)
    (owned : Owned directory username keyId) (fading : Fading keyId deadline directory)
    (stays : movesDeadline grace directory call = false) (unregistered : registers username keyId call = false) :
    Fading keyId deadline (perform grace directory call).1 := by
  intro after read enabled
  obtain ⟨before, stored, owner⟩ := owned
  obtain ⟨other, found, goes⟩ := key_goes grace directory call keyId before stored
  cases Option.some.inj (read.symm.trans found)
  cases goes with
  | kept => exact fading _ stored enabled
  | superseded now write held =>
      obtain ⟨ends, ending, early⟩ := fading before stored enabled
      refine ⟨_, rfl, le_trans ?_ early⟩
      by_contra later
      have free : conflicting directory write = false := by
        cases refused : conflicting directory write with
        | false => rfl
        | true =>
            rw [perform, upsertTrustedClient, if_pos refused, stored] at read
            have same := congrArg TrustedClientKey.validUntil (Option.some.inj read)
            rw [ending] at same
            exact absurd (le_of_eq (Option.some.inj same).symm) later
      have moved : directory.keys.any (fun id key => current write now id key &&
          key.validUntil.any fun deadline => decide (deadline < graceEnd grace now)) = true :=
        (table_any directory.keys _).mpr ⟨keyId, before, stored, by simp [held, ending, lt_of_not_ge later]⟩
      simp [movesDeadline, free, moved] at stays
  | renewed now write writer same => simp [registers, writer, owner, same] at unregistered
  | disabled => cases enabled

theorem owned_step (call : Call) (username : String) (keyId : KeyId) (owned : Owned directory username keyId) :
    Owned (perform grace directory call).1 username keyId := by
  obtain ⟨before, stored, owner⟩ := owned
  obtain ⟨after, found, goes⟩ := key_goes grace directory call keyId before stored
  exact ⟨after, found, (goes_owner grace before after keyId call goes).trans owner⟩

theorem owned_run (directory last : Directory) (username : String) (keyId : KeyId) (owned : Owned directory username keyId)
    (reached : run (step grace) directory calls = some last) : Owned last username keyId := by
  refine run_invariant (step grace) (fun state => Owned state username keyId) (fun state call next held taken => ?_)
    calls directory last owned reached
  cases Option.some.inj taken
  exact owned_step grace state call username keyId held

theorem unregistered_run (username : String) (keyId : KeyId) (allowed : Directory → Call → Prop) (holds : Directory → Prop)
    (keeps : ∀ state call, Owned state username keyId → holds state → allowed state call → registers username keyId call = false → holds (perform grace state call).1)
    (calls : List Call) (directory last : Directory) (owned : Owned directory username keyId) (start : holds directory)
    (meets : EveryStep (step grace) allowed directory calls)
    (unregistered : ∀ call ∈ calls, registers username keyId call = false)
    (reached : run (step grace) directory calls = some last) : holds last := by
  induction calls generalizing directory with
  | nil =>
      cases Option.some.inj reached
      exact start
  | cons call rest ih =>
      obtain ⟨next, taken, remaining⟩ := (run_cons _ _ _ _ _).mp reached
      have isNext := Option.some.inj taken
      apply ih next
      · exact isNext ▸ owned_step grace directory call username keyId owned
      · exact isNext ▸ keeps directory call owned start meets.1 (unregistered call List.mem_cons_self)
      · exact meets.2 next taken
      · exact fun other member => unregistered other (List.mem_cons_of_mem call member)
      · exact remaining

theorem revoked_disabled (username actor : String) (keyId : KeyId) (inv : KeyInvariant directory)
    (owned : Owned directory username keyId) : Disabled keyId (perform grace directory (.revoke now username actor)).1 := by
  intro after read
  obtain ⟨before, stored, owner⟩ := owned
  cases enabled : after.enabled with
  | false => rfl
  | true =>
      have same := revoked_enabled grace directory now username actor keyId after read enabled
      cases Option.some.inj (stored.symm.trans same)
      cases known : directory.users.get username with
      | none => exact absurd known (owner ▸ inv.housed keyId _ stored)
      | some user =>
          rw [perform, revokeTrustedClient, known, table_get_update, stored] at read
          have changed := Option.some.inj read
          simp only [if_pos owner] at changed
          rw [← changed] at enabled
          cases enabled

def Superseded (directory : Directory) (now : Instant) (write : ClientWrite) (keyId : KeyId) : Prop :=
  conflicting directory write = false ∧ ∃ key, directory.keys.get keyId = some key ∧ current write now keyId key = true

theorem superseded_fading (keyId : KeyId) (superseded : Superseded directory now write keyId) :
    Owned directory write.username keyId ∧
      Fading keyId (graceEnd grace now) (perform grace directory (.upsert now write)).1 := by
  obtain ⟨free, before, stored, held⟩ := superseded
  have facts := held
  simp only [current, Bool.and_eq_true, decide_eq_true_eq, bne_iff_ne] at facts
  refine ⟨⟨before, stored, facts.1.1⟩, fun after read enabled => ?_⟩
  rw [perform, upsertTrustedClient, free, if_neg Bool.false_ne_true, upserted,
    table_get_put_other _ _ _ _ facts.1.2, table_get_update, stored] at read
  have same := Option.some.inj read
  rw [supersede, if_pos held] at same
  exact ⟨graceEnd grace now, by rw [← same], le_refl _⟩

def GraceEnds (grace : Nat) (calls : List Call) (last : Directory) : Prop :=
  ∀ early now write late middle keyId, calls = early ++ .upsert now write :: late →
    run (step grace) empty early = some middle → Superseded middle now write keyId →
    (∀ call ∈ late, registers write.username keyId call = false) →
    ∀ query, graceEnd grace now < query → getTrustedClientByKeyId last query keyId = none

def RevocationHolds (grace : Nat) (calls : List Call) (last : Directory) : Prop :=
  ∀ early now username actor late middle keyId, calls = early ++ .revoke now username actor :: late →
    run (step grace) empty early = some middle → Owned middle username keyId →
    (∀ call ∈ late, registers username keyId call = false) →
    ∀ query, getTrustedClientByKeyId last query keyId = none

def OwnersStay (grace : Nat) (calls : List Call) (last : Directory) : Prop :=
  ∀ early late middle username keyId, calls = early ++ late → run (step grace) empty early = some middle →
    Owned middle username keyId → Owned last username keyId

theorem revocation_holds (last : Directory) (reached : run (step grace) empty calls = some last) :
    RevocationHolds grace calls last := by
  intro early now username actor late middle keyId split before owned unregistered query
  obtain ⟨other, taken, later⟩ := (run_append _ _ _ _ _).mp (split ▸ reached)
  cases Option.some.inj (before.symm.trans taken)
  obtain ⟨next, revoked, remaining⟩ := (run_cons _ _ _ _ _).mp later
  cases Option.some.inj revoked
  have inv := run_keys grace early empty middle empty_invariant before
  have disabled := unregistered_run grace username keyId (fun _ _ => True) (Disabled keyId)
    (fun state call held fact _ free => disabled_step grace state call username keyId held fact free) late _ last
    (owned_step grace middle _ username keyId owned) (revoked_disabled grace middle now username actor keyId inv owned)
    (every_step_any _ late _) unregistered remaining
  exact fading_refused last keyId query query (disabled_fading last keyId query disabled) (le_refl _)

theorem grace_ends (last : Directory) (reached : run (step grace) empty calls = some last)
    (stays : EveryStep (step grace) (fun state call => movesDeadline grace state call = false) empty calls) :
    GraceEnds grace calls last := by
  intro early now write late middle keyId split before superseded unregistered query past
  obtain ⟨other, taken, later⟩ := (run_append _ _ _ _ _).mp (split ▸ reached)
  cases Option.some.inj (before.symm.trans taken)
  have meets := (every_step_append _ _ _ _ _ _ (split ▸ stays) before).2
  obtain ⟨next, written, remaining⟩ := (run_cons _ _ _ _ _).mp later
  have following := meets.2 next written
  cases Option.some.inj written
  obtain ⟨owned, fading⟩ := superseded_fading grace middle now write keyId superseded
  have ended := unregistered_run grace write.username keyId
    (fun state call => movesDeadline grace state call = false) (Fading keyId (graceEnd grace now))
    (fun state call held fact still free => fading_step grace state call write.username keyId _ held fact still free)
    late _ last (owned_step grace middle _ write.username keyId owned) fading following unregistered remaining
  exact fading_refused last keyId (graceEnd grace now) query ended (le_of_lt past)

theorem owners_stay (last : Directory) (reached : run (step grace) empty calls = some last) : OwnersStay grace calls last := by
  intro early late middle username keyId split before owned
  obtain ⟨other, taken, later⟩ := (run_append _ _ _ _ _).mp (split ▸ reached)
  cases Option.some.inj (before.symm.trans taken)
  exact owned_run grace late middle last username keyId owned later

theorem key_rotation (grace : Nat) (calls : List Call) (last : Directory)
    (reached : run (step grace) empty calls = some last) :
    (EveryStep (step grace) (fun state call => movesDeadline grace state call = false) empty calls →
        GraceEnds grace calls last) ∧
      (∀ a b left right, last.keys.get a = some left → last.keys.get b = some right →
        left.username = right.username → left.enabled = true → right.enabled = true →
        left.validUntil = none → right.validUntil = none → a = b) ∧
      RevocationHolds grace calls last ∧ OwnersStay grace calls last :=
  ⟨grace_ends grace calls last reached, (run_keys grace calls empty last empty_invariant reached).oneOpen,
    revocation_holds grace calls last reached, owners_stay grace calls last reached⟩

def keyWrite (keyId : KeyId) : ClientWrite := ⟨"operator", keyId, "pem", "operator", none, none, "admin"⟩

def rotationCalls (update : Instant) : List Call :=
  [.upsert 0 (keyWrite "a"), .upsert 100000000 (keyWrite "b"), .upsert update (keyWrite "b")]

def afterCalls (grace : Nat) (calls : List Call) : Directory :=
  calls.foldl (fun state call => (perform grace state call).1) empty

theorem key_rotation_late :
    run (step 120) empty (rotationCalls 220000000) = some (afterCalls 120 (rotationCalls 220000000)) ∧
      GraceEnds 120 (rotationCalls 220000000) (afterCalls 120 (rotationCalls 220000000)) :=
  ⟨rfl, (key_rotation 120 (rotationCalls 220000000) _ rfl).1 (by decide +kernel)⟩

-- A second write at 200 s puts off the deadline from 220 s to 320 s.
theorem profile_write_extends_grace :
    ∃ last, run (step 120) empty (rotationCalls 200000000) = some last ∧
      (getTrustedClientByKeyId last 300000000 "a").isSome ∧ ¬ GraceEnds 120 (rotationCalls 200000000) last := by
  refine ⟨afterCalls 120 (rotationCalls 200000000), rfl, by decide +kernel, fun ends => ?_⟩
  have refused := ends [.upsert 0 (keyWrite "a")] 100000000 (keyWrite "b") [.upsert 200000000 (keyWrite "b")] _ "a" rfl rfl
    ⟨by decide +kernel, ⟨"operator", "pem", true, none, "admin"⟩, by decide +kernel, by decide +kernel⟩
    (by decide) 300000000 (by decide)
  have returned : (getTrustedClientByKeyId (afterCalls 120 (rotationCalls 200000000)) 300000000 "a").isSome := by
    decide +kernel
  rw [refused] at returned
  cases returned

end LlmperfOrchestrator.Storage.TrustedClients
