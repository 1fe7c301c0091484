import LlmperfOrchestrator.Compiler.InstanceKeys
import LlmperfOrchestrator.Compiler.Submission
import LlmperfOrchestrator.Library.Probing

set_option autoImplicit false

namespace LlmperfOrchestrator.Compiler

open Probing Tables Numerals Outcomes

theorem next_free_probes (used : List Nat) (attempts candidate steps : Nat) (small : candidate < 2 ^ 64) (within : steps ≤ attempts)
    (free : (candidate + steps) % 2 ^ 64 ∉ used) : Probes (2 ^ 64) used candidate (nextFree used attempts candidate) := by
  induction attempts generalizing candidate steps with
  | zero =>
      cases Nat.le_zero.mp within
      rw [Nat.add_zero, Nat.mod_eq_of_lt small] at free
      exact .free candidate free
  | succ attempts ih =>
      rw [nextFree]
      by_cases held : candidate ∈ used
      · rw [if_pos held]
        cases steps with
        | zero =>
            rw [Nat.add_zero, Nat.mod_eq_of_lt small] at free
            exact absurd held free
        | succ steps =>
            apply Probes.taken candidate _ held
            apply ih _ steps (Nat.mod_lt _ (by decide)) (Nat.le_of_succ_le_succ within)
            rw [Nat.mod_add_mod, Nat.add_assoc, Nat.add_comm 1 steps]
            exact free
      · rw [if_neg held]
        exact .free candidate held

section Pools

variable (sha256 : Sha256) (seed : Nat)

def poolCandidate (index : Nat) : Nat := firstEight (sha256 s!"prefix-pool-v1\x00{seed}\x00{index}")

theorem pool_candidate_small (index : Nat) : poolCandidate sha256 seed index < 2 ^ 64 :=
  Nat.div_lt_of_lt_mul (sha256 _).isLt

theorem pool_values_succ (count : Nat) : (SeedPool.generated seed (count + 1)).values sha256 =
    (SeedPool.generated seed count).values sha256 ++
      [nextFree ((SeedPool.generated seed count).values sha256) ((SeedPool.generated seed count).values sha256).length
        (poolCandidate sha256 seed count)] := by
  simp only [SeedPool.values, List.range_succ, List.foldl_append, List.foldl_cons, List.foldl_nil]
  rfl

theorem pool_values_length (count : Nat) : ((SeedPool.generated seed count).values sha256).length = count := by
  induction count with
  | zero => rfl
  | succ count ih => rw [pool_values_succ, List.length_append, ih, List.length_singleton]

theorem pool_values_take (fewer count : Nat) (within : fewer ≤ count) :
    (SeedPool.generated seed fewer).values sha256 = ((SeedPool.generated seed count).values sha256).take fewer := by
  induction count with
  | zero =>
      cases Nat.le_zero.mp within
      rfl
  | succ count ih =>
      by_cases whole : fewer = count + 1
      · rw [whole, List.take_of_length_le (Nat.le_of_eq (pool_values_length sha256 seed (count + 1)))]
      · have inside : fewer ≤ count := by omega
        rw [pool_values_succ, List.take_append_of_le_length (by rw [pool_values_length]; exact inside)]
        exact ih inside

theorem pool_values_probe (count : Nat) (room : count < 2 ^ 64) :
    Probes (2 ^ 64) ((SeedPool.generated seed count).values sha256) (poolCandidate sha256 seed count)
      (nextFree ((SeedPool.generated seed count).values sha256) ((SeedPool.generated seed count).values sha256).length
        (poolCandidate sha256 seed count)) := by
  have few : ((SeedPool.generated seed count).values sha256).length < 2 ^ 64 := by
    rw [pool_values_length]
    exact room
  obtain ⟨steps, within, free⟩ := free_successor (2 ^ 64) _ (poolCandidate sha256 seed count) few
  exact next_free_probes _ _ _ steps (pool_candidate_small sha256 seed count) within free

theorem pool_values_sound (count : Nat) (room : count ≤ 2 ^ 64) :
    ((SeedPool.generated seed count).values sha256).Nodup ∧ ∀ value ∈ (SeedPool.generated seed count).values sha256, value < 2 ^ 64 := by
  induction count with
  | zero => exact ⟨List.nodup_nil, fun value member => by cases member⟩
  | succ count ih =>
      obtain ⟨distinct, small⟩ := ih (Nat.le_of_succ_le room)
      have probe := pool_values_probe sha256 seed count room
      rw [pool_values_succ]
      constructor
      · exact List.nodup_append_comm.mp
          (List.nodup_cons.mpr ⟨probes_free _ _ _ _ probe, distinct⟩)
      · intro value member
        cases List.mem_append.mp member with
        | inl old => exact small value old
        | inr fresh =>
            rw [List.mem_singleton.mp fresh]
            exact probes_small _ _ _ _ probe (pool_candidate_small sha256 seed count)

end Pools

theorem generated_seed_pool (sha256 : Sha256) (seed count : Nat) (valid : (SeedPool.generated seed count).valid = true) :
    ((SeedPool.generated seed count).values sha256).length = count ∧
    ((SeedPool.generated seed count).values sha256).Nodup ∧
    (∀ value ∈ (SeedPool.generated seed count).values sha256, value < 2 ^ 64) ∧
    (∀ index value, ((SeedPool.generated seed count).values sha256)[index]? = some value →
      Probes (2 ^ 64) (((SeedPool.generated seed count).values sha256).take index)
        (firstEight (sha256 s!"prefix-pool-v1\x00{seed}\x00{index}")) value) ∧
    ∀ fewer ≤ count, (SeedPool.generated seed fewer).values sha256 = ((SeedPool.generated seed count).values sha256).take fewer := by
  simp only [SeedPool.valid, Bool.and_eq_true, decide_eq_true_eq] at valid
  have room : count ≤ 2 ^ 64 := Nat.le_trans valid.2 (by decide)
  obtain ⟨distinct, small⟩ := pool_values_sound sha256 seed count room
  refine ⟨pool_values_length sha256 seed count, distinct, small, ?_, fun fewer within => pool_values_take sha256 seed fewer count within⟩
  intro index value read
  obtain ⟨below, _⟩ := List.getElem?_eq_some_iff.mp read
  rw [pool_values_length] at below
  have entry : ((SeedPool.generated seed (index + 1)).values sha256)[index]? = some value := by
    rw [pool_values_take sha256 seed (index + 1) count below, List.getElem?_take_of_lt (Nat.lt_succ_self index)]
    exact read
  rw [pool_values_succ, List.getElem?_append_right (Nat.le_of_eq (pool_values_length sha256 seed index)), Nat.sub_eq_zero_of_le
    (Nat.le_of_eq (pool_values_length sha256 seed index).symm)] at entry
  cases entry
  rw [← pool_values_take sha256 seed index count (Nat.le_of_lt below)]
  exact pool_values_probe sha256 seed index (Nat.lt_of_lt_of_le below room)

-- A hash that always collides: the second value is the successor of the first.
theorem generated_seed_pool_colliding : ((SeedPool.generated 7 2).values fun _ => 0) = [0, 1] ∧
    ((SeedPool.generated 7 2).values fun _ => 0).Nodup := by
  obtain ⟨_, distinct, _⟩ := generated_seed_pool (fun _ => 0) 7 2 (by decide)
  exact ⟨by decide +kernel, distinct⟩

namespace InstanceContext

section Materials

variable (sha256 : Sha256) (context : InstanceContext)

-- The texts behind the digests of family_prefix_seed, batch_seed and payload_seed.
def familyMaterial : String := s!"family-prefix-v1\x00{context.seed}\x00{coordinatesText context.dimensions}"

def batchMaterial (nodeId : NodeId) : String :=
  match context.prefixSeedScope with
  | .family => s!"family-suffix-v1\x00{context.familyPrefixSeed sha256}\x00{context.trialIndex}\x00{nodeId}"
  | .trial => s!"batch-v1\x00{context.seed}\x00{coordinatesText context.dimensions}\x00{context.trialIndex}\x00{nodeId}"

theorem batch_seed (nodeId : NodeId) : context.batchSeed sha256 nodeId = firstEight (sha256 (context.batchMaterial sha256 nodeId)) := by
  rw [batchSeed, batchMaterial]
  cases context.prefixSeedScope with
  | family => rfl
  | trial => rfl

end Materials

end InstanceContext

def payloadMaterial (seed : Nat) (dimensions : Dimensions) (trialIndex : Nat) (payloadSeed : String) : String :=
  s!"{seed}\x00{coordinatesText dimensions}\x00{trialIndex}\x00{payloadSeed}"

theorem payload_seed (sha256 : Sha256) (context : InstanceContext) (payloadId : String) (payload : TaskPayloadSpec)
    (known : context.payloads.get payloadId = some payload) :
    context.payloadSeed sha256 payloadId =
      .ok (firstFour (sha256 (payloadMaterial context.seed context.dimensions context.trialIndex payload.seed)) % 2 ^ 31) := by
  rw [InstanceContext.payloadSeed, known]
  rfl

theorem member_text_injective (head : List Char) (trial other : Nat) (nodeId otherId : NodeId)
    (same : head ++ '\x00' :: (trial.repr.toList ++ '\x00' :: nodeId.toList) =
      head ++ '\x00' :: (other.repr.toList ++ '\x00' :: otherId.toList)) : trial = other ∧ nodeId = otherId := by
  have tail := (List.cons.inj (List.append_cancel_left same)).2
  obtain ⟨trials, nodes⟩ := natural_split trial other _ _ (by simp [Closed]) (by simp [Closed]) tail
  exact ⟨trials, String.toList_injective (List.cons.inj nodes).2⟩

theorem member_text (head : String) (trial : Nat) (nodeId : NodeId) :
    s!"{head}\x00{trial}\x00{nodeId}".toList = head.toList ++ '\x00' :: (trial.repr.toList ++ '\x00' :: nodeId.toList) := by
  change (head ++ "\x00" ++ toString trial ++ "\x00" ++ nodeId).toList = _
  simp only [String.toList_append, List.append_assoc]
  rfl

theorem coordinates_split (recipe : TaskRecipe) (dimensions others : Dimensions) (rest other : List Char)
    (coordinate : dimensions ∈ matrixCoordinates recipe) (otherCoordinate : others ∈ matrixCoordinates recipe)
    (closed : Closed rest) (closedOther : Closed other)
    (same : (coordinatesText dimensions).toList ++ rest = (coordinatesText others).toList ++ other) :
    dimensions = others ∧ rest = other := by
  have text := coordinate_text recipe dimensions coordinate
  have otherText := coordinate_text recipe others otherCoordinate
  obtain ⟨values, many, rfl⟩ := coordinate_values recipe dimensions coordinate
  obtain ⟨second, alsoMany, rfl⟩ := coordinate_values recipe others otherCoordinate
  rw [text, otherText] at same
  obtain ⟨rfl, tail⟩ := entries_split (coordinateNames recipe) values second rest other many alsoMany closed closedOther same
  exact ⟨rfl, tail⟩

def taggedCoordinates (tag : String) (seed : Nat) (dimensions : Dimensions) : String :=
  s!"{tag}\x00{seed}\x00{coordinatesText dimensions}"

theorem tagged_coordinates_split (recipe : TaskRecipe) (tag : String) (seed : Nat) (dimensions others : Dimensions)
    (rest other : List Char) (coordinate : dimensions ∈ matrixCoordinates recipe)
    (otherCoordinate : others ∈ matrixCoordinates recipe) (closed : Closed rest) (closedOther : Closed other)
    (same : (taggedCoordinates tag seed dimensions).toList ++ rest = (taggedCoordinates tag seed others).toList ++ other) :
    dimensions = others ∧ rest = other := by
  simp only [taggedCoordinates, member_text, List.append_assoc, List.cons_append] at same
  have coordinates := (List.cons.inj (List.append_cancel_left same)).2
  have tail := (List.cons.inj (List.append_cancel_left coordinates)).2
  exact coordinates_split recipe dimensions others rest other coordinate otherCoordinate closed closedOther tail

theorem tagged_member_injective (recipe : TaskRecipe) (tag : String) (seed : Nat) (dimensions others : Dimensions)
    (trial other : Nat) (nodeId otherId : NodeId) (coordinate : dimensions ∈ matrixCoordinates recipe)
    (otherCoordinate : others ∈ matrixCoordinates recipe)
    (same : s!"{taggedCoordinates tag seed dimensions}\x00{trial}\x00{nodeId}" =
      s!"{taggedCoordinates tag seed others}\x00{other}\x00{otherId}") :
    dimensions = others ∧ trial = other ∧ nodeId = otherId := by
  have letters := congrArg String.toList same
  rw [member_text, member_text] at letters
  obtain ⟨rfl, tail⟩ := tagged_coordinates_split recipe tag seed dimensions others _ _ coordinate otherCoordinate
    (by simp [Closed]) (by simp [Closed]) letters
  exact ⟨rfl, member_text_injective [] trial other nodeId otherId tail⟩

theorem family_suffix_injective (family another trial other : Nat) (nodeId otherId : NodeId)
    (same : s!"family-suffix-v1\x00{family}\x00{trial}\x00{nodeId}" = s!"family-suffix-v1\x00{another}\x00{other}\x00{otherId}") :
    family = another ∧ trial = other ∧ nodeId = otherId := by
  have letters := (member_text s!"family-suffix-v1\x00{family}" trial nodeId).symm.trans
    ((congrArg String.toList same).trans (member_text s!"family-suffix-v1\x00{another}" other otherId))
  change ("family-suffix-v1\x00" ++ toString family).toList ++ _ = ("family-suffix-v1\x00" ++ toString another).toList ++ _ at letters
  rw [String.toList_append, String.toList_append, List.append_assoc, List.append_assoc] at letters
  obtain ⟨rfl, tail⟩ := natural_split family another _ _ (by simp [Closed]) (by simp [Closed]) (List.append_cancel_left letters)
  exact ⟨rfl, member_text_injective [] trial other nodeId otherId tail⟩

section Recipe

variable (sha256 : Sha256) (recipe : TaskRecipe)

def FamiliesDiffer : Prop :=
  ∀ dimensions ∈ matrixCoordinates recipe, ∀ others ∈ matrixCoordinates recipe, ∀ trial other : Nat,
    (instanceContext recipe dimensions trial).familyPrefixSeed sha256 = (instanceContext recipe others other).familyPrefixSeed sha256 →
    (instanceContext recipe dimensions trial).familyMaterial = (instanceContext recipe others other).familyMaterial

theorem family_material_injective (dimensions others : Dimensions) (trial other : Nat)
    (coordinate : dimensions ∈ matrixCoordinates recipe) (otherCoordinate : others ∈ matrixCoordinates recipe)
    (same : (instanceContext recipe dimensions trial).familyMaterial = (instanceContext recipe others other).familyMaterial) :
    dimensions = others := by
  have letters := congrArg (fun text => text.toList ++ []) same
  exact (tagged_coordinates_split recipe "family-prefix-v1" recipe.instances.seed dimensions others [] [] coordinate otherCoordinate
    (by simp [Closed]) (by simp [Closed]) letters).1

theorem batch_material_injective (dimensions others : Dimensions) (trial other : Nat) (nodeId otherId : NodeId)
    (coordinate : dimensions ∈ matrixCoordinates recipe) (otherCoordinate : others ∈ matrixCoordinates recipe)
    (families : recipe.instances.prefixSeedScope = .family → FamiliesDiffer sha256 recipe)
    (same : (instanceContext recipe dimensions trial).batchMaterial sha256 nodeId =
      (instanceContext recipe others other).batchMaterial sha256 otherId) :
    dimensions = others ∧ trial = other ∧ nodeId = otherId := by
  cases scope : recipe.instances.prefixSeedScope with
  | trial =>
      simp only [InstanceContext.batchMaterial, instanceContext, scope] at same
      exact tagged_member_injective recipe "batch-v1" recipe.instances.seed dimensions others trial other nodeId otherId
        coordinate otherCoordinate same
  | family =>
      simp only [InstanceContext.batchMaterial, instanceContext, scope] at same
      obtain ⟨family, trials, nodes⟩ := family_suffix_injective _ _ trial other nodeId otherId same
      have material := families scope dimensions coordinate others otherCoordinate trial other family
      exact ⟨family_material_injective recipe dimensions others trial other coordinate otherCoordinate material, trials, nodes⟩

theorem prefix_pick_injective (dimensions others : Dimensions) (trial other : Nat) (nodeId otherId : NodeId)
    (coordinate : dimensions ∈ matrixCoordinates recipe) (otherCoordinate : others ∈ matrixCoordinates recipe)
    (same : (instanceContext recipe dimensions trial).prefixPickMaterial nodeId =
      (instanceContext recipe others other).prefixPickMaterial otherId) :
    dimensions = others ∧ trial = other ∧ nodeId = otherId :=
  tagged_member_injective recipe "prefix-pick-v1" recipe.instances.seed dimensions others trial other nodeId otherId
    coordinate otherCoordinate same

structure SeededRow (context : InstanceContext) (row : CompiledNodeRow) : Prop where
  payload : ∀ payloadId, row.payloadId = some payloadId → ∃ payload, context.payloads.get payloadId = some payload ∧
    row.payloadSeed = firstFour (sha256 (payloadMaterial context.seed context.dimensions context.trialIndex payload.seed)) % 2 ^ 31
  batch : row.payloadId = none → row.payloadSeed = firstEight (sha256 (context.batchMaterial sha256 row.nodeId))

theorem compiled_row_seeded (context : InstanceContext) (instanceKey : String) (row : TreeRow) (seed : Option Nat) (value : Nat)
    (read : rowSeed sha256 context (emission row seed) = .ok value) :
    SeededRow sha256 context (compiledRow context instanceKey (emission row seed) value) := by
  constructor
  · intro payloadId named
    obtain ⟨payload, known⟩ := Option.isSome_iff_exists.mp
      ((row_seed_ok sha256 context (emission row seed)).mp ⟨value, read⟩ payloadId named)
    have same : row.data.payloadId = some payloadId := named
    simp only [rowSeed, emission, same, payload_seed sha256 context payloadId payload known, Except.ok.injEq] at read
    exact ⟨payload, known, read.symm⟩
  · intro absent
    have same : row.data.payloadId = none := absent
    simp only [rowSeed, emission, same, Except.ok.injEq] at read
    rw [← InstanceContext.batch_seed]
    exact read.symm

theorem compiled_rows_seeded (benchmark : WorkerTemplate) (table : CompilationTable)
    (compiled : compile sha256 recipe benchmark = .ok table) (entry : CompiledInstanceRow) (member : entry ∈ table.instances) :
    ∀ row ∈ table.nodesFor entry.instanceKey,
      SeededRow sha256 (instanceContext recipe entry.dimensions entry.trialIndex) row := by
  obtain ⟨_, _, expanded⟩ := compiled_nodes sha256 recipe benchmark table compiled entry member
  apply expanded_rows sha256 recipe entry.dimensions entry.trialIndex entry.instanceKey _
    (SeededRow sha256 (instanceContext recipe entry.dimensions entry.trialIndex)) _ expanded
  intro row seed value _ read _
  exact compiled_row_seeded sha256 _ entry.instanceKey row seed value read

theorem payload_seeds_agree (context : InstanceContext) (row other : CompiledNodeRow) (seeded : SeededRow sha256 context row)
    (alsoSeeded : SeededRow sha256 context other) (payloadId otherId : String) (payload otherPayload : TaskPayloadSpec)
    (named : row.payloadId = some payloadId) (alsoNamed : other.payloadId = some otherId)
    (known : context.payloads.get payloadId = some payload) (alsoKnown : context.payloads.get otherId = some otherPayload)
    (same : payload.seed = otherPayload.seed) : row.payloadSeed = other.payloadSeed := by
  obtain ⟨found, isFound, first⟩ := seeded.payload payloadId named
  obtain ⟨alsoFound, isAlsoFound, second⟩ := alsoSeeded.payload otherId alsoNamed
  cases known.symm.trans isFound
  cases alsoKnown.symm.trans isAlsoFound
  rw [first, second, same]

end Recipe

theorem seed_identities (sha256 : Sha256) (recipe : TaskRecipe) :
    (∀ dimensions ∈ matrixCoordinates recipe, ∀ others ∈ matrixCoordinates recipe, ∀ trial other : Nat,
      (dimensions, trial) ≠ (others, other) → instanceKeyOf dimensions trial ≠ instanceKeyOf others other) ∧
    ((recipe.instances.prefixSeedScope = .family → FamiliesDiffer sha256 recipe) →
      ∀ dimensions ∈ matrixCoordinates recipe, ∀ others ∈ matrixCoordinates recipe, ∀ (trial other : Nat) (nodeId otherId : NodeId),
        (dimensions, trial, nodeId) ≠ (others, other, otherId) →
        (instanceContext recipe dimensions trial).batchMaterial sha256 nodeId ≠
          (instanceContext recipe others other).batchMaterial sha256 otherId) ∧
    (∀ dimensions ∈ matrixCoordinates recipe, ∀ others ∈ matrixCoordinates recipe, ∀ (trial other : Nat) (nodeId otherId : NodeId),
      (dimensions, trial, nodeId) ≠ (others, other, otherId) →
      (instanceContext recipe dimensions trial).prefixPickMaterial nodeId ≠
        (instanceContext recipe others other).prefixPickMaterial otherId) ∧
    ∀ benchmark table, compile sha256 recipe benchmark = .ok table → ∀ entry ∈ table.instances,
      entry.dimensions ∈ matrixCoordinates recipe ∧ entry.instanceKey = instanceKeyOf entry.dimensions entry.trialIndex ∧
      (∀ row ∈ table.nodesFor entry.instanceKey,
        SeededRow sha256 (instanceContext recipe entry.dimensions entry.trialIndex) row) ∧
      ∀ row ∈ table.nodesFor entry.instanceKey, ∀ other ∈ table.nodesFor entry.instanceKey,
        ∀ payloadId otherId payload otherPayload, row.payloadId = some payloadId → other.payloadId = some otherId →
        recipe.payloads.get payloadId = some payload → recipe.payloads.get otherId = some otherPayload →
        payload.seed = otherPayload.seed → row.payloadSeed = other.payloadSeed := by
  refine ⟨?_, ?_, ?_, ?_⟩
  · intro dimensions coordinate others otherCoordinate trial other different same
    obtain ⟨rfl, rfl⟩ := instance_key_injective recipe dimensions others trial other coordinate otherCoordinate same
    exact different rfl
  · intro families dimensions coordinate others otherCoordinate trial other nodeId otherId different same
    obtain ⟨rfl, rfl, rfl⟩ := batch_material_injective sha256 recipe dimensions others trial other nodeId otherId coordinate
      otherCoordinate families same
    exact different rfl
  · intro dimensions coordinate others otherCoordinate trial other nodeId otherId different same
    obtain ⟨rfl, rfl, rfl⟩ := prefix_pick_injective recipe dimensions others trial other nodeId otherId coordinate
      otherCoordinate same
    exact different rfl
  · intro benchmark table compiled entry member
    obtain ⟨isInstance, key, _⟩ := compiled_nodes sha256 recipe benchmark table compiled entry member
    obtain ⟨dimensions, coordinate, inTrials⟩ := List.mem_flatMap.mp isInstance
    obtain ⟨trial, _, same⟩ := List.mem_map.mp inTrials
    have seeded := compiled_rows_seeded sha256 recipe benchmark table compiled entry member
    refine ⟨(Prod.mk.inj same).1 ▸ coordinate, key, seeded, ?_⟩
    intro row inRows other inOthers
    exact payload_seeds_agree sha256 _ row other (seeded row inRows) (seeded other inOthers)

def hostileRecipe : TaskRecipe :=
  { name := "sample",
    instances := { matrix := ⟨[("a=0;b\x00", [0, -1])], by decide⟩, trials := 2, seed := 1, prefixSeedScope := .family },
    payloads := ⟨[("p", ⟨"s", none⟩)], List.nodup_singleton "p"⟩,
    root := .runNode { name := "warm", role := none, after := .zero, dependsOn := [], prefixSeed := none }, roots := [] }

def familyDigests : List (String × Fin (2 ^ 256)) :=
  [("family-prefix-v1\x001\x00a=0;b\x00=0",
    ⟨0x2e2b3b2f72907ce2eefadd6cce0a9476fd37b8088d624f873d94db051118716a, by decide⟩),
   ("family-prefix-v1\x001\x00a=0;b\x00=-1",
    ⟨0x05cc4378968cf9d0b100d9e57e50c25600f28fe83ee96809615959c824e5c3cd, by decide⟩),
   ("family-suffix-v1\x003326817824714816738\x000\x00warm",
    ⟨0x4d69b32d0d19b8720517af6917dc4165632e10c07e4d7211c445e1bb2c2554c1, by decide⟩),
   ("family-suffix-v1\x003326817824714816738\x001\x00warm",
    ⟨0x1cf3bbcf0c5d005ea615b3a082d7e9c2b4016945269a194c26d9feb320726878, by decide⟩),
   ("family-suffix-v1\x00417783050639571408\x000\x00warm",
    ⟨0xedb74f7371946cf93aac6d37841861d79c8bfdf36a278d122600464f7028e6f9, by decide⟩),
   ("family-suffix-v1\x00417783050639571408\x001\x00warm",
    ⟨0x43a6dbd21392680d03ff49b1e0d5e6de748d21ebe031a647c8c33bd9561991bc, by decide⟩)]

def familyDigest : Sha256 := fun material => ((familyDigests.find? fun entry => entry.1 = material).map Prod.snd).getD 0

def replayRecipe : TaskRecipe := workflowRecipe .empty (callNode "ask" []) [callNode "again" []]

def replayTable := compiledTable (compile (fun _ => 0) replayRecipe plainTemplate) (by decide +kernel)

theorem seed_identities_hostile :
    (instanceContext hostileRecipe [("a=0;b\x00", 0)] 1).batchMaterial familyDigest "warm" ≠
      (instanceContext hostileRecipe [("a=0;b\x00", -1)] 1).batchMaterial familyDigest "warm" ∧
    instanceKeyOf [("a=0;b\x00", 0)] 1 ≠ instanceKeyOf [("a=0;b\x00", -1)] 1 ∧
    (instanceContext hostileRecipe [("a=0;b\x00", 0)] 1).prefixPickMaterial "warm" ≠
      (instanceContext hostileRecipe [("a=0;b\x00", 0)] 0).prefixPickMaterial "warm" ∧
    ∀ entry ∈ replayTable.1.instances, ∀ row ∈ replayTable.1.nodesFor entry.instanceKey,
      ∀ other ∈ replayTable.1.nodesFor entry.instanceKey, row.payloadId = some "p" → other.payloadId = some "p" →
        row.payloadSeed = other.payloadSeed := by
  obtain ⟨keys, batches, picks, _⟩ := seed_identities familyDigest hostileRecipe
  obtain ⟨_, _, _, rows⟩ := seed_identities (fun _ => 0) replayRecipe
  have zero : [("a=0;b\x00", 0)] ∈ matrixCoordinates hostileRecipe := by decide
  have minus : [("a=0;b\x00", -1)] ∈ matrixCoordinates hostileRecipe := by decide
  have families : FamiliesDiffer familyDigest hostileRecipe := by
    have apart : ∀ dimensions ∈ matrixCoordinates hostileRecipe, ∀ others ∈ matrixCoordinates hostileRecipe,
        (instanceContext hostileRecipe dimensions 0).familyPrefixSeed familyDigest =
          (instanceContext hostileRecipe others 0).familyPrefixSeed familyDigest → dimensions = others := by decide +kernel
    intro dimensions coordinate others otherCoordinate trial other same
    rw [apart dimensions coordinate others otherCoordinate same]
    rfl
  refine ⟨?_, ?_, ?_, ?_⟩
  · exact batches (fun _ => families) _ zero _ minus 1 1 "warm" "warm" (by decide)
  · exact keys _ zero _ minus 1 1 (by decide)
  · exact picks _ zero _ zero 1 0 "warm" "warm" (by decide)
  · intro entry member row inRows other inOthers named alsoNamed
    obtain ⟨_, _, _, replays⟩ := rows plainTemplate replayTable.1 replayTable.2 entry member
    exact replays row inRows other inOthers "p" "p" ⟨"s", none⟩ ⟨"s", none⟩ named alsoNamed rfl rfl rfl

end LlmperfOrchestrator.Compiler
