import LlmperfOrchestrator.Compiler.Estimate
import LlmperfOrchestrator.Compiler.LoopWaves
import LlmperfOrchestrator.Compiler.StructuralDelays

set_option autoImplicit false

namespace LlmperfOrchestrator.Compiler

open Tables SeriesParallel Outcomes

def CohortWaves (gaps : List Rat) (lanes : Nat) (values : List Nat) (tree : Tree) : Prop :=
  ∃ waves, Paced waves tree ∧ waves.map Prod.fst = gaps ∧ ∀ wave ∈ waves, CohortWave wave.1 lanes values wave.2

section Trees

variable (lanes : Nat) (values : List Nat)

theorem one_wave (gap : Rat) (tree : Tree) (wave : CohortWave gap lanes values tree) : CohortWaves [gap] lanes values tree := by
  refine ⟨[(gap, tree)], .wave gap tree wave.even, rfl, fun other member => ?_⟩
  rw [List.mem_singleton.mp member]
  exact wave

theorem more_waves (early late : List Rat) (first rest : Tree) (before : CohortWaves early lanes values first)
    (after : CohortWaves late lanes values rest) : CohortWaves (early ++ late) lanes values (.serial first rest) := by
  obtain ⟨some, one, rfl, each⟩ := before
  obtain ⟨others, other, rfl, all⟩ := after
  refine ⟨some ++ others, .serial some others first rest one other, List.map_append, fun wave member => ?_⟩
  exact (List.mem_append.mp member).elim (each wave) (all wave)

theorem wave_series (parts : List (List Rat)) (trees : List Tree)
    (each : List.Forall₂ (fun gaps tree => CohortWaves gaps lanes values tree) parts trees) :
    CohortWaves parts.flatten lanes values (serialList trees) := by
  induction each with
  | nil => exact ⟨[], .idle, rfl, fun wave absent => (by cases absent)⟩
  | cons here _ ih => exact more_waves lanes values _ _ _ _ here ih

variable (gaps : List Rat) (tree : Tree) (runs : CohortWaves gaps lanes values tree)

include runs

theorem waves_batch (leaf : TreeRow) (member : leaf ∈ tree.leaves) :
    leaf.data.executionKind = .batch ∧ leaf.data.messageSources = [] := by
  obtain ⟨waves, paced, _, each⟩ := runs
  rw [paced_leaves waves tree paced] at member
  obtain ⟨wave, inWaves, inWave⟩ := List.mem_flatMap.mp member
  exact (each wave inWaves).batches leaf inWave

theorem waves_peak (busy : gaps ≠ []) (weight : NodeId → Nat) (load : Nat) (loads : ∀ u ∈ tree.nodes, weight u = load) :
    tree.peak weight = lanes * load := by
  obtain ⟨waves, paced, rfl, each⟩ := runs
  rw [paced_peak weight waves tree paced]
  apply constant_peak _ _ fun empty => busy (by rw [List.map_eq_nil_iff.mp empty]; rfl)
  intro peak member
  obtain ⟨wave, inWaves, rfl⟩ := List.mem_map.mp member
  exact (each wave inWaves).peak weight load fun u held => loads u (wave_nodes waves tree paced wave inWaves u held)

theorem waves_size : tree.nodes.length = values.length * gaps.length := by
  obtain ⟨waves, paced, rfl, each⟩ := runs
  have sizes : waves.map (fun wave => wave.2.leaves.length) = waves.map fun _ => values.length := by
    apply List.map_congr_left
    intro wave member
    have seeds := congrArg List.length (each wave member).seeds
    rwa [List.length_map, List.length_map] at seeds
  rw [Term.nodes, List.length_map, paced_leaves waves tree paced, List.length_flatMap, sizes, List.map_const',
    List.sum_replicate_nat, List.length_map, Nat.mul_comm]

end Trees

structure CompiledWaves (gaps : List Rat) (values : List Nat) (rows : List CompiledNodeRow)
    (waves : List (List CompiledNodeRow)) : Prop where
  whole : waves.flatten = rows
  count : waves.length = gaps.length
  seeds : ∀ wave ∈ waves, wave.map CompiledNodeRow.prefixSeed = values.map some
  offsets : ∀ index wave, waves[index]? = some wave → ∀ row ∈ wave, plannedOffset rows row.nodeId = (gaps.take (index + 1)).sum
  separated : ∀ start finish, Honours (rows.map CompiledNodeRow.outline) start finish →
    ∀ (before index : Nat) (earlier wave : List CompiledNodeRow) (gap : Rat), before < index →
      waves[before]? = some earlier → waves[index]? = some wave → gaps[index]? = some gap →
        ∀ u ∈ earlier, ∀ v ∈ wave, finish u.nodeId + gap ≤ start v.nodeId

def literalSeed : Option PrefixSeed → Option Nat
  | some (.literal seed) => some seed
  | _ => none

theorem literal_resolves (sha256 : Sha256) (context : InstanceContext) (nodeId : NodeId) (seed : Option PrefixSeed)
    (value : Option Nat) (literal : (literalSeed seed).isSome)
    (resolved : context.resolveRunSeed sha256 nodeId seed = .ok value) : value = literalSeed seed := by
  cases seed with
  | none => cases literal
  | some seed =>
      cases seed with
      | pick pool => cases literal
      | dimension name => cases literal
      | literal number =>
          change (context.resolveSeedValue (.literal number)).map some = .ok value at resolved
          by_cases bounded : 0 ≤ (number : Int) ∧ (number : Int) ≤ 2 ^ 64 - 1
          · simp only [InstanceContext.resolveSeedValue, TaskValue.resolve, bind, Except.bind, if_pos bounded, Except.map,
              Int.toNat_natCast] at resolved
            exact (Except.ok.inj resolved).symm
          · simp only [InstanceContext.resolveSeedValue, TaskValue.resolve, bind, Except.bind, if_neg bounded, Except.map] at resolved
            cases resolved

theorem honours_outlines (rows : List TreeRow) (start finish : NodeId → Rat) :
    Honours (rows.map outlineOf) start finish ↔ Honours rows start finish := by
  simp [Honours, outlineOf]

section Rows

variable (sha256 : Sha256) (recipe : TaskRecipe) (dimensions : Dimensions) (trial : Nat) (instanceKey : String)

theorem literal_rows (tree : Tree) (rows : List CompiledNodeRow) (isTree : workflowTree sha256 recipe dimensions = .ok tree)
    (expanded : expandGraph sha256 (instanceContext recipe dimensions trial) instanceKey recipe.workflow = .ok rows)
    (literal : ∀ leaf ∈ tree.leaves, (literalSeed leaf.data.prefixSeed).isSome) :
    rows.map (fun row => (row.nodeId, row.prefixSeed)) =
      tree.leaves.map fun leaf => (leaf.node, literalSeed leaf.data.prefixSeed) := by
  obtain ⟨_, again, pairs⟩ := expanded_pairs sha256 recipe dimensions trial instanceKey rows expanded
  cases isTree.symm.trans again
  have entered := rows_enter tree [] (0 : Rat)
  clear expanded again isTree
  generalize tree.rows [] 0 = entries at pairs entered
  generalize tree.leaves = leaves at literal entered
  induction entered generalizing rows with
  | nil =>
      cases pairs
      rfl
  | cons here _ ih =>
      obtain ⟨entry, delay, rfl⟩ := here
      cases pairs with
      | cons emitted later =>
          obtain ⟨seed, value, resolved, rfl⟩ := emitted
          have same := literal_resolves sha256 _ _ _ seed (literal _ List.mem_cons_self) resolved
          rw [List.map_cons, List.map_cons, ih _ later fun leaf member => literal leaf (List.mem_cons_of_mem _ member), same]
          rfl

theorem waves_literal (lanes : Nat) (values : List Nat) (gaps : List Rat) (tree : Tree) (runs : CohortWaves gaps lanes values tree)
    (leaf : TreeRow) (member : leaf ∈ tree.leaves) : (literalSeed leaf.data.prefixSeed).isSome := by
  obtain ⟨waves, paced, _, each⟩ := runs
  rw [paced_leaves waves tree paced] at member
  obtain ⟨wave, inWaves, inWave⟩ := List.mem_flatMap.mp member
  have listed : leaf.data.prefixSeed ∈ values.map fun value => some (PrefixSeed.literal value) := by
    rw [← (each wave inWaves).seeds]
    exact List.mem_map_of_mem (f := fun leaf : TreeRow => leaf.data.prefixSeed) inWave
  obtain ⟨value, _, same⟩ := List.mem_map.mp listed
  rw [← same]
  rfl

omit sha256 recipe dimensions trial instanceKey in
theorem block_nodes (block : List CompiledNodeRow) (tree : Tree)
    (same : (block.map fun row => (row.nodeId, row.prefixSeed)) =
      tree.leaves.map fun leaf => (leaf.node, literalSeed leaf.data.prefixSeed)) (row : CompiledNodeRow) (member : row ∈ block) :
    row.nodeId ∈ tree.nodes := by
  have named := congrArg (List.map Prod.fst) same
  rw [List.map_map, List.map_map] at named
  have listed : row.nodeId ∈ block.map (Prod.fst ∘ fun row => (row.nodeId, row.prefixSeed)) :=
    List.mem_map.mpr ⟨row, member, rfl⟩
  rw [named] at listed
  exact listed

theorem waves_compiled (lanes : Nat) (values : List Nat) (gaps : List Rat) (nonneg : ∀ gap ∈ gaps, 0 ≤ gap) (tree : Tree)
    (isTree : workflowTree sha256 recipe dimensions = .ok tree) (runs : CohortWaves gaps lanes values tree)
    (rows : List CompiledNodeRow)
    (expanded : expandGraph sha256 (instanceContext recipe dimensions trial) instanceKey recipe.workflow = .ok rows) :
    ∃ waves, CompiledWaves gaps values rows waves := by
  have literal := literal_rows sha256 recipe dimensions trial instanceKey tree rows isTree expanded
    (waves_literal lanes values gaps tree runs)
  obtain ⟨_, again, outlines, fits, _⟩ := graph_tree sha256 recipe dimensions trial instanceKey rows expanded
  cases isTree.symm.trans again
  obtain ⟨parts, paced, rfl, each⟩ := runs
  rw [paced_leaves parts tree paced, List.map_flatMap] at literal
  obtain ⟨blocks, whole, count, part⟩ := blocks_of_image _ _ rows parts literal
  refine ⟨blocks, whole, count.trans (List.length_map Prod.fst).symm, ?_, ?_, ?_⟩
  · intro block member
    obtain ⟨index, read⟩ := List.getElem?_of_mem member
    obtain ⟨wave, isWave, same⟩ := part index block read
    have seeds := congrArg (List.map Prod.snd) same
    have cohort := congrArg (List.map literalSeed) (each wave (List.mem_of_getElem? isWave)).seeds
    simp only [List.map_map] at seeds cohort
    exact seeds.trans cohort
  · intro index block read row member
    obtain ⟨wave, isWave, same⟩ := part index block read
    have due := (paced_plan parts tree paced (fun _ => 0) [] fits.unique fun u absent => (by cases absent)).1 index wave isWave
      row.nodeId (block_nodes block wave.2 same row member)
    rw [offsets_plan, outlines, plan_outlines, due, List.map_take]
    exact zero_add _
  · intro start finish honours before index earlier block gap order readEarlier read isGap u inEarlier v inBlock
    rw [outlines, honours_outlines] at honours
    obtain ⟨wave, isWave, same⟩ := part index block read
    obtain ⟨other, isOther, sameOther⟩ := part before earlier readEarlier
    have gapOf : wave.1 = gap := by
      rw [List.getElem?_map, isWave] at isGap
      exact Option.some.inj isGap
    have waits := (paced_execution parts tree paced (fun wave member => nonneg _ (List.mem_map_of_mem member)) [] start finish
      honours).1 index wave isWave v.nodeId (block_nodes block wave.2 same v inBlock) u.nodeId
    rw [← gapOf]
    exact waits (.inr ⟨before, other, order, isOther, block_nodes earlier other.2 sameOther u inEarlier⟩)

end Rows

theorem offsets_listed (rows : List CompiledNodeRow) : (Dict.keys (completionOffsets rows)).Nodup ∧
    ∀ nodeId, nodeId ∈ Dict.keys (completionOffsets rows) ↔ nodeId ∈ rows.map CompiledNodeRow.nodeId := by
  have loop : ∀ (offsets : Dict NodeId Rat), (Dict.keys offsets).Nodup →
      (Dict.keys (rows.foldl settleOffset offsets)).Nodup ∧ ∀ nodeId, nodeId ∈ Dict.keys (rows.foldl settleOffset offsets) ↔
        nodeId ∈ Dict.keys offsets ∨ nodeId ∈ rows.map CompiledNodeRow.nodeId := by
    induction rows with
    | nil => exact fun offsets unique => ⟨unique, by simp⟩
    | cons row rest ih =>
        intro offsets unique
        obtain ⟨settled, keys⟩ := dict_keys_put offsets row.nodeId
          (((row.dependencies.map fun dependency => (Dict.get dependency offsets).getD 0).max?.getD 0) + row.afterSeconds) unique
        obtain ⟨later, listed⟩ := ih _ settled
        refine ⟨later, fun nodeId => (listed nodeId).trans ?_⟩
        rw [keys, List.map_cons, List.mem_cons]
        tauto
  obtain ⟨unique, listed⟩ := loop [] List.nodup_nil
  exact ⟨unique, fun nodeId => (listed nodeId).trans (or_iff_right List.not_mem_nil)⟩

theorem span_latest (rows : List CompiledNodeRow) :
    plannedSpan rows = latest (plannedOffset rows) (rows.map CompiledNodeRow.nodeId) := by
  obtain ⟨unique, listed⟩ := offsets_listed rows
  have values : (completionOffsets rows).map Prod.snd = (Dict.keys (completionOffsets rows)).map (plannedOffset rows) := by
    rw [Dict.keys, List.map_map]
    apply List.map_congr_left
    intro entry member
    rw [Function.comp_apply, plannedOffset, dict_get_of_mem _ entry.1 entry.2 unique member]
    rfl
  rw [plannedSpan, values]
  exact latest_members _ _ _ listed

theorem waves_span (gaps : List Rat) (values : List Nat) (rows : List CompiledNodeRow) (waves : List (List CompiledNodeRow))
    (cut : CompiledWaves gaps values rows waves) (filled : values ≠ []) (busy : gaps ≠ []) (nonneg : ∀ gap ∈ gaps, 0 ≤ gap) :
    plannedSpan rows = gaps.sum := by
  have positive : 0 < waves.length := by
    rw [cut.count]
    exact List.length_pos_of_ne_nil busy
  rw [span_latest]
  apply le_antisymm
  · apply latest_le _ _ _ (List.sum_nonneg nonneg)
    intro nodeId member
    obtain ⟨row, inRows, rfl⟩ := List.mem_map.mp member
    rw [← cut.whole] at inRows
    obtain ⟨wave, inWaves, inWave⟩ := List.mem_flatten.mp inRows
    obtain ⟨index, read⟩ := List.getElem?_of_mem inWaves
    rw [cut.offsets index wave read row inWave]
    exact (List.take_sublist _ _).sum_le_sum nonneg
  · -- the last wave is due after all gaps
    obtain ⟨wave, read⟩ : ∃ wave, waves[waves.length - 1]? = some wave := ⟨_, List.getElem?_eq_getElem (by omega)⟩
    have seeds := congrArg List.length (cut.seeds wave (List.mem_of_getElem? read))
    rw [List.length_map, List.length_map] at seeds
    obtain ⟨row, inWave⟩ := List.exists_mem_of_length_pos (seeds ▸ List.length_pos_of_ne_nil filled)
    have due := cut.offsets _ wave read row inWave
    rw [Nat.sub_add_cancel positive, cut.count, List.take_length] at due
    rw [← due]
    apply latest_ge
    apply List.mem_map_of_mem
    rw [← cut.whole]
    exact List.mem_flatten.mpr ⟨wave, List.mem_of_getElem? read, inWave⟩

theorem waves_seeded (gaps : List Rat) (values : List Nat) (rows : List CompiledNodeRow) (waves : List (List CompiledNodeRow))
    (cut : CompiledWaves gaps values rows waves) (row : CompiledNodeRow) (member : row ∈ rows) :
    ∃ value ∈ values, row.prefixSeed = some value := by
  rw [← cut.whole] at member
  obtain ⟨wave, inWaves, inWave⟩ := List.mem_flatten.mp member
  have listed : row.prefixSeed ∈ values.map some := by
    rw [← cut.seeds wave inWaves]
    exact List.mem_map_of_mem inWave
  obtain ⟨value, held, same⟩ := List.mem_map.mp listed
  exact ⟨value, held, same.symm⟩

structure SingleInstance (recipe : TaskRecipe) : Prop where
  coordinates : matrixCoordinates recipe = [[]]
  trials : recipe.instances.trials = 1

theorem weight_constant (weights : Dict NodeId Nat) (load : Nat) (all : ∀ entry ∈ weights, entry.2 = load) (nodeId : NodeId)
    (held : nodeId ∈ Dict.keys weights) : weightOf weights nodeId = load := by
  have known := (dict_key_held weights nodeId).mp held
  cases found : Dict.get nodeId weights with
  | none => exact absurd found known
  | some weight =>
      rw [weightOf, found]
      exact all _ (dict_get_mem weights nodeId weight found)

section Single

variable (sha256 : Sha256) (recipe : TaskRecipe) (benchmark : BenchmarkDocument) (gaps : List Rat) (lanes : Nat) (values : List Nat)
  (tree : Tree) (accepted : validateRecipe sha256 recipe = .ok ()) (single : SingleInstance recipe)
  (isTree : workflowTree sha256 recipe [] = .ok tree) (runs : CohortWaves gaps lanes values tree)

include runs isTree

theorem batch_rows (trial : Nat) (instanceKey : String) (rows : List CompiledNodeRow)
    (expanded : expandGraph sha256 (instanceContext recipe [] trial) instanceKey recipe.workflow = .ok rows) :
    ∀ row ∈ rows, row.executionKind = .batch ∧ row.messageSources = [] := by
  obtain ⟨_, again, outlines, _⟩ := graph_tree sha256 recipe [] trial instanceKey rows expanded
  cases isTree.symm.trans again
  intro row member
  have listed : row.outline ∈ (tree.rows [] 0).map outlineOf := outlines ▸ List.mem_map_of_mem member
  obtain ⟨entered, inRows, same⟩ := List.mem_map.mp listed
  obtain ⟨leaf, inLeaves, entry, delay, rfl⟩ := row_leaf tree [] 0 entered inRows
  have data := congrArg Row.data same
  obtain ⟨kind, sources⟩ := waves_batch lanes values gaps tree runs leaf inLeaves
  exact ⟨(congrArg Prod.fst data).symm.trans kind, (congrArg Prod.snd data).symm.trans sources⟩

theorem batch_template (trial : Nat) (instanceKey : String) (rows : List CompiledNodeRow)
    (expanded : expandGraph sha256 (instanceContext recipe [] trial) instanceKey recipe.workflow = .ok rows) :
    validateWorkerTemplate rows benchmark.template = .ok () := by
  have batch := batch_rows sha256 recipe gaps lanes values tree isTree runs trial instanceKey rows expanded
  have atomic : (rows.any fun row => row.executionKind == .atomic) = false := by
    rw [List.any_eq_false]
    intro row member
    rw [(batch row member).1]
    decide
  have reused : (rows.any fun row => !row.messageSources.isEmpty) = false := by
    rw [List.any_eq_false]
    intro row member
    rw [(batch row member).2]
    decide
  simp [validateWorkerTemplate, atomic, reused]

include accepted single

theorem single_expands (instanceKey : String) : ∃ rows,
    expandGraph sha256 (instanceContext recipe [] 0) instanceKey recipe.workflow = .ok rows ∧
      rows.map CompiledNodeRow.nodeId = tree.nodes ∧ validateWorkerTemplate rows benchmark.template = .ok () := by
  have coordinate : [] ∈ matrixCoordinates recipe := by
    rw [single.coordinates]
    exact List.mem_singleton_self _
  obtain ⟨_, rows, again, expanded, outlines, _⟩ := accepted_trial sha256 recipe accepted [] coordinate 0 instanceKey
  cases isTree.symm.trans again
  refine ⟨rows, expanded, ?_, batch_template sha256 recipe benchmark gaps lanes values tree isTree runs 0 _ rows expanded⟩
  rw [← outline_nodes, outlines, outlines_nodes, rows_nodes]

theorem single_compiles : ∃ table, compile sha256 recipe benchmark.template = .ok table ∧
    expandGraph sha256 (instanceContext recipe [] 0) (instanceKeyOf [] 0) recipe.workflow = .ok table.nodes ∧
    table.runnerCount = table.nodes.length := by
  obtain ⟨rows, expanded, _, fits⟩ :=
    single_expands sha256 recipe benchmark gaps lanes values tree accepted single isTree runs (instanceKeyOf [] 0)
  have keyed := expanded_instance_key sha256 recipe [] 0 _ rows expanded
  have entries : compiledInstances recipe = [([], 0)] := by
    rw [compiledInstances, single.coordinates, single.trials]
    rfl
  have here : compileInstance sha256 recipe benchmark.template ([], 0) = .ok (⟨instanceKeyOf [] 0, [], 0⟩, rows) :=
    (bind_ok _ _ _).mpr ⟨rows, expanded, (bind_ok _ _ _).mpr ⟨(), fits, rfl⟩⟩
  have mapped : (compiledInstances recipe).mapM (compileInstance sha256 recipe benchmark.template) =
      .ok [(⟨instanceKeyOf [] 0, [], 0⟩, rows)] := by
    rw [entries, List.mapM_cons, here]
    rfl
  have unique : ([(⟨instanceKeyOf [] 0, [], 0⟩ : CompiledInstanceRow)].map CompiledInstanceRow.instanceKey).Nodup :=
    List.nodup_singleton _
  have known : ∀ row ∈ rows,
      row.instanceKey ∈ [(⟨instanceKeyOf [] 0, [], 0⟩ : CompiledInstanceRow)].map CompiledInstanceRow.instanceKey := by
    intro row member
    rw [keyed row member]
    exact List.mem_singleton_self _
  refine ⟨⟨[⟨instanceKeyOf [] 0, [], 0⟩], rows, unique, known⟩, ?_, expanded, ?_⟩
  · refine (bind_ok _ _ _).mpr ⟨(), accepted_graph sha256 recipe accepted, (bind_ok _ _ _).mpr ⟨_, mapped, ?_⟩⟩
    simp only [List.map_cons, List.map_nil, List.flatMap_cons, List.flatMap_nil, List.append_nil]
    rw [CompilationTable.build, dif_pos unique, dif_pos known]
  · have all : rows.filter (fun row => row.instanceKey = instanceKeyOf [] 0) = rows :=
      List.filter_eq_self.mpr fun row member => decide_eq_true (keyed row member)
    simp [CompilationTable.runnerCount, CompilationTable.nodesFor, parallelRequestGroups, all]

theorem single_estimated (busy : gaps ≠ []) (requestsPerActor : Nat) (positive : 1 ≤ requestsPerActor) :
    ∃ estimated, estimate sha256 recipe benchmark requestsPerActor = .ok estimated ∧ estimated.runners = tree.nodes.length ∧
      estimated.requests = tree.nodes.length * plannedWorkerCount benchmark ∧ estimated.peakRunners = lanes ∧
      estimated.peakRequests = lanes * batchConcurrency benchmark := by
  obtain ⟨rows, expanded, named, fits⟩ :=
    single_expands sha256 recipe benchmark gaps lanes values tree accepted single isTree runs s!"estimate-{0}"
  have batch := batch_rows sha256 recipe gaps lanes values tree isTree runs 0 _ rows expanded
  have peak : ∀ (weigh : CompiledNodeRow → Nat) (load : Nat), (∀ row ∈ rows, weigh row = load) →
      rootsPeak sha256 [] (rows.map fun row => (row.nodeId, weigh row)) recipe = .ok (lanes * load) := by
    intro weigh load loads
    rw [roots_peak sha256 [] _ recipe tree isTree, waves_peak lanes values gaps tree runs busy _ load]
    intro u held
    apply weight_constant
    · intro entry member
      obtain ⟨row, inRows, rfl⟩ := List.mem_map.mp member
      exact loads row inRows
    · rw [← named] at held
      rw [Dict.keys, List.map_map]
      exact held
  have planned : rows.map (fun row => plannedWorkers benchmark row.executionKind) =
      rows.map fun _ => plannedWorkerCount benchmark := by
    apply List.map_congr_left
    intro row member
    rw [plannedWorkers, if_pos (batch row member).1]
  have size : rows.length = tree.nodes.length := by
    rw [← named, List.length_map]
  obtain ⟨totals, counted, runners, requests, peakRunners, peakRequests⟩ : ∃ totals,
      estimateCoordinate sha256 recipe benchmark ⟨0, 0, 0, 0, 0, 0, 0⟩ ([], 0) = .ok totals ∧
        totals.runnerCount = tree.nodes.length ∧ totals.requestCount = tree.nodes.length * plannedWorkerCount benchmark ∧
        totals.peakRunners = lanes ∧ totals.peakRequests = lanes * batchConcurrency benchmark := by
    have one := peak (fun _ => 1) 1 fun _ _ => rfl
    have workers := peak (fun row => nodeConcurrency benchmark row.executionKind) (batchConcurrency benchmark) fun row member => by
      rw [nodeConcurrency, if_pos (batch row member).1]
    refine ⟨_, (bind_ok _ _ _).mpr ⟨rows, expanded, (bind_ok _ _ _).mpr ⟨(), fits, (bind_ok _ _ _).mpr ⟨_, one,
      (bind_ok _ _ _).mpr ⟨_, workers, rfl⟩⟩⟩⟩, ?_, ?_, ?_, ?_⟩
    · simp only [single.trials, parallelRequestGroups, List.length_map, size, Nat.zero_add, Nat.mul_one]
    · simp only [single.trials, planned, List.map_const', List.sum_replicate_nat, size, Nat.zero_add, Nat.mul_one]
    · simp only [single.trials, Nat.zero_add, Nat.mul_one]
    · simp only [single.trials, Nat.zero_add, Nat.mul_one]
  have total : estimateTotals sha256 recipe benchmark = .ok totals := by
    refine (bind_ok _ _ _).mpr ⟨(), accepted_graph sha256 recipe accepted, ?_⟩
    rw [single.coordinates]
    exact (fold_ok _ _ _ _ _).mpr ⟨totals, counted, rfl⟩
  rw [estimate, if_neg (Nat.not_lt.mpr positive)]
  exact ⟨_, (bind_ok _ _ _).mpr ⟨totals, total, rfl⟩, runners, requests, peakRunners, peakRequests⟩

end Single

structure CohortTable (sha256 : Sha256) (recipe : TaskRecipe) (benchmark : BenchmarkDocument) (gaps : List Rat) (lanes : Nat)
    (values : List Nat) (table : CompilationTable) : Prop where
  compiled : compile sha256 recipe benchmark.template = .ok table
  waves : ∃ waves, CompiledWaves gaps values table.nodes waves
  size : table.nodes.length = values.length * gaps.length
  runners : table.runnerCount = table.nodes.length
  workers : ∀ node ∈ table.nodes, plannedWorkers benchmark node.executionKind = plannedWorkerCount benchmark
  estimated : ∀ requestsPerActor, 1 ≤ requestsPerActor →
    ∃ estimated, estimate sha256 recipe benchmark requestsPerActor = .ok estimated ∧
      estimated.runners = table.nodes.length ∧ estimated.requests = table.nodes.length * plannedWorkerCount benchmark ∧
      estimated.peakRunners = lanes ∧ estimated.peakRequests = lanes * batchConcurrency benchmark

theorem cohort_compiles (sha256 : Sha256) (recipe : TaskRecipe) (benchmark : BenchmarkDocument) (gaps : List Rat) (lanes : Nat)
    (values : List Nat) (accepted : validateRecipe sha256 recipe = .ok ()) (single : SingleInstance recipe)
    (nonneg : ∀ gap ∈ gaps, 0 ≤ gap) (busy : gaps ≠ [])
    (runs : ∀ tree, workflowTree sha256 recipe [] = .ok tree → CohortWaves gaps lanes values tree) :
    ∃ table, CohortTable sha256 recipe benchmark gaps lanes values table := by
  have coordinate : [] ∈ matrixCoordinates recipe := by
    rw [single.coordinates]
    exact List.mem_singleton_self _
  obtain ⟨tree, _, isTree, _⟩ := accepted_trial sha256 recipe accepted [] coordinate 0 ""
  have waves := runs tree isTree
  obtain ⟨table, compiled, expanded, runners⟩ :=
    single_compiles sha256 recipe benchmark gaps lanes values tree accepted single isTree waves
  have size : table.nodes.length = tree.nodes.length := by
    obtain ⟨rows, again, named, _⟩ :=
      single_expands sha256 recipe benchmark gaps lanes values tree accepted single isTree waves (instanceKeyOf [] 0)
    cases expanded.symm.trans again
    rw [← named, List.length_map]
  refine ⟨table, compiled, waves_compiled sha256 recipe [] 0 _ lanes values gaps nonneg tree isTree waves _ expanded,
    size.trans (waves_size lanes values gaps tree waves), runners, fun node member => ?_, fun requestsPerActor positive => ?_⟩
  · rw [plannedWorkers, if_pos (batch_rows sha256 recipe gaps lanes values tree isTree waves 0 _ _ expanded node member).1]
  · rw [size]
    exact single_estimated sha256 recipe benchmark gaps lanes values tree accepted single isTree waves busy requestsPerActor positive

end LlmperfOrchestrator.Compiler
