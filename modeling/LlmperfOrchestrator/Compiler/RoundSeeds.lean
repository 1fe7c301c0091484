import LlmperfOrchestrator.Compiler.InstanceKeys
import LlmperfOrchestrator.Compiler.RoundPlacement

set_option autoImplicit false

namespace LlmperfOrchestrator.Compiler

open Tables Numerals

theorem name_split (name other : String) (rest after : List Char) (valid : identityName name = true)
    (alsoValid : identityName other = true) (same : (quoted name).toList ++ rest = (quoted other).toList ++ after) :
    name = other ∧ rest = after := by
  have letters : ∀ text : String, identityName text = true → ∀ c ∈ text.toList, identityChar c = true := by
    intro text named
    rw [identityName, Bool.and_eq_true, List.all_eq_true] at named
    exact named.2
  have text : ∀ text : String, (quoted text).toList = '"' :: (text.toList ++ ['"']) := by
    intro text
    rw [quoted, String.toList_append, String.toList_append]
    rfl
  rw [text, text, List.cons_append, List.cons_append, List.append_assoc, List.append_assoc] at same
  obtain ⟨names, tail⟩ := run_split identityChar name.toList other.toList _ _ (letters name valid) (letters other alsoValid)
    (by simp [identityChar]) (by simp [identityChar]) (List.cons.inj same).2
  exact ⟨String.toList_injective names, (List.cons.inj tail).2⟩

theorem field_text (field : String × Int) : (fieldText field).toList = (quoted field.1).toList ++ ':' :: (toString field.2).toList := by
  rw [fieldText, String.toList_append, String.toList_append, List.append_assoc]
  rfl

def trailingFields (fields : Dimensions) : List Char := fields.flatMap fun field => ',' :: (fieldText field).toList

theorem fields_text (field : String × Int) (fields : Dimensions) :
    ',' :: (",".intercalate ((field :: fields).map fieldText)).toList = trailingFields (field :: fields) := by
  induction fields generalizing field with
  | nil =>
      rw [List.map_cons, List.map_nil, String.intercalate_singleton]
      exact (List.append_nil _).symm
  | cons next others ih =>
      rw [List.map_cons, List.map_cons, String.intercalate_cons_cons, String.toList_append, String.toList_append, List.append_assoc,
        ← List.map_cons]
      change ',' :: ((fieldText field).toList ++ ',' :: (",".intercalate ((next :: others).map fieldText)).toList) = _
      rw [ih next]
      rfl

theorem trailing_closed (fields : Dimensions) (rest : List Char) : Closed (trailingFields fields ++ '\x7d' :: rest) := by
  cases fields with
  | nil => simp [Closed, trailingFields]
  | cons field others => simp [Closed, trailingFields]

theorem trailing_split (fields others : Dimensions) (rest after : List Char) (valid : ∀ field ∈ fields, identityName field.1 = true)
    (alsoValid : ∀ field ∈ others, identityName field.1 = true)
    (same : trailingFields fields ++ '\x7d' :: rest = trailingFields others ++ '\x7d' :: after) : fields = others ∧ rest = after := by
  induction fields generalizing others with
  | nil =>
      cases others with
      | nil => exact ⟨rfl, (List.cons.inj same).2⟩
      | cons other others => exact absurd (List.cons.inj same).1 (by decide)
  | cons field fields ih =>
      cases others with
      | nil => exact absurd (List.cons.inj same).1 (by decide)
      | cons other others =>
          change ',' :: ((fieldText field).toList ++ trailingFields fields) ++ '\x7d' :: rest =
            ',' :: ((fieldText other).toList ++ trailingFields others) ++ '\x7d' :: after at same
          rw [field_text, field_text] at same
          simp only [List.cons_append, List.append_assoc, List.cons.injEq, true_and] at same
          obtain ⟨names, values⟩ := name_split field.1 other.1 _ _ (valid field List.mem_cons_self)
            (alsoValid other List.mem_cons_self) same
          obtain ⟨numbers, tail⟩ := integer_split field.2 other.2 _ _ (trailing_closed fields rest) (trailing_closed others after)
            (List.cons.inj values).2
          obtain ⟨rfl, ends⟩ := ih others (fun entry member => valid entry (List.mem_cons_of_mem field member))
            (fun entry member => alsoValid entry (List.mem_cons_of_mem other member)) tail
          exact ⟨by rw [Prod.ext names numbers], ends⟩

structure ValidIdentity (name : String) (coordinates : Dimensions) : Prop where
  named : identityName name = true
  fields : ∀ field ∈ coordinates, identityName field.1 = true
  present : coordinates ≠ []

theorem identity_text (name : String) (coordinates : Dimensions) (present : coordinates ≠ []) :
    ∃ rest, (groupIdentity name coordinates).toList = '[' :: ((quoted name).toList ++ ',' :: '\x7b' :: rest) ∧
      ',' :: rest = trailingFields coordinates ++ '\x7d' :: [']'] := by
  cases coordinates with
  | nil => exact absurd rfl present
  | cons field fields =>
      refine ⟨(",".intercalate ((field :: fields).map fieldText)).toList ++ '\x7d' :: [']'], ?_, ?_⟩
      · rw [groupIdentity]
        simp only [String.toList_append, List.append_assoc]
        rfl
      · rw [← fields_text, List.cons_append]

theorem group_identity_injective (name other : String) (coordinates others : Dimensions) (valid : ValidIdentity name coordinates)
    (alsoValid : ValidIdentity other others) (same : groupIdentity name coordinates = groupIdentity other others) :
    name = other ∧ coordinates = others := by
  obtain ⟨rest, text, fields⟩ := identity_text name coordinates valid.present
  obtain ⟨after, alsoText, alsoFields⟩ := identity_text other others alsoValid.present
  have letters := congrArg String.toList same
  rw [text, alsoText] at letters
  obtain ⟨names, tail⟩ := name_split name other _ _ valid.named alsoValid.named (List.cons.inj letters).2
  have objects := (List.cons.inj (List.cons.inj tail).2).2
  rw [← objects, fields] at alsoFields
  exact ⟨names, (trailing_split coordinates others _ _ valid.fields alsoValid.fields alsoFields).1⟩

theorem identity_not_number (family : Nat) (name : String) (coordinates : Dimensions) (present : coordinates ≠ []) :
    groupIdentity name coordinates ≠ toString family := by
  intro same
  obtain ⟨rest, text, _⟩ := identity_text name coordinates present
  have letters := congrArg String.toList same
  rw [text] at letters
  have digit := natural_digits family '[' (by rw [show family.repr.toList = _ from letters.symm]; exact List.mem_cons_self)
  exact absurd digit (by decide)

theorem colon_text (head tail : String) (number : Nat) :
    s!"{head}:{number}:{tail}".toList = head.toList ++ ':' :: (number.repr.toList ++ ':' :: tail.toList) := by
  change (head ++ ":" ++ toString number ++ ":" ++ tail).toList = _
  simp only [String.toList_append, List.append_assoc]
  rfl

theorem colons_split (tail after : String) (number other : Nat)
    (same : ':' :: (number.repr.toList ++ ':' :: tail.toList) = ':' :: (other.repr.toList ++ ':' :: after.toList)) :
    number = other ∧ tail = after := by
  obtain ⟨numbers, ends⟩ := natural_split number other _ _ (by simp [Closed]) (by simp [Closed]) (List.cons.inj same).2
  exact ⟨numbers, String.toList_injective (List.cons.inj ends).2⟩

theorem round_material_injective (seed stage other family another : Nat)
    (same : s!"{seed}:{stage}:{family}" = s!"{seed}:{other}:{another}") : stage = other ∧ family = another := by
  have letters := congrArg String.toList same
  change (s!"{toString seed}:{stage}:{toString family}").toList = (s!"{toString seed}:{other}:{toString another}").toList at letters
  rw [colon_text, colon_text] at letters
  obtain ⟨stages, families⟩ := colons_split _ _ stage other (List.append_cancel_left letters)
  exact ⟨stages, natural_injective family another (congrArg String.toList families)⟩

theorem suffix_material_injective (family another cycle other : Nat) (phase later : String)
    (same : s!"round-family-suffix-v1:{family}:{cycle}:{phase}" = s!"round-family-suffix-v1:{another}:{other}:{later}") :
    family = another ∧ cycle = other ∧ phase = later := by
  have letters := (colon_text s!"round-family-suffix-v1:{family}" phase cycle).symm.trans
    ((congrArg String.toList same).trans (colon_text s!"round-family-suffix-v1:{another}" later other))
  change ("round-family-suffix-v1:" ++ toString family).toList ++ _ = ("round-family-suffix-v1:" ++ toString another).toList ++ _ at letters
  rw [String.toList_append, String.toList_append, List.append_assoc, List.append_assoc] at letters
  obtain ⟨families, tail⟩ := natural_split family another _ _ (by simp [Closed]) (by simp [Closed]) (List.append_cancel_left letters)
  exact ⟨families, colons_split phase later cycle other tail⟩

section Seeds

variable {Content : Type} (sha256 : Sha256) (rounds : RunnerRounds)

def familyKey (family : Nat) (template : RunnerDocument Content) : (String × Dimensions) ⊕ Nat :=
  match template.group with
  | some group => .inl (group.name, group.dimensions)
  | none => .inr family

def familyOf (runner : RunnerDocument Content) : (String × Dimensions) ⊕ Nat :=
  familyKey (runner.round.elim 0 RunnerRound.family) runner

def ValidTemplate (template : RunnerDocument Content) : Prop :=
  ∀ group, template.group = some group → ValidIdentity group.name group.dimensions

theorem family_key_cases (family other : Nat) (template another : RunnerDocument Content)
    (same : familyKey family template = familyKey other another) :
    (∃ group later, template.group = some group ∧ another.group = some later ∧ group.name = later.name ∧
      group.dimensions = later.dimensions) ∨ (template.group = none ∧ another.group = none ∧ family = other) := by
  rw [familyKey, familyKey] at same
  cases grouped : template.group with
  | some group =>
      cases alsoGrouped : another.group with
      | some later =>
          rw [grouped, alsoGrouped] at same
          obtain ⟨names, coordinates⟩ := Prod.mk.inj (Sum.inl.inj same)
          exact .inl ⟨group, later, rfl, rfl, names, coordinates⟩
      | none =>
          rw [grouped, alsoGrouped] at same
          cases same
  | none =>
      cases alsoGrouped : another.group with
      | some later =>
          rw [grouped, alsoGrouped] at same
          cases same
      | none =>
          rw [grouped, alsoGrouped] at same
          exact .inr ⟨rfl, rfl, Sum.inr.inj same⟩

theorem family_identity_of_key (family other : Nat) (template another : RunnerDocument Content)
    (same : familyKey family template = familyKey other another) : familyIdentity family template = familyIdentity other another := by
  rw [familyIdentity, familyIdentity]
  rcases family_key_cases family other template another same with
    ⟨group, later, grouped, alsoGrouped, names, coordinates⟩ | ⟨ungrouped, alsoUngrouped, rfl⟩
  · rw [grouped, alsoGrouped]
    simp only [names, coordinates]
  · rw [ungrouped, alsoUngrouped]

theorem family_key_of_identity (family other : Nat) (template another : RunnerDocument Content) (valid : ValidTemplate template)
    (alsoValid : ValidTemplate another) (same : familyIdentity family template = familyIdentity other another) :
    familyKey family template = familyKey other another := by
  rw [familyIdentity, familyIdentity] at same
  rw [familyKey, familyKey]
  cases grouped : template.group with
  | some group =>
      cases alsoGrouped : another.group with
      | some later =>
          rw [grouped, alsoGrouped] at same
          obtain ⟨names, coordinates⟩ := group_identity_injective _ _ _ _ (valid group grouped) (alsoValid later alsoGrouped) same
          simp only [names, coordinates]
      | none =>
          rw [grouped, alsoGrouped] at same
          exact absurd same (identity_not_number other _ _ (valid group grouped).present)
  | none =>
      cases alsoGrouped : another.group with
      | some later =>
          rw [grouped, alsoGrouped] at same
          exact absurd same.symm (identity_not_number family _ _ (alsoValid later alsoGrouped).present)
      | none =>
          rw [grouped, alsoGrouped] at same
          simp only [natural_injective family other (congrArg String.toList same)]

theorem prefix_material_injective (family other : Nat) (template another : RunnerDocument Content) (valid : ValidTemplate template)
    (alsoValid : ValidTemplate another) (same : prefixMaterial rounds family template = prefixMaterial rounds other another) :
    familyKey family template = familyKey other another := by
  apply family_key_of_identity family other template another valid alsoValid
  exact (String.append_right_inj s!"round-family-prefix-v1:{rounds.seed}:").mp same

def Apart (first second : RunnerDocument Content) : Prop :=
  ∀ group other, first.group = some group → second.group = some other → group.name = other.name →
    group.dimensions = other.dimensions → assignedPhase rounds first ≠ assignedPhase rounds second

namespace Position

def materials (position : Position Content) : List String :=
  match rounds.prefixSeedScope with
  | .family => [prefixMaterial rounds position.family position.template,
      datasetMaterial sha256 rounds position.cycle (position.stage rounds) position.phase position.family position.template]
  | .round => [datasetMaterial sha256 rounds position.cycle (position.stage rounds) position.phase position.family position.template]

end Position

variable (runners : List (RunnerDocument Content))

def Distinguishes : Prop :=
  ∀ first ∈ (positions rounds runners).flatMap (Position.materials sha256 rounds),
    ∀ second ∈ (positions rounds runners).flatMap (Position.materials sha256 rounds),
      seedOf sha256 first = seedOf sha256 second → first = second

section Inside

variable (apart : runners.Pairwise (Apart rounds))

theorem apart_symmetric (first second : RunnerDocument Content) (apart : Apart rounds first second) : Apart rounds second first := by
  intro group other grouped alsoGrouped names coordinates same
  exact apart other group alsoGrouped grouped names.symm coordinates.symm same.symm

theorem inside_member (position : Position Content) (inside : position.Inside rounds runners) : position.template ∈ runners :=
  List.mem_of_getElem? inside.read

include apart in
theorem family_of_key (first second : Position Content) (inFirst : first.Inside rounds runners) (inSecond : second.Inside rounds runners)
    (phases : first.phase = second.phase)
    (keys : familyKey first.family first.template = familyKey second.family second.template) : first.family = second.family := by
  rcases family_key_cases first.family second.family first.template second.template keys with
    ⟨group, other, grouped, alsoGrouped, names, coordinates⟩ | ⟨_, _, families⟩
  · obtain ⟨low, read⟩ := List.getElem?_eq_some_iff.mp inFirst.read
    obtain ⟨alsoLow, alsoRead⟩ := List.getElem?_eq_some_iff.mp inSecond.read
    have assigned : assignedPhase rounds first.template = assignedPhase rounds second.template := by
      rw [inFirst.assigned, inSecond.assigned, phases]
    have ordered := List.pairwise_iff_getElem.mp apart
    have counted := inFirst.counted
    have alsoCounted := inSecond.counted
    rcases Nat.lt_trichotomy (first.family - 1) (second.family - 1) with less | same | more
    · have differ := ordered _ _ low alsoLow less
      rw [read, alsoRead] at differ
      exact absurd assigned (differ group other grouped alsoGrouped names coordinates)
    · omega
    · have differ := apart_symmetric rounds _ _ (ordered _ _ alsoLow low more)
      rw [read, alsoRead] at differ
      exact absurd assigned (differ group other grouped alsoGrouped names coordinates)
  · exact families

end Inside

section Distinct

variable (distinguishes : Distinguishes sha256 rounds runners)

theorem dataset_hashed (position : Position Content) :
    datasetMaterial sha256 rounds position.cycle (position.stage rounds) position.phase position.family position.template ∈
      position.materials sha256 rounds := by
  rw [Position.materials]
  cases rounds.prefixSeedScope with
  | family => exact List.mem_cons_of_mem _ List.mem_cons_self
  | round => exact List.mem_cons_self

theorem prefix_hashed (scope : rounds.prefixSeedScope = .family) (position : Position Content) :
    prefixMaterial rounds position.family position.template ∈ position.materials sha256 rounds := by
  rw [Position.materials, scope]
  exact List.mem_cons_self

theorem runner_family (position : Position Content) :
    familyOf (position.runner sha256 rounds) = familyKey position.family position.template := rfl

theorem runner_shared_seed (scope : rounds.prefixSeedScope = .family) (position : Position Content) :
    (position.runner sha256 rounds).sharedPrefixSeed = some (familyPrefix sha256 rounds position.family position.template) := by
  change (if rounds.prefixSeedScope = .family then _ else _) = _
  rw [if_pos scope]

theorem family_prefixes (scope : rounds.prefixSeedScope = .family) :
    ∀ first ∈ expandRounds sha256 rounds runners, ∀ second ∈ expandRounds sha256 rounds runners,
      familyOf first = familyOf second → first.sharedPrefixSeed = second.sharedPrefixSeed := by
  rw [rounds_expanded]
  intro runner member other alsoMember same
  obtain ⟨first, _, rfl⟩ := List.mem_map.mp member
  obtain ⟨second, _, rfl⟩ := List.mem_map.mp alsoMember
  rw [runner_family, runner_family] at same
  have identities := family_identity_of_key first.family second.family first.template second.template same
  have materials : prefixMaterial rounds first.family first.template = prefixMaterial rounds second.family second.template :=
    congrArg (fun identity => s!"round-family-prefix-v1:{rounds.seed}:{identity}") identities
  rw [runner_shared_seed sha256 rounds scope, runner_shared_seed sha256 rounds scope]
  exact congrArg (fun material => some (seedOf sha256 material)) materials

include distinguishes

theorem hashed_same (first second : Position Content) (inFirst : first.Inside rounds runners) (inSecond : second.Inside rounds runners)
    (text other : String) (hashed : text ∈ first.materials sha256 rounds) (alsoHashed : other ∈ second.materials sha256 rounds)
    (same : seedOf sha256 text = seedOf sha256 other) : text = other := by
  have used := List.mem_flatMap.mpr ⟨first, (positions_mem rounds runners first).mpr inFirst, hashed⟩
  have alsoUsed := List.mem_flatMap.mpr ⟨second, (positions_mem rounds runners second).mpr inSecond, alsoHashed⟩
  exact distinguishes text used other alsoUsed same

theorem prefix_key (valid : ∀ template ∈ runners, ValidTemplate template) (scope : rounds.prefixSeedScope = .family)
    (first second : Position Content) (inFirst : first.Inside rounds runners) (inSecond : second.Inside rounds runners)
    (same : familyPrefix sha256 rounds first.family first.template = familyPrefix sha256 rounds second.family second.template) :
    familyKey first.family first.template = familyKey second.family second.template := by
  apply prefix_material_injective rounds
  · exact valid first.template (inside_member rounds runners first inFirst)
  · exact valid second.template (inside_member rounds runners second inSecond)
  · exact hashed_same sha256 rounds runners distinguishes first second inFirst inSecond _ _
      (prefix_hashed sha256 rounds scope first) (prefix_hashed sha256 rounds scope second) same

theorem shared_prefixes (valid : ∀ template ∈ runners, ValidTemplate template) (scope : rounds.prefixSeedScope = .family) :
    ∀ first ∈ expandRounds sha256 rounds runners, ∀ second ∈ expandRounds sha256 rounds runners,
      (first.sharedPrefixSeed = second.sharedPrefixSeed ↔ familyOf first = familyOf second) := by
  intro runner member other alsoMember
  refine ⟨?_, family_prefixes sha256 rounds runners scope runner member other alsoMember⟩
  rw [rounds_expanded] at member alsoMember
  obtain ⟨first, inFirst, rfl⟩ := List.mem_map.mp member
  obtain ⟨second, inSecond, rfl⟩ := List.mem_map.mp alsoMember
  rw [runner_shared_seed sha256 rounds scope, runner_shared_seed sha256 rounds scope, Option.some.injEq]
  intro same
  exact prefix_key sha256 rounds runners distinguishes valid scope first second
    ((positions_mem rounds runners first).mp inFirst) ((positions_mem rounds runners second).mp inSecond) same

theorem dataset_seeds_apart (unique : rounds.phases.Nodup) (apart : runners.Pairwise (Apart rounds))
    (valid : ∀ template ∈ runners, ValidTemplate template) (first second : Position Content)
    (inFirst : first.Inside rounds runners) (inSecond : second.Inside rounds runners) (before : Position.Before rounds first second) :
    (first.runner sha256 rounds).datasetSeed ≠ (second.runner sha256 rounds).datasetSeed := by
  intro same
  have seeds := Int.ofNat.inj (Option.some.inj same)
  have texts := hashed_same sha256 rounds runners distinguishes first second inFirst inSecond _ _
    (dataset_hashed sha256 rounds first) (dataset_hashed sha256 rounds second) seeds
  cases scope : rounds.prefixSeedScope with
  | round =>
      simp only [datasetMaterial, scope] at texts
      obtain ⟨stages, families⟩ := round_material_injective rounds.seed _ _ _ _ texts
      rw [Position.Before] at before
      omega
  | family =>
      simp only [datasetMaterial, scope] at texts
      obtain ⟨prefixes, cycles, phases⟩ := suffix_material_injective _ _ _ _ _ _ texts
      have keys := prefix_key sha256 rounds runners distinguishes valid scope first second inFirst inSecond prefixes
      have families := family_of_key rounds runners apart first second inFirst inSecond phases keys
      have positions := inside_unique rounds runners unique first second inFirst inSecond cycles families
      rw [positions] at before
      exact Position.before_irreflexive rounds second before

theorem dataset_seeds_unique (unique : rounds.phases.Nodup) (apart : runners.Pairwise (Apart rounds))
    (valid : ∀ template ∈ runners, ValidTemplate template) :
    ((expandRounds sha256 rounds runners).map RunnerDocument.datasetSeed).Nodup := by
  rw [rounds_expanded, List.map_map, List.Nodup, List.pairwise_map]
  apply (positions_ordered rounds runners).imp_of_mem
  intro first second inFirst inSecond before
  exact dataset_seeds_apart sha256 rounds runners distinguishes unique apart valid first second
    ((positions_mem rounds runners first).mp inFirst) ((positions_mem rounds runners second).mp inSecond) before

end Distinct

end Seeds

end LlmperfOrchestrator.Compiler
