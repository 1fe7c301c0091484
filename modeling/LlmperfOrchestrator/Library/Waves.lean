import LlmperfOrchestrator.Library.Antichains
import LlmperfOrchestrator.Library.Delays

set_option autoImplicit false

namespace LlmperfOrchestrator.SeriesParallel

variable {Id Delay Data : Type}

theorem blocks_of_image {Item Part View : Type} (view : Item → View) (image : Part → List View) (items : List Item)
    (parts : List Part) (cut : items.map view = parts.flatMap image) :
    ∃ blocks : List (List Item), blocks.flatten = items ∧ blocks.length = parts.length ∧
      ∀ (index : Nat) (block : List Item), blocks[index]? = some block →
        ∃ part, parts[index]? = some part ∧ block.map view = image part := by
  induction parts generalizing items with
  | nil => exact ⟨[], (List.map_eq_nil_iff.mp cut).symm, rfl, fun index block read => (by cases read)⟩
  | cons part rest ih =>
      rw [List.flatMap_cons] at cut
      obtain ⟨early, late, rfl, first, second⟩ := List.map_eq_append_iff.mp cut
      obtain ⟨blocks, whole, count, each⟩ := ih late second
      refine ⟨early :: blocks, by rw [List.flatten_cons, whole], congrArg Nat.succ count, fun index block read => ?_⟩
      cases index with
      | zero =>
          cases read
          exact ⟨part, rfl, first⟩
      | succ index => exact each index block read

section Offsets
variable [AddCommMonoid Delay] [LinearOrder Delay]

theorem latest_attained (offsets : Id → Delay) (names : List Id) (busy : names ≠ []) :
    ∃ name ∈ names, latest offsets names = offsets name := by
  cases read : (names.map offsets).max? with
  | none =>
      rw [List.max?_eq_none_iff, List.map_eq_nil_iff] at read
      exact absurd read busy
  | some top =>
      obtain ⟨name, member, same⟩ := List.mem_map.mp (List.max?_eq_some_iff.mp read).1
      exact ⟨name, member, by rw [latest, read, same]; rfl⟩

theorem latest_constant (offsets : Id → Delay) (names : List Id) (value : Delay) (busy : names ≠ [])
    (same : ∀ name ∈ names, offsets name = value) : latest offsets names = value := by
  obtain ⟨name, member, attained⟩ := latest_attained offsets names busy
  rw [attained, same name member]

theorem latest_members (offsets : Id → Delay) (names others : List Id) (same : ∀ name, name ∈ names ↔ name ∈ others) :
    latest offsets names = latest offsets others := by
  by_cases busy : names = []
  · have idle : others = [] := List.eq_nil_iff_forall_not_mem.mpr fun name held => by
      rw [← same, busy] at held
      cases held
    rw [busy, idle]
  · obtain ⟨name, member, attained⟩ := latest_attained offsets names busy
    obtain ⟨other, there, reached⟩ := latest_attained offsets others (List.ne_nil_of_mem ((same name).mp member))
    apply le_antisymm
    · rw [attained]
      exact latest_ge offsets others name ((same name).mp member)
    · rw [reached]
      exact latest_ge offsets names other ((same other).mpr there)

end Offsets

-- All jobs of the term are due together, `gap` after what the term is entered
-- with: the first jobs of each series carry the gap, the others come without a delay.
inductive Even [AddCommMonoid Delay] : Delay → Term Id Delay Data → Prop where
  | leaf (row : Row Id Delay Data) (free : row.dependencies = []) : Even row.after (.leaf row)
  | last (gap : Delay) (first : Term Id Delay Data) (even : Even gap first) : Even gap (.serial first .empty)
  | next (gap : Delay) (first rest : Term Id Delay Data) (even : Even gap first) (later : Even 0 rest) :
      Even gap (.serial first rest)
  | parallel (gap : Delay) (left right : Term Id Delay Data) (one : Even gap left) (other : Even gap right) :
      Even gap (.parallel left right)
  | delayed (delay gap : Delay) (body : Term Id Delay Data) (even : Even gap body) : Even (delay + gap) (.delayed delay body)

inductive Paced [AddCommMonoid Delay] : List (Delay × Term Id Delay Data) → Term Id Delay Data → Prop where
  | idle : Paced [] .empty
  | wave (gap : Delay) (term : Term Id Delay Data) (even : Even gap term) : Paced [(gap, term)] term
  | serial (early late : List (Delay × Term Id Delay Data)) (first rest : Term Id Delay Data) (one : Paced early first)
      (other : Paced late rest) : Paced (early ++ late) (.serial first rest)

section Shape
variable [AddCommMonoid Delay]

theorem even_nodes (gap : Delay) (term : Term Id Delay Data) (even : Even gap term) : term.nodes ≠ [] := by
  induction even with
  | leaf row free => exact List.cons_ne_nil _ _
  | last gap first even ih =>
      rw [nodes_serial]
      exact List.append_ne_nil_of_left_ne_nil ih _
  | next gap first rest even later ih _ =>
      rw [nodes_serial]
      exact List.append_ne_nil_of_left_ne_nil ih _
  | parallel gap left right one other ih _ =>
      rw [nodes_parallel]
      exact List.append_ne_nil_of_left_ne_nil ih _
  | delayed delay gap body even ih => exact ih

theorem even_exits (gap : Delay) (term : Term Id Delay Data) (even : Even gap term) (frontier : List Id) :
    term.exits frontier ≠ [] ∧ ∀ u ∈ term.exits frontier, u ∈ term.nodes := by
  induction even generalizing frontier with
  | leaf row free => exact ⟨List.cons_ne_nil _ _, fun u exit => exit⟩
  | last gap first even ih =>
      refine ⟨(ih frontier).1, fun u exit => ?_⟩
      rw [nodes_serial]
      exact List.mem_append_left _ ((ih frontier).2 u exit)
  | next gap first rest even later _ ih =>
      refine ⟨(ih _).1, fun u exit => ?_⟩
      rw [nodes_serial]
      exact List.mem_append_right _ ((ih _).2 u exit)
  | parallel gap left right one other leftIh rightIh =>
      refine ⟨List.append_ne_nil_of_left_ne_nil (leftIh frontier).1 _, fun u exit => ?_⟩
      rw [nodes_parallel]
      exact List.mem_append.mpr ((List.mem_append.mp exit).imp ((leftIh frontier).2 u) ((rightIh frontier).2 u))
  | delayed delay gap body even ih => exact ih frontier

theorem even_series (terms : List (Term Id Delay Data)) (busy : terms ≠ []) (even : ∀ term ∈ terms, Even (0 : Delay) term) :
    Even 0 (serialList terms) := by
  induction terms with
  | nil => exact absurd rfl busy
  | cons first rest ih =>
      have here := even first List.mem_cons_self
      cases rest with
      | nil => exact .last 0 first here
      | cons second others =>
          exact .next 0 first _ here (ih (List.cons_ne_nil _ _) fun term member => even term (List.mem_cons_of_mem _ member))

theorem even_branches (gap : Delay) (branch : Term Id Delay Data) (others : List (Term Id Delay Data))
    (even : ∀ term ∈ branch :: others, Even gap term) : Even gap (parallelList branch others) := by
  induction others generalizing branch with
  | nil => exact even branch List.mem_cons_self
  | cons next others ih =>
      exact .parallel gap branch _ (even branch List.mem_cons_self)
        (ih next fun term member => even term (List.mem_cons_of_mem _ member))

theorem even_delayed (delay : Delay) (body : Term Id Delay Data) (even : Even 0 body) : Even delay (.delayed delay body) := by
  have carried := Even.delayed delay 0 body even
  rwa [add_zero] at carried

theorem paced_leaves (waves : List (Delay × Term Id Delay Data)) (term : Term Id Delay Data) (paced : Paced waves term) :
    term.leaves = waves.flatMap fun wave => wave.2.leaves := by
  induction paced with
  | idle => rfl
  | wave gap term even => simp
  | serial early late first rest one other firstIh restIh =>
      rw [Term.leaves, firstIh, restIh, List.flatMap_append]

theorem wave_nodes (waves : List (Delay × Term Id Delay Data)) (term : Term Id Delay Data) (paced : Paced waves term)
    (wave : Delay × Term Id Delay Data) (member : wave ∈ waves) (u : Id) (held : u ∈ wave.2.nodes) : u ∈ term.nodes := by
  obtain ⟨leaf, there, rfl⟩ := List.mem_map.mp held
  apply List.mem_map_of_mem
  rw [paced_leaves waves term paced]
  exact List.mem_flatMap.mpr ⟨wave, member, there⟩

end Shape

section Peaks
variable {Weight : Type} [AddCommMonoid Weight] [LinearOrder Weight] [CanonicallyOrderedAdd Weight]

theorem constant_peak (peaks : List Weight) (load : Weight) (busy : peaks ≠ []) (same : ∀ peak ∈ peaks, peak = load) :
    peaks.foldr max 0 = load := by
  induction peaks with
  | nil => exact absurd rfl busy
  | cons first rest ih =>
      rw [List.foldr_cons, same first List.mem_cons_self]
      cases rest with
      | nil => exact max_eq_left zero_le
      | cons second others => rw [ih (List.cons_ne_nil _ _) fun peak member => same peak (List.mem_cons_of_mem _ member), max_self]

theorem series_peak (weight : Id → Weight) (load : Weight) (terms : List (Term Id Delay Data)) (busy : terms ≠ [])
    (each : ∀ term ∈ terms, term.peak weight = load) : (serialList terms).peak weight = load := by
  rw [serial_list_peak]
  apply constant_peak _ load fun empty => busy (List.map_eq_nil_iff.mp empty)
  intro peak member
  obtain ⟨term, inTerms, rfl⟩ := List.mem_map.mp member
  exact each term inTerms

theorem paced_peak [AddCommMonoid Delay] (weight : Id → Weight) (waves : List (Delay × Term Id Delay Data)) (term : Term Id Delay Data)
    (paced : Paced waves term) : term.peak weight = (waves.map fun wave => wave.2.peak weight).foldr max 0 := by
  induction paced with
  | idle => rfl
  | wave gap term even => exact (max_eq_left zero_le).symm
  | serial early late first rest one other firstIh restIh =>
      rw [Term.peak, firstIh, restIh, List.map_append, List.foldr_append]
      generalize (late.map fun wave => wave.2.peak weight).foldr max 0 = later
      induction early.map fun wave => wave.2.peak weight with
      | nil => exact max_eq_right zero_le
      | cons peak peaks ih => rw [List.foldr_cons, List.foldr_cons, max_assoc, ih]

end Peaks

section Plan
variable [DecidableEq Id] [AddCommMonoid Delay] [LinearOrder Delay]

theorem even_plan (gap : Delay) (term : Term Id Delay Data) (even : Even gap term) (offsets : Id → Delay)
    (frontier : List Id) (inherited : Delay) (unique : term.nodes.Nodup) (outside : ∀ u ∈ frontier, u ∉ term.nodes) (v : Id)
    (held : v ∈ term.nodes) : plan offsets (term.rows frontier inherited) v = latest offsets frontier + (inherited + gap) := by
  induction even generalizing offsets frontier inherited v with
  | leaf row free =>
      cases List.mem_singleton.mp held
      change Function.update offsets row.node _ row.node = _
      rw [Function.update_self, latest_members offsets _ frontier fun name => by rw [enter_dependencies, free]; simp]
      rfl
  | last gap first even ih =>
      rw [nodes_serial] at unique outside held
      change plan offsets (first.rows frontier inherited ++ []) v = _
      rw [List.append_nil]
      exact ih offsets frontier inherited (List.nodup_append'.mp unique).1
        (fun u entered here => outside u entered (List.mem_append_left _ here)) v (by simpa using held)
  | next gap first rest even later firstIh restIh =>
      rw [nodes_serial] at unique outside held
      obtain ⟨firstUnique, restUnique, separate⟩ := List.nodup_append'.mp unique
      have settled := firstIh offsets frontier inherited firstUnique fun u entered here =>
        outside u entered (List.mem_append_left _ here)
      obtain ⟨busy, inside⟩ := even_exits gap first even frontier
      change plan offsets (first.rows frontier inherited ++ rest.rows (first.exits frontier) 0) v = _
      rw [plan_append]
      rcases List.mem_append.mp held with early | late
      · rw [plan_outside _ _ v (by rw [rows_nodes]; exact fun here => separate early here)]
        exact settled v early
      · rw [restIh _ _ 0 restUnique (fun u exit here => separate (inside u exit) here) v late,
          latest_constant _ _ _ busy fun u exit => settled u (inside u exit), add_zero, add_zero]
  | parallel gap left right one other leftIh rightIh =>
      rw [nodes_parallel] at unique outside held
      obtain ⟨leftUnique, rightUnique, separate⟩ := List.nodup_append'.mp unique
      have apart : ∀ u ∈ frontier, u ∉ left.nodes := fun u entered here => outside u entered (List.mem_append_left _ here)
      change plan offsets (left.rows frontier inherited ++ right.rows frontier inherited) v = _
      rw [plan_append]
      rcases List.mem_append.mp held with inLeft | inRight
      · rw [plan_outside _ _ v (by rw [rows_nodes]; exact fun here => separate inLeft here)]
        exact leftIh offsets frontier inherited leftUnique apart v inLeft
      · rw [rightIh _ frontier inherited rightUnique (fun u entered here => outside u entered (List.mem_append_right _ here))
          v inRight]
        -- the left branch settles no job of the frontier
        rw [latest_congr _ offsets frontier fun u entered => plan_outside _ _ u (by rw [rows_nodes]; exact apart u entered)]
  | delayed delay gap body even ih =>
      change plan offsets (body.rows frontier (inherited + delay)) v = _
      rw [ih offsets frontier _ unique outside v held, add_assoc inherited]

theorem paced_plan (waves : List (Delay × Term Id Delay Data)) (term : Term Id Delay Data) (paced : Paced waves term)
    (offsets : Id → Delay) (frontier : List Id) (unique : term.nodes.Nodup) (outside : ∀ u ∈ frontier, u ∉ term.nodes) :
    (∀ index wave, waves[index]? = some wave → ∀ v ∈ wave.2.nodes, plan offsets (term.rows frontier 0) v =
      latest offsets frontier + ((waves.take (index + 1)).map Prod.fst).sum) ∧
    latest (plan offsets (term.rows frontier 0)) (term.exits frontier) =
      latest offsets frontier + (waves.map Prod.fst).sum := by
  induction paced generalizing offsets frontier with
  | idle => exact ⟨fun index wave read => (by cases read), (add_zero _).symm⟩
  | wave gap term even =>
      have due := even_plan gap term even offsets frontier 0 unique outside
      obtain ⟨busy, inside⟩ := even_exits gap term even frontier
      refine ⟨fun index wave read v held => ?_, ?_⟩
      · cases index with
        | zero =>
            cases Option.some.inj read
            rw [due v held]
            simp
        | succ index => cases read
      · rw [latest_constant _ _ _ busy fun u exit => due u (inside u exit)]
        simp
  | serial early late first rest one other firstIh restIh =>
      rw [nodes_serial] at unique outside
      obtain ⟨firstUnique, restUnique, separate⟩ := List.nodup_append'.mp unique
      obtain ⟨firstDue, firstExit⟩ := firstIh offsets frontier firstUnique fun u entered here =>
        outside u entered (List.mem_append_left _ here)
      have apart : ∀ u ∈ first.exits frontier, u ∉ rest.nodes := by
        intro u exit here
        rcases exits_known first frontier u exit with entered | inside
        · exact outside u entered (List.mem_append_right _ here)
        · exact separate inside here
      obtain ⟨restDue, restExit⟩ := restIh (plan offsets (first.rows frontier 0)) (first.exits frontier) restUnique apart
      change (∀ index wave, _ → ∀ v ∈ _, plan offsets (first.rows frontier 0 ++ rest.rows (first.exits frontier) 0) v = _) ∧
        latest (plan offsets (first.rows frontier 0 ++ rest.rows (first.exits frontier) 0)) (rest.exits (first.exits frontier)) = _
      rw [plan_append]
      refine ⟨fun index wave read v held => ?_, ?_⟩
      · by_cases before : index < early.length
        · rw [List.getElem?_append_left before] at read
          have inFirst := wave_nodes early first one wave (List.mem_of_getElem? read) v held
          rw [plan_outside _ _ v (by rw [rows_nodes]; exact fun here => separate inFirst here),
            List.take_append_of_le_length before]
          exact firstDue index wave read v held
        · have past := Nat.le_of_not_lt before
          rw [List.getElem?_append_right past] at read
          rw [restDue _ wave read v held, firstExit, List.take_append, List.take_of_length_le (Nat.le_succ_of_le past),
            List.map_append, List.sum_append, add_assoc, Nat.sub_add_comm past]
      · rw [restExit, firstExit, List.map_append, List.sum_append, add_assoc]

end Plan

section Execution
variable [DecidableEq Id] [AddCommMonoid Delay] [LinearOrder Delay]

def Honours (rows : List (Row Id Delay Data)) (start finish : Id → Delay) : Prop :=
  ∀ row ∈ rows, start row.node ≤ finish row.node ∧ ∀ u ∈ row.dependencies, finish u + row.after ≤ start row.node

omit [DecidableEq Id] in
theorem honours_append (early late : List (Row Id Delay Data)) (start finish : Id → Delay) :
    Honours (early ++ late) start finish ↔ Honours early start finish ∧ Honours late start finish := by
  simp only [Honours, List.mem_append]
  constructor
  · intro all
    exact ⟨fun row member => all row (.inl member), fun row member => all row (.inr member)⟩
  · rintro ⟨first, second⟩ row (member | member)
    · exact first row member
    · exact second row member

theorem honoured_runs (term : Term Id Delay Data) (frontier : List Id) (inherited : Delay) (start finish : Id → Delay)
    (honours : Honours (term.rows frontier inherited) start finish) (v : Id) (held : v ∈ term.nodes) : start v ≤ finish v := by
  obtain ⟨row, member, rfl⟩ := node_row term frontier inherited v held
  exact (honours row member).1

theorem even_execution (gap : Delay) (term : Term Id Delay Data) (even : Even gap term) (frontier : List Id) (inherited : Delay)
    (start finish : Id → Delay) (honours : Honours (term.rows frontier inherited) start finish) :
    (∀ u ∈ frontier, ∀ v ∈ term.nodes, finish u + (inherited + gap) ≤ start v) ∧
    ∀ u ∈ term.nodes, ∃ w ∈ term.exits frontier, finish u ≤ finish w := by
  induction even generalizing frontier inherited with
  | leaf row free =>
      refine ⟨fun u entered v held => ?_, fun u held => ⟨row.node, List.mem_singleton_self _, ?_⟩⟩
      · cases List.mem_singleton.mp held
        exact (honours _ (List.mem_singleton_self _)).2 u ((enter_dependencies row frontier inherited u).mpr (.inl entered))
      · cases List.mem_singleton.mp held
        exact le_rfl
  | last gap first even ih =>
      obtain ⟨waits, leaves⟩ := ih frontier inherited ((honours_append _ _ _ _).mp honours).1
      simp only [nodes_serial, nodes_empty, List.append_nil]
      exact ⟨waits, leaves⟩
  | next gap first rest even later firstIh restIh =>
      obtain ⟨ran, follows⟩ := (honours_append _ _ _ _).mp honours
      obtain ⟨firstWaits, firstLeaves⟩ := firstIh frontier inherited ran
      obtain ⟨restWaits, restLeaves⟩ := restIh (first.exits frontier) 0 follows
      obtain ⟨busy, inside⟩ := even_exits gap first even frontier
      -- what follows a job of the frontier between the two parts starts after it
      have onward : ∀ w ∈ first.exits frontier, ∀ v ∈ rest.nodes, finish w ≤ start v := by
        intro w exit v held
        simpa using restWaits w exit v held
      simp only [nodes_serial, List.mem_append]
      refine ⟨fun u entered v held => ?_, fun u held => ?_⟩
      · rcases held with early | late
        · exact firstWaits u entered v early
        · obtain ⟨w, exit⟩ := List.exists_mem_of_ne_nil _ busy
          have reached := firstWaits u entered w (inside w exit)
          exact reached.trans ((honoured_runs first _ _ start finish ran w (inside w exit)).trans (onward w exit v late))
      · rcases held with early | late
        · obtain ⟨w, exit, before⟩ := firstLeaves u early
          obtain ⟨x, there⟩ := List.exists_mem_of_ne_nil _ (even_nodes 0 rest later)
          obtain ⟨y, leaves, last⟩ := restLeaves x there
          refine ⟨y, leaves, before.trans ((onward w exit x there).trans ?_)⟩
          exact (honoured_runs rest _ _ start finish follows x there).trans last
        · exact restLeaves u late
  | parallel gap left right one other leftIh rightIh =>
      obtain ⟨ran, others⟩ := (honours_append _ _ _ _).mp honours
      obtain ⟨leftWaits, leftLeaves⟩ := leftIh frontier inherited ran
      obtain ⟨rightWaits, rightLeaves⟩ := rightIh frontier inherited others
      simp only [nodes_parallel, List.mem_append]
      refine ⟨fun u entered v held => held.elim (leftWaits u entered v) (rightWaits u entered v), fun u held => ?_⟩
      rcases held with inLeft | inRight
      · obtain ⟨w, exit, before⟩ := leftLeaves u inLeft
        exact ⟨w, List.mem_append_left _ exit, before⟩
      · obtain ⟨w, exit, before⟩ := rightLeaves u inRight
        exact ⟨w, List.mem_append_right _ exit, before⟩
  | delayed delay gap body even ih =>
      obtain ⟨waits, leaves⟩ := ih frontier (inherited + delay) honours
      refine ⟨fun u entered v held => ?_, leaves⟩
      rw [← add_assoc inherited]
      exact waits u entered v held

variable [IsOrderedAddMonoid Delay]

theorem paced_execution (waves : List (Delay × Term Id Delay Data)) (term : Term Id Delay Data) (paced : Paced waves term)
    (nonneg : ∀ wave ∈ waves, 0 ≤ wave.1) (frontier : List Id) (start finish : Id → Delay)
    (honours : Honours (term.rows frontier 0) start finish) :
    (∀ index wave, waves[index]? = some wave → ∀ v ∈ wave.2.nodes, ∀ u,
      (u ∈ frontier ∨ ∃ (before : Nat) (other : Delay × Term Id Delay Data), before < index ∧ waves[before]? = some other ∧
        u ∈ other.2.nodes) → finish u + wave.1 ≤ start v) ∧
    ∀ u, u ∈ frontier ∨ u ∈ term.nodes → ∃ w ∈ term.exits frontier, finish u ≤ finish w := by
  induction paced generalizing frontier with
  | idle =>
      refine ⟨fun index wave read => (by cases read), fun u known => ⟨u, ?_, le_rfl⟩⟩
      exact known.resolve_right fun absent => by cases absent
  | wave gap term even =>
      obtain ⟨waits, leaves⟩ := even_execution gap term even frontier 0 start finish honours
      rw [zero_add] at waits
      refine ⟨fun index wave read v held u known => ?_, fun u known => ?_⟩
      · cases index with
        | zero =>
            cases Option.some.inj read
            rcases known with entered | ⟨before, _, none, _⟩
            · exact waits u entered v held
            · cases none
        | succ index => cases read
      · rcases known with entered | held
        · obtain ⟨x, there⟩ := List.exists_mem_of_ne_nil _ (even_nodes gap term even)
          obtain ⟨w, exit, last⟩ := leaves x there
          have step := le_add_of_nonneg_right (a := finish u) (nonneg _ List.mem_cons_self)
          refine ⟨w, exit, step.trans ((waits u entered x there).trans ?_)⟩
          exact (honoured_runs term _ _ start finish honours x there).trans last
        · exact leaves u held
  | serial early late first rest one other firstIh restIh =>
      obtain ⟨ran, follows⟩ := (honours_append _ _ _ _).mp honours
      obtain ⟨firstWaits, firstLeaves⟩ := firstIh (fun wave member => nonneg wave (List.mem_append_left _ member)) frontier ran
      obtain ⟨restWaits, restLeaves⟩ :=
        restIh (fun wave member => nonneg wave (List.mem_append_right _ member)) (first.exits frontier) follows
      refine ⟨fun index wave read v held u known => ?_, fun u known => ?_⟩
      · by_cases before : index < early.length
        · rw [List.getElem?_append_left before] at read
          refine firstWaits index wave read v held u (known.imp_right ?_)
          rintro ⟨i, other, less, found, inOther⟩
          rw [List.getElem?_append_left (Nat.lt_trans less before)] at found
          exact ⟨i, other, less, found, inOther⟩
        · have past := Nat.le_of_not_lt before
          rw [List.getElem?_append_right past] at read
          -- the frontier between the parts stands for all that is before it
          have onward : u ∈ frontier ∨ u ∈ first.nodes → finish u + wave.1 ≤ start v := by
            intro known
            obtain ⟨w, exit, earlier⟩ := firstLeaves u known
            exact (add_le_add_left earlier wave.1).trans (restWaits _ wave read v held w (.inl exit))
          rcases known with entered | ⟨i, other, less, found, inOther⟩
          · exact onward (.inl entered)
          · by_cases inEarly : i < early.length
            · rw [List.getElem?_append_left inEarly] at found
              exact onward (.inr (wave_nodes early first one other (List.mem_of_getElem? found) u inOther))
            · have behind := Nat.le_of_not_lt inEarly
              rw [List.getElem?_append_right behind] at found
              exact restWaits _ wave read v held u (.inr ⟨i - early.length, other, by omega, found, inOther⟩)
      · rw [nodes_serial, List.mem_append] at known
        have through : u ∈ frontier ∨ u ∈ first.nodes → ∃ w ∈ rest.exits (first.exits frontier), finish u ≤ finish w := by
          intro known
          obtain ⟨w, exit, earlier⟩ := firstLeaves u known
          obtain ⟨x, leaves, later⟩ := restLeaves w (.inl exit)
          exact ⟨x, leaves, earlier.trans later⟩
        rcases known with entered | inFirst | inRest
        · exact through (.inl entered)
        · exact through (.inr inFirst)
        · exact restLeaves u (.inr inRest)

end Execution

end LlmperfOrchestrator.SeriesParallel
