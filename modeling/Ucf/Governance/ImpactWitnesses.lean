import Ucf.Governance.ImpactGraph

/-! The witnesses of an impact graph: exactly the least chains of references that lead from a
coordinate to a changed one. -/

namespace Ucf

/-! ### Keys -/

theorem validateResolution_eq_ok {ownerKind : EntityKind} {resolvedActionId : Option Identifier} :
    validateResolution ownerKind resolvedActionId = .ok () ↔
      (ownerKind = .step ↔ resolvedActionId ≠ none) := by
  simp only [validateResolution, bind_eq_ok, require_eq_ok, exists_const]
  tauto

theorem Direction.value_injective : Function.Injective Direction.value := by
  intro a b h
  cases a <;> cases b <;> first | rfl | (exact absurd h (by decide))

theorem GraphSide.value_injective : Function.Injective GraphSide.value := by
  intro a b h
  cases a <;> cases b <;> first | rfl | (exact absurd h (by decide))

/-- The key of a port tells its resolved action: only a port of a step has one. -/
theorem PortCoordinate.eq_of_key {a b : PortCoordinate}
    (h : (ImpactCoordinate.port a).key = (ImpactCoordinate.port b).key) : a = b := by
  simp only [ImpactCoordinate.key, List.cons.injEq, true_and, and_true] at h
  obtain ⟨hkind, hid, hdirection, hname, hresolved⟩ := h
  have hkind := EntityKind.value_injective hkind
  refine PortCoordinate.ext hkind (Subtype.ext hid) (Direction.value_injective hdirection)
    (Subtype.ext hname) ?_
  have ha := validateResolution_eq_ok.mp a.valid
  have hb := validateResolution_eq_ok.mp b.valid
  rw [hkind, hb] at ha
  match hfirst : a.resolvedActionId, hsecond : b.resolvedActionId with
  | none, none => rfl
  | some id, some id' =>
    rw [hfirst, hsecond] at hresolved
    rw [Subtype.ext (show id.val = id'.val from hresolved)]
  | none, some _ =>
    rw [hfirst, hsecond] at ha
    simp at ha
  | some _, none =>
    rw [hfirst, hsecond] at ha
    simp at ha

theorem ImpactCoordinate.key_injective : Function.Injective ImpactCoordinate.key := by
  intro a b h
  cases a with
  | entity targetKind targetId =>
    cases b with
    | entity targetKind' targetId' =>
      simp only [key, List.cons.injEq, true_and, and_true] at h
      rw [EntityKind.value_injective h.1, Subtype.ext h.2]
    | port => simp [key] at h
    | document => simp [key] at h
  | port a =>
    cases b with
    | entity => simp [key] at h
    | port b => rw [PortCoordinate.eq_of_key h]
    | document => simp [key] at h
  | document documentId =>
    cases b with
    | entity => simp [key] at h
    | port => simp [key] at h
    | document documentId' =>
      simp only [key, List.cons.injEq, true_and, and_true] at h
      rw [Subtype.ext h]

/-! ### Chains -/

section Chains

/-- Edges of one side that follow each other backwards: the first one ends at a seed, every further
one at the source of the one before it, and the last one starts at the coordinate. -/
inductive Chain (edges : List ImpactEdge) (side : GraphSide) (seeds : List ImpactCoordinate) :
    List Nat → ImpactCoordinate → Prop
  | seed {c : ImpactCoordinate} : c ∈ seeds → Chain edges side seeds [] c
  | step {path : List Nat} {index : Nat} {edge : ImpactEdge} :
      Chain edges side seeds path edge.target → edges[index]? = some edge → edge.side = side →
      Chain edges side seeds (path ++ [index]) edge.source

/-- No chain to the coordinate is shorter, and no other one of its length comes before it. -/
def IsLeastChain (edges : List ImpactEdge) (side : GraphSide) (seeds : List ImpactCoordinate)
    (path : List Nat) (c : ImpactCoordinate) : Prop :=
  Chain edges side seeds path c ∧ ∀ path', Chain edges side seeds path' c →
    path.length < path'.length ∨ path.length = path'.length ∧ path ≤ path'

variable {edges : List ImpactEdge} {side : GraphSide} {seeds : List ImpactCoordinate}

theorem mem_next {index : Nat} {node node' : List String} :
    (index, node') ∈ (reverseGraph edges side).next node ↔ ∃ edge, edges[index]? = some edge ∧
      edge.side = side ∧ edge.target.key = node ∧ edge.source.key = node' := by
  simp only [reverseGraph, List.mem_map, List.mem_filter, Prod.exists, Prod.mk.injEq,
    List.mem_zipIdx_iff_getElem?, decide_eq_true_eq]
  constructor
  · rintro ⟨edge, index', ⟨hget, hside, htarget⟩, rfl, hsource⟩
    exact ⟨edge, hget, hside, htarget, hsource⟩
  · rintro ⟨edge, hget, hside, htarget, hsource⟩
    exact ⟨edge, index, ⟨hget, hside, htarget⟩, rfl, hsource⟩

/-- The keys of the seeds, in order. -/
def seedKeys (seeds : List ImpactCoordinate) : List (List String) :=
  sortedSet (seeds.map ImpactCoordinate.key)

theorem Chain.leads {path : List Nat} {c : ImpactCoordinate} (h : Chain edges side seeds path c) :
    (reverseGraph edges side).Leads (seedKeys seeds) path c.key := by
  induction h with
  | seed hseed => exact .seed (mem_sortedSet.mpr (List.mem_map_of_mem hseed))
  | @step path index edge _ hget hside ih =>
    have hedge : (index, edge.source.key) ∈ (reverseGraph edges side).next edge.target.key :=
      mem_next.mpr ⟨edge, hget, hside, rfl, rfl⟩
    exact .step ih hedge

theorem exists_chain {path : List Nat} {node : List String}
    (h : (reverseGraph edges side).Leads (seedKeys seeds) path node) :
    ∃ c : ImpactCoordinate, c.key = node ∧ Chain edges side seeds path c := by
  induction h with
  | seed hseed =>
    obtain ⟨c, hc, rfl⟩ := List.mem_map.mp (mem_sortedSet.mp hseed)
    exact ⟨c, rfl, .seed hc⟩
  | @step path node edge' _ hedge ih =>
    obtain ⟨c, rfl, hchain⟩ := ih
    obtain ⟨index, node'⟩ := edge'
    obtain ⟨edge, hget, hside, htarget, rfl⟩ := mem_next.mp hedge
    have hc : edge.target = c := ImpactCoordinate.key_injective htarget
    subst hc
    exact ⟨edge.source, rfl, .step hchain hget hside⟩

theorem leads_iff {path : List Nat} {c : ImpactCoordinate} :
    (reverseGraph edges side).Leads (seedKeys seeds) path c.key ↔
      Chain edges side seeds path c := by
  refine ⟨fun h => ?_, Chain.leads⟩
  obtain ⟨c', hkey, hchain⟩ := exists_chain h
  rwa [ImpactCoordinate.key_injective hkey] at hchain

theorem isLeast_iff {path : List Nat} {c : ImpactCoordinate} :
    (reverseGraph edges side).IsLeast (seedKeys seeds) path c.key ↔
      IsLeastChain edges side seeds path c := by
  simp only [LabelledGraph.IsLeast, IsLeastChain, leads_iff, LabelledGraph.rank,
    Prod.Lex.toLex_le_toLex]

/-- A chain that is not empty ends at the source of an edge. -/
theorem Chain.mem_coordinates {path : List Nat} {c : ImpactCoordinate}
    (h : Chain edges side seeds path c) (hne : path ≠ []) :
    c ∈ edges.flatMap fun edge => [edge.source, edge.target] := by
  cases h with
  | seed => exact absurd rfl hne
  | @step path index edge _ hget _ =>
    exact List.mem_flatMap.mpr ⟨edge, List.mem_of_getElem? hget, by simp⟩

theorem get?_coordinatesByKey {c : ImpactCoordinate}
    (h : c ∈ edges.flatMap fun edge => [edge.source, edge.target]) :
    (coordinatesByKey edges).get? c.key = some c := by
  obtain ⟨c', hc'⟩ : ∃ c', (Dict.index ImpactCoordinate.key _).get? c.key = some c' :=
    Dict.get?_index_some ⟨c, h, rfl⟩
  rw [coordinatesByKey, hc', ImpactCoordinate.key_injective (Dict.mem_of_get?_index hc').2]

theorem IsLeastChain.unique {path path' : List Nat} {c : ImpactCoordinate}
    (h : IsLeastChain edges side seeds path c) (h' : IsLeastChain edges side seeds path' c) :
    path = path' :=
  (isLeast_iff.mpr h).unique (isLeast_iff.mpr h')

/-- A coordinate that a chain leads to has a least chain, because the search finds it. -/
theorem Chain.exists_least {path : List Nat} {c : ImpactCoordinate}
    (h : Chain edges side seeds path c) : ∃ path', IsLeastChain edges side seeds path' c := by
  have hcomplete := LabelledGraph.complete_leastPaths (reverseGraph edges side) (seedKeys seeds)
  obtain ⟨item, hitem, hkey⟩ := List.mem_map.mp (hcomplete.reached path c.key h.leads)
  have hleast := hcomplete.least item hitem
  rw [hkey] at hleast
  exact ⟨item.1, isLeast_iff.mp hleast⟩

/-- The least chain of a seed is empty. -/
theorem IsLeastChain.eq_nil {path : List Nat} {c : ImpactCoordinate}
    (h : IsLeastChain edges side seeds path c) (hc : c ∈ seeds) : path = [] := by
  rcases h.2 [] (.seed hc) with hlt | ⟨hlength, -⟩
  · simp at hlt
  · exact List.length_eq_zero_iff.mp hlength

/-- What a least chain goes through has the first part of it as its least chain. -/
theorem IsLeastChain.init {path : List Nat} {index : Nat} {edge : ImpactEdge}
    (h : IsLeastChain edges side seeds (path ++ [index]) edge.source)
    (hchain : Chain edges side seeds path edge.target) (hget : edges[index]? = some edge)
    (hside : edge.side = side) : IsLeastChain edges side seeds path edge.target := by
  obtain ⟨path', hleast⟩ := hchain.exists_least
  have hle : LabelledGraph.rank path' ≤ LabelledGraph.rank path :=
    (isLeast_iff.mpr hleast).2 path hchain.leads
  have hle' : LabelledGraph.rank (path ++ [index]) ≤ LabelledGraph.rank (path' ++ [index]) :=
    (isLeast_iff.mpr h).2 _ (Chain.step hleast.1 hget hside).leads
  have heq := LabelledGraph.rank_injective
    (le_antisymm (LabelledGraph.rank_append_le hle [index]) hle')
  rwa [← List.append_cancel_right heq]

end Chains

/-! ### The witnesses of one side -/

section Sides

variable {edges : List ImpactEdge} {side : GraphSide} {seeds : List ImpactCoordinate}
  {subject : ImpactSubject}

/-- The witness explains how its coordinate is reached from the seeds of a subject. -/
structure ImpactWitness.Explains (edges : List ImpactEdge) (side : GraphSide)
    (seeds : List ImpactCoordinate) (subject : ImpactSubject) (witness : ImpactWitness) :
    Prop where
  subject_eq : witness.directSubject = subject
  side_eq : witness.side = side
  least : IsLeastChain edges side seeds witness.edgeIndexes witness.affected
  precision_eq : witness.precision = pathPrecision edges witness.edgeIndexes

theorem ImpactWitness.Explains.unique {w w' : ImpactWitness}
    (h : w.Explains edges side seeds subject) (h' : w'.Explains edges side seeds subject)
    (heq : w.affected = w'.affected) : w = w' := by
  have hleast := h.least
  rw [heq] at hleast
  have hpath := hleast.unique h'.least
  obtain ⟨subject₁, side₁, affected, precision, path, hne⟩ := w
  obtain ⟨subject₂, side₂, affected', precision', path', hne'⟩ := w'
  have hprecision := h.precision_eq.trans ((congrArg _ hpath).trans h'.precision_eq.symm)
  have hsubject := h.subject_eq.trans h'.subject_eq.symm
  have hside := h.side_eq.trans h'.side_eq.symm
  cases hpath
  cases heq
  cases hprecision
  cases hsubject
  cases hside
  rfl

/-- What is taken from the queue for a coordinate becomes its witness, unless it is a seed. -/
theorem witnessOf_eq_some {path : List Nat} {c : ImpactCoordinate} (hne : path ≠ [])
    (h : IsLeastChain edges side seeds path c) : witnessOf edges side subject (path, c.key) =
      .ok (some ⟨subject, side, c, pathPrecision edges path, path, hne⟩) := by
  rw [witnessOf, dif_pos hne, get?_coordinatesByKey (h.1.mem_coordinates hne)]
  rfl

theorem witnessOf_nil {node : List String} :
    witnessOf edges side subject ([], node) = .ok none := by
  rw [witnessOf, dif_neg (by simp)]

variable {base final : BehaviorIR} {entry : BehaviorDeltaEntry} {finding : ImpactFinding}

/-- Every item of the search belongs to a coordinate. -/
theorem exists_coordinate {path : List Nat} {node : List String}
    (h : (path, node) ∈ (reverseGraph edges side).leastPaths (seedKeys seeds)) :
    ∃ c : ImpactCoordinate, c.key = node ∧ IsLeastChain edges side seeds path c := by
  have hleast := LabelledGraph.mem_leastPaths.mp h
  obtain ⟨c, rfl, -⟩ := exists_chain hleast.1
  exact ⟨c, rfl, isLeast_iff.mp hleast⟩

theorem exists_witnessOf {item : List Nat × List String}
    (h : item ∈ (reverseGraph edges side).leastPaths (seedKeys seeds)) :
    ∃ w, witnessOf edges side subject item = .ok w := by
  obtain ⟨path, node⟩ := item
  obtain ⟨c, rfl, hleast⟩ := exists_coordinate h
  by_cases hne : path = []
  · rw [hne]
    exact ⟨_, witnessOf_nil⟩
  · exact ⟨_, witnessOf_eq_some hne hleast⟩

theorem witnessOf_eq_ok {item : List Nat × List String} {w : ImpactWitness}
    (h : item ∈ (reverseGraph edges side).leastPaths (seedKeys seeds))
    (hw : witnessOf edges side subject item = .ok (some w)) :
    w.Explains edges side seeds subject ∧ w.affected.key = item.2 := by
  obtain ⟨path, node⟩ := item
  obtain ⟨c, rfl, hleast⟩ := exists_coordinate h
  by_cases hne : path = []
  · rw [hne, witnessOf_nil] at hw
    cases hw
  · rw [witnessOf_eq_some hne hleast, Except.ok.injEq, Option.some.injEq] at hw
    subst hw
    exact ⟨⟨rfl, rfl, hleast, rfl⟩, rfl⟩

/-- The witnesses of a side are those that explain a coordinate, one for each. -/
theorem exists_sideWitnesses (hseeds : entrySeeds base final edges side entry = .ok seeds) :
    ∃ witnesses, sideWitnesses base final edges entry finding side = .ok witnesses ∧
      (∀ w : ImpactWitness, w ∈ witnesses ↔ w.Explains edges side seeds finding.subject) ∧
      witnesses.Pairwise fun w w' => w.affected ≠ w'.affected := by
  have hcomplete := LabelledGraph.complete_leastPaths (reverseGraph edges side) (seedKeys seeds)
  obtain ⟨options, hoptions⟩ : ∃ options, collect (witnessOf edges side finding.subject)
      ((reverseGraph edges side).leastPaths (seedKeys seeds)) = .ok options :=
    exists_collect_ok fun item hitem => exists_witnessOf hitem
  refine ⟨options.filterMap id, ?_, fun w => ?_, ?_⟩
  · rw [sideWitnesses, hseeds, ok_bind]
    show (collect (witnessOf edges side finding.subject)
      ((reverseGraph edges side).leastPaths (seedKeys seeds)) >>= _) = _
    rw [hoptions]
    rfl
  · rw [List.mem_filterMap]
    constructor
    · rintro ⟨option, hoption, hsome⟩
      obtain ⟨item, hitem, hw⟩ := (mem_of_collect hoptions option).mp hoption
      rw [show option = some w from hsome] at hw
      exact (witnessOf_eq_ok hitem hw).1
    · intro h
      have hitem := LabelledGraph.mem_leastPaths.mpr (isLeast_iff.mpr h.least)
      have hw := @witnessOf_eq_some edges side seeds finding.subject _ _ w.nonempty h.least
      refine ⟨_, (mem_of_collect hoptions _).mpr ⟨_, hitem, hw⟩, ?_⟩
      rw [id, Option.some.injEq]
      exact ImpactWitness.Explains.unique ⟨rfl, rfl, h.least, rfl⟩ h rfl
  · rw [List.pairwise_filterMap]
    refine pairwise_of_collect hoptions (r := fun item item' => item.2 ≠ item'.2 ∧
      item ∈ (reverseGraph edges side).leastPaths (seedKeys seeds) ∧
      item' ∈ (reverseGraph edges side).leastPaths (seedKeys seeds)) ?_ ?_
    · have hkeys := List.pairwise_map.mp hcomplete.nodup
      exact hkeys.imp_of_mem fun hmem hmem' hne => ⟨hne, hmem, hmem'⟩
    · rintro item item' option option' ⟨hne, hmem, hmem'⟩ hw hw' w hsome w' hsome' heq
      rw [show option = some w from hsome] at hw
      rw [show option' = some w' from hsome'] at hw'
      refine hne ?_
      rw [← (witnessOf_eq_ok hmem hw).2, ← (witnessOf_eq_ok hmem' hw').2, heq]

end Sides

/-! ### The validator -/

section Validator

variable {edges : List ImpactEdge} {side : GraphSide} {seeds : List ImpactCoordinate}

theorem edgesAt_concat {path : List Nat} {index : Nat} {edge : ImpactEdge}
    (h : edges[index]? = some edge) :
    edgesAt edges (path ++ [index]) = edgesAt edges path ++ [edge] := by
  simp [edgesAt, List.filterMap_append, h]

theorem followPath_concat {position : Nat} {edge : ImpactEdge} {path : List ImpactEdge}
    {start current : ImpactCoordinate} {seen seen' : List (List String)}
    (h : followPath position start seen path = .ok (current, seen'))
    (htarget : edge.target = current) (hsource : edge.source.key ∉ seen') :
    followPath position start seen (path ++ [edge]) =
      .ok (edge.source, edge.source.key :: seen') := by
  induction path generalizing start seen with
  | nil =>
    rw [followPath, Except.ok.injEq, Prod.mk.injEq] at h
    obtain ⟨rfl, rfl⟩ := h
    rw [List.nil_append, followPath, require, if_pos htarget, ok_bind, require, if_pos hsource,
      ok_bind, followPath]
  | cons first path ih =>
    simp only [followPath, bind_eq_ok, require_eq_ok, exists_const] at h
    obtain ⟨hfirst, hnew, hrest⟩ := h
    rw [List.cons_append, followPath, require, if_pos hfirst, ok_bind, require, if_pos hnew,
      ok_bind, ih hrest]

/-- What following a least chain meets: it starts at a seed, every coordinate on it has a least chain
that is no longer, and so none comes twice. -/
structure Followed (edges : List ImpactEdge) (side : GraphSide) (seeds : List ImpactCoordinate)
    (position : Nat) (path : List Nat) (c start : ImpactCoordinate) (seen : List (List String)) :
    Prop where
  start_mem : start ∈ seeds
  head : ∀ first rest, edgesAt edges path = first :: rest → first.target = start
  follow : followPath position start [start.key] (edgesAt edges path) = .ok (c, seen)
  short : ∀ k ∈ seen, ∃ path' c', ImpactCoordinate.key c' = k ∧ path'.length ≤ path.length ∧
    IsLeastChain edges side seeds path' c'
  indexes : ∀ index ∈ path, ∃ edge, edges[index]? = some edge ∧ edge.side = side ∧
    edge.source.key ∈ seen
  nodup : path.Nodup

theorem Followed.step {position index : Nat} {path : List Nat} {edge : ImpactEdge}
    {start : ImpactCoordinate} {seen : List (List String)}
    (h : Followed edges side seeds position path edge.target start seen)
    (hget : edges[index]? = some edge) (hside : edge.side = side)
    (hleast : IsLeastChain edges side seeds (path ++ [index]) edge.source) :
    Followed edges side seeds position (path ++ [index]) edge.source start
      (edge.source.key :: seen) := by
  have hnew : edge.source.key ∉ seen := by
    intro hmem
    obtain ⟨path', c', hkey, hlength, hleast'⟩ := h.short _ hmem
    rw [ImpactCoordinate.key_injective hkey] at hleast'
    rw [hleast'.unique hleast, List.length_append, List.length_singleton] at hlength
    omega
  have hedges : edgesAt edges (path ++ [index]) = edgesAt edges path ++ [edge] :=
    edgesAt_concat hget
  refine ⟨h.start_mem, fun first rest hcons => ?_, ?_, fun k hk => ?_, fun i hi => ?_, ?_⟩
  · rw [hedges] at hcons
    cases hpath : edgesAt edges path with
    | nil =>
      rw [hpath, List.nil_append, List.cons.injEq] at hcons
      have hfollow := h.follow
      rw [hpath, followPath, Except.ok.injEq, Prod.mk.injEq] at hfollow
      rw [← hcons.1, hfollow.1]
    | cons first' rest' =>
      rw [hpath, List.cons_append, List.cons.injEq] at hcons
      rw [← hcons.1]
      exact h.head _ _ hpath
  · rw [hedges]
    exact followPath_concat h.follow rfl hnew
  · rcases List.mem_cons.mp hk with rfl | hk
    · exact ⟨_, _, rfl, le_rfl, hleast⟩
    · obtain ⟨path', c', hkey, hlength, hleast'⟩ := h.short k hk
      refine ⟨path', c', hkey, ?_, hleast'⟩
      rw [List.length_append]
      omega
  · rcases List.mem_append.mp hi with hi | hi
    · obtain ⟨edge', hget', hside', hmem⟩ := h.indexes i hi
      exact ⟨edge', hget', hside', List.mem_cons_of_mem _ hmem⟩
    · rw [List.mem_singleton] at hi
      rw [hi]
      exact ⟨edge, hget, hside, List.mem_cons_self⟩
  · rw [List.nodup_append]
    refine ⟨h.nodup, List.nodup_singleton _, fun i hi j hj heq => ?_⟩
    rw [List.mem_singleton] at hj
    obtain ⟨edge', hget', -, hmem⟩ := h.indexes i hi
    rw [heq, hj, hget, Option.some.injEq] at hget'
    exact hnew (hget' ▸ hmem)

/-- A least chain can be followed; by induction on the chain. -/
theorem IsLeastChain.exists_followed {path : List Nat} {c : ImpactCoordinate} (position : Nat)
    (h : IsLeastChain edges side seeds path c) :
    ∃ start seen, Followed edges side seeds position path c start seen := by
  have hchain := h.1
  induction hchain with
  | @seed c hc =>
    refine ⟨c, [c.key], hc, by simp [edgesAt], rfl, fun k hk => ?_, by simp, List.nodup_nil⟩
    rw [List.mem_singleton] at hk
    exact ⟨[], c, hk.symm, le_rfl, h⟩
  | @step path index edge hchain hget hside ih =>
    obtain ⟨start, seen, hfollowed⟩ := ih (h.init hchain hget hside)
    exact ⟨start, _, hfollowed.step hget hside h⟩

theorem mem_edgesAt {path : List Nat} {edge : ImpactEdge} :
    edge ∈ edgesAt edges path ↔ ∃ index ∈ path, edges[index]? = some edge := List.mem_filterMap

/-- A report with a witness that explains its coordinate is accepted. -/
theorem ImpactWitness.Explains.validateWitness_eq_ok {subject : ImpactSubject}
    {w : ImpactWitness} (h : w.Explains edges side seeds subject) (position : Nat)
    (hbinds : ∀ seed ∈ seeds, coordinateBindsSubject seed subject = true) :
    validateWitness edges position w = .ok () := by
  obtain ⟨start, seen, hfollowed⟩ := h.least.exists_followed position
  have hrange : ∀ index ∈ w.edgeIndexes, index < edges.length := by
    intro index hindex
    obtain ⟨edge, hget, -⟩ := hfollowed.indexes index hindex
    exact (List.getElem?_eq_some_iff.mp hget).1
  have hsides : ∀ edge ∈ edgesAt edges w.edgeIndexes, edge.side = w.side := by
    intro edge hedge
    obtain ⟨index, hindex, hget⟩ := mem_edgesAt.mp hedge
    obtain ⟨edge', hget', hside, -⟩ := hfollowed.indexes index hindex
    rw [hget, Option.some.injEq] at hget'
    rw [hget', hside, h.side_eq]
  have hprecision := h.precision_eq
  rw [pathPrecision] at hprecision
  rw [validateWitness, require, if_pos hfollowed.nodup, ok_bind, require, if_pos hrange, ok_bind]
  simp only []
  rw [require, if_pos hsides, ok_bind]
  cases hpath : edgesAt edges w.edgeIndexes with
  | nil =>
    obtain ⟨index, hindex⟩ := List.exists_mem_of_ne_nil _ w.nonempty
    obtain ⟨edge, hget, -⟩ := hfollowed.indexes index hindex
    have hmem := mem_edgesAt.mpr ⟨index, hindex, hget⟩
    rw [hpath] at hmem
    cases hmem
  | cons first rest =>
    have hfirst := hfollowed.head first rest hpath
    have hfollow := hfollowed.follow
    rw [hpath] at hfollow hprecision
    have hstart := hbinds start hfollowed.start_mem
    rw [← h.subject_eq] at hstart
    simp only [hfirst, require, hstart, if_true, ok_bind, hfollow, hprecision]

end Validator

/-! ### Seeds -/

section Seeds

variable {base final : BehaviorIR} {edges : List ImpactEdge} {side : GraphSide}
  {entry : BehaviorDeltaEntry} {seeds : List ImpactCoordinate}

theorem PortCoordinate.make_eq_ok {ownerKind : EntityKind} {ownerId name : Identifier}
    {direction : Direction} {resolvedActionId : Option Identifier} {port : PortCoordinate} :
    PortCoordinate.make ownerKind ownerId direction name resolvedActionId = .ok port ↔
      port.ownerKind = ownerKind ∧ port.ownerId = ownerId ∧ port.direction = direction ∧
        port.name = name ∧ port.resolvedActionId = resolvedActionId := by
  constructor
  · intro h
    rw [make] at h
    split at h
    · split at h
      · cases h
        exact ⟨rfl, rfl, rfl, rfl, rfl⟩
      · cases h
    · cases h
  · rintro ⟨rfl, rfl, rfl, rfl, rfl⟩
    rw [make, dif_pos port.owner]
    split
    · rfl
    · rename_i h
      rw [port.valid] at h
      cases h

theorem exists_port {ownerKind : EntityKind} (ownerId name : Identifier) (direction : Direction)
    {resolvedActionId : Option Identifier}
    (howner : ownerKind ∈ [EntityKind.action, .useCase, .step])
    (hresolved : ownerKind = .step ↔ resolvedActionId ≠ none) :
    ∃ port, PortCoordinate.make ownerKind ownerId direction name resolvedActionId = .ok port :=
  ⟨⟨ownerKind, ownerId, direction, name, resolvedActionId, howner,
    validateResolution_eq_ok.mpr hresolved⟩,
    PortCoordinate.make_eq_ok.mpr ⟨rfl, rfl, rfl, rfl, rfl⟩⟩

theorem findEntity_eq_ok {document : BehaviorIR} {kind : EntityKind} {id : Identifier}
    {entity : Entity} (h : findEntity document kind id = .ok entity) :
    entity ∈ document.entities ∧ entity.kind = kind ∧ entity.id = id := by
  rw [findEntity, orRaise_eq_ok] at h
  have hmatch := List.find?_some h
  exact ⟨List.mem_of_find?_eq_some h, of_decide_eq_true hmatch⟩

theorem exists_findEntity {document : BehaviorIR} {key : EntityRef}
    (h : document.definition? key ≠ none) :
    ∃ entity, findEntity document key.targetKind key.targetId = .ok entity := by
  obtain ⟨definition, hdefinition⟩ := Option.ne_none_iff_exists'.mp h
  obtain ⟨hmem, rfl⟩ := BehaviorIR.ref_of_definition? hdefinition
  rw [BehaviorIR.canonical, mem_sortedBy, List.mem_map] at hmem
  obtain ⟨entity, hentity, rfl⟩ := hmem
  cases hfind : document.entities.find? fun other =>
      other.kind = entity.canonical.ref.targetKind ∧ other.id = entity.canonical.ref.targetId with
  | some found => exact ⟨found, by rw [findEntity, hfind]; rfl⟩
  | none =>
    have hnone := List.find?_eq_none.mp hfind entity hentity
    rw [Entity.ref, Entity.kind_canonical, Entity.id_canonical] at hnone
    simp at hnone

/-- The declared ports are ports of their owner. -/
theorem mem_declaredPorts {ownerKind : EntityKind} {ownerId : Identifier}
    {ports : List (Direction × List Port)} {coordinates : List ImpactCoordinate}
    (h : declaredPorts ownerKind ownerId ports = .ok coordinates) :
    ∀ c ∈ coordinates, ∃ port : PortCoordinate, c = .port port ∧ port.ownerKind = ownerKind ∧
      port.ownerId = ownerId := by
  intro c hc
  obtain ⟨⟨direction, name⟩, -, hmake⟩ := (mem_of_collect h c).mp hc
  obtain ⟨port, hport, rfl⟩ := map_eq_ok.mp hmake
  obtain ⟨hkind, hid, -⟩ := PortCoordinate.make_eq_ok.mp hport
  exact ⟨port, rfl, hkind, hid⟩

theorem exists_declaredPorts {ownerKind : EntityKind} (ownerId : Identifier)
    (ports : List (Direction × List Port)) (h : ownerKind = .action ∨ ownerKind = .useCase) :
    ∃ coordinates, declaredPorts ownerKind ownerId ports = .ok coordinates := by
  refine exists_collect_ok fun port _ => ?_
  obtain ⟨coordinate, hcoordinate⟩ := @exists_port ownerKind ownerId port.2 port.1 none
    (by rcases h with rfl | rfl <;> simp) (by rcases h with rfl | rfl <;> simp)
  exact ⟨.port coordinate, map_eq_ok.mpr ⟨coordinate, hcoordinate, rfl⟩⟩

theorem mem_selectedStepPorts {stepId : Identifier} {c : ImpactCoordinate}
    (h : c ∈ selectedStepPorts edges side stepId) :
    ∃ port : PortCoordinate, c = .port port ∧ port.ownerKind = .step ∧ port.ownerId = stepId := by
  rw [selectedStepPorts, List.mem_filter] at h
  obtain ⟨-, hmatch⟩ := h
  cases c with
  | port port => exact ⟨port, rfl, of_decide_eq_true hmatch⟩
  | entity => cases hmatch
  | document => cases hmatch

/-- The ports of a modified entity that are seeds belong to it. -/
theorem mem_modifiedPortSeeds {entry : ModifiedBehavior}
    (h : modifiedPortSeeds base final edges side entry = .ok seeds) :
    ∀ c ∈ seeds, ∃ port : PortCoordinate, c = .port port ∧
      port.ownerKind = entry.baseSubject.targetKind ∧ port.ownerId = entry.baseSubject.targetId := by
  simp only [modifiedPortSeeds, bind_eq_ok] at h
  obtain ⟨current, hcurrent, opposite, -, h⟩ := h
  obtain ⟨-, hkind, hid⟩ := findEntity_eq_ok hcurrent
  intro c hc
  split at h
  · obtain ⟨port, rfl, hport⟩ := mem_declaredPorts h c hc
    exact ⟨port, rfl, hport.1.trans hkind, hport.2.trans hid⟩
  · obtain ⟨port, rfl, hport⟩ := mem_declaredPorts h c hc
    exact ⟨port, rfl, hport.1.trans hkind, hport.2.trans hid⟩
  · cases h
  · cases h
  · rw [Except.ok.injEq] at h
    subst h
    split at hc
    · obtain ⟨port, rfl, hport⟩ := mem_selectedStepPorts hc
      exact ⟨port, rfl, hport.1.trans hkind, hport.2.trans hid⟩
    · cases hc
  · cases h
    cases hc

theorem mem_allPortSeeds {entity : Entity} (h : allPortSeeds edges side entity = .ok seeds) :
    ∀ c ∈ seeds, ∃ port : PortCoordinate, c = .port port ∧ port.ownerKind = entity.kind ∧
      port.ownerId = entity.id := by
  intro c hc
  cases entity with
  | action | useCase => exact mem_declaredPorts h c hc
  | step step =>
    rw [allPortSeeds, Except.ok.injEq] at h
    subst h
    exact mem_selectedStepPorts hc
  | binding | effect | observation | invariant | provenance | verificationEvidence
  | capabilityRequirement =>
    cases h
    cases hc

/-- The seeds of an entry bind the subject of its finding. -/
theorem coordinateBindsSubject_of_entrySeeds {subject : ImpactSubject}
    (h : entrySeeds base final edges side entry = .ok seeds)
    (hkind : subject.targetKind = (entrySubject entry).targetKind)
    (hid : subject.targetId = (entrySubject entry).targetId) :
    ∀ seed ∈ seeds, coordinateBindsSubject seed subject = true := by
  simp only [entrySeeds, bind_eq_ok, pure_eq_ok, Except.ok.injEq] at h
  obtain ⟨entity, hentity, ports, hports, rfl⟩ := h
  obtain ⟨-, hentityKind, hentityId⟩ := findEntity_eq_ok hentity
  refine List.forall_mem_cons.mpr ⟨?_, fun c hc => ?_⟩
  · exact decide_eq_true ⟨hentityKind.trans hkind.symm, hentityId.trans hid.symm⟩
  · obtain ⟨port, rfl, hport⟩ : ∃ port : PortCoordinate, c = .port port ∧
        port.ownerKind = (entrySubject entry).targetKind ∧
        port.ownerId = (entrySubject entry).targetId := by
      cases entry with
      | modified entry => exact mem_modifiedPortSeeds hports c hc
      | added entry | removed entry =>
        obtain ⟨port, rfl, hport⟩ := mem_allPortSeeds hports c hc
        exact ⟨port, rfl, hport.1.trans hentityKind, hport.2.trans hentityId⟩
    exact decide_eq_true ⟨hport.1.trans hkind.symm, hport.2.trans hid.symm⟩

theorem exists_allPortSeeds (edges : List ImpactEdge) (side : GraphSide) (entity : Entity) :
    ∃ seeds, allPortSeeds edges side entity = .ok seeds := by
  cases entity with
  | action e => exact exists_declaredPorts e.id _ (Or.inl rfl)
  | useCase e => exact exists_declaredPorts e.id _ (Or.inr rfl)
  | step e => exact ⟨_, rfl⟩
  | binding | effect | observation | invariant | provenance | verificationEvidence
  | capabilityRequirement => exact ⟨_, rfl⟩

theorem exists_modifiedPortSeeds {entry : ModifiedBehavior} {key : EntityRef}
    (hkey : (BehaviorDeltaEntry.modified entry).subjectKey = key)
    (hbase : base.definition? key ≠ none) (hfinal : final.definition? key ≠ none)
    (edges : List ImpactEdge) (side : GraphSide) :
    ∃ seeds, modifiedPortSeeds base final edges side entry = .ok seeds := by
  have hfound : ∀ side, ∃ entity, findEntity (sideDocument base final side)
      entry.baseSubject.targetKind entry.baseSubject.targetId = .ok entity := by
    intro side
    subst hkey
    cases side with
    | base => exact exists_findEntity hbase
    | final => exact exists_findEntity hfinal
  obtain ⟨current, hcurrent⟩ := hfound side
  obtain ⟨opposite, hopposite⟩ := hfound side.opposite
  have hkinds : current.kind = opposite.kind :=
    (findEntity_eq_ok hcurrent).2.1.trans (findEntity_eq_ok hopposite).2.1.symm
  simp only [modifiedPortSeeds, hcurrent, hopposite, ok_bind]
  cases current with
  | action e =>
    cases opposite with
    | action e' => exact exists_declaredPorts e.id _ (Or.inl rfl)
    | _ => cases hkinds
  | useCase e =>
    cases opposite with
    | useCase e' => exact exists_declaredPorts e.id _ (Or.inr rfl)
    | _ => cases hkinds
  | step e =>
    cases opposite with
    | step e' => exact ⟨_, rfl⟩
    | _ => cases hkinds
  | binding | effect | observation | invariant | provenance | verificationEvidence
  | capabilityRequirement => exact ⟨_, rfl⟩

end Seeds

/-! ### Edges -/

section Edges

variable {document : BehaviorIR}

/-- The edges of a port reference that names a port are built. -/
theorem exists_portEdge (h : document.WellFormed) (side : GraphSide) (source : ImpactCoordinate)
    (fieldPath : String) {ref : PortRef} {port : Port} (hport : PortAt document.entities ref port) :
    ∃ edges, portEdge side (Dict.index Entity.id document.entities) source fieldPath ref =
      .ok edges := by
  have hlookup : ∀ {target : Entity}, Resolves document.entities ref.owner target →
      (Dict.index Entity.id document.entities).get? ref.owner.targetId = some target :=
    fun howner => (Dict.get?_index h.ids_nodup).mpr ⟨howner.mem, howner.id_eq⟩
  cases hport with
  | @useCase u howner _ _ =>
    have hkind : ref.owner.targetKind = .useCase := howner.kind_eq.symm
    obtain ⟨c, hc⟩ := @exists_port ref.owner.targetKind ref.owner.targetId ref.name ref.direction
      none (by simp [hkind]) (by simp [hkind])
    have hkind' : c.ownerKind ≠ .step := by
      rw [(PortCoordinate.make_eq_ok.mp hc).1, hkind]
      decide
    rw [portEdge, portCoordinate, hlookup howner]
    simp only [orRaise_some, ok_bind, hc, if_pos hkind']
    exact ⟨_, rfl⟩
  | @step s a howner _ _ _ =>
    have hkind : ref.owner.targetKind = .step := howner.kind_eq.symm
    obtain ⟨c, hc⟩ := @exists_port ref.owner.targetKind ref.owner.targetId ref.name ref.direction
      (some s.action.targetId) (by simp [hkind]) (by simp [hkind])
    obtain ⟨hckind, -, -, -, hcaction⟩ := PortCoordinate.make_eq_ok.mp hc
    have hkind' : ¬c.ownerKind ≠ .step := by
      rw [hckind, hkind]
      decide
    obtain ⟨definition, hdefinition⟩ := @exists_port .action s.action.targetId c.name c.direction
      none (by simp) (by simp)
    rw [portEdge, portCoordinate, hlookup howner]
    simp only [orRaise_some, ok_bind, hc, if_neg hkind', hcaction, hdefinition]
    exact ⟨_, rfl⟩

theorem exists_fieldEdges (h : document.WellFormed) (side : GraphSide) {entity : Entity}
    (hentity : entity ∈ document.entities) :
    ∃ edges, fieldEdges side (Dict.index Entity.id document.entities) entity = .ok edges := by
  cases entity with
  | binding e =>
    obtain ⟨-, -, port, htarget, kind, hsource, -⟩ := (h.entities _ hentity).parts
    obtain ⟨edges, hedges⟩ := exists_portEdge h side
      (entityCoordinate (Entity.binding e).ref) "/target" htarget
    have hread : ∀ ref, e.source = .port ref → ∃ port, PortAt document.entities ref port := by
      intro ref heq
      rw [heq] at hsource
      cases hsource with
      | useCase _ _ hport => exact ⟨_, hport⟩
      | step _ _ hport => exact ⟨_, hport⟩
    simp only [fieldEdges, hedges, ok_bind]
    cases hcase : e.source with
    | value value => exact ⟨_, rfl⟩
    | port ref =>
      obtain ⟨port', hport'⟩ := hread ref hcase
      obtain ⟨edges', hedges'⟩ := exists_portEdge h side
        (entityCoordinate (Entity.binding e).ref) "/source" hport'
      simp only [hedges', ok_bind]
      exact ⟨_, rfl⟩
  | action | useCase | step | effect | observation | invariant | provenance
  | verificationEvidence | capabilityRequirement => exact ⟨_, rfl⟩

/-- The edges of a well-formed document are extracted. -/
theorem exists_extractEdges (h : document.WellFormed) (side : GraphSide) :
    ∃ edges, extractEdges side document = .ok edges := by
  have hall : ∀ entity ∈ sortedBy Entity.key document.entities, ∃ part,
      entityEdges side document (Dict.index Entity.id document.entities) entity = .ok part ∧
        True := by
    intro entity hentity
    obtain ⟨edges, hedges⟩ := exists_fieldEdges h side (mem_sortedBy.mp hentity)
    exact ⟨_, by rw [entityEdges, hedges]; rfl, trivial⟩
  obtain ⟨parts, hparts, -⟩ := exists_collect hall
  rw [extractEdges, hparts]
  exact ⟨_, rfl⟩

end Edges

/-! ### Reports -/

section Reports

variable {base final : BehaviorIR} {edges : List ImpactEdge}
  {entries : List BehaviorDeltaEntry} {findings : List ImpactFinding}
  {witnesses : List ImpactWitness}

theorem ImpactWitness.identity_eq {w w' : ImpactWitness} (h : w.identity = w'.identity) :
    w.side = w'.side ∧ w.directSubject.targetKind = w'.directSubject.targetKind ∧
      w.directSubject.targetId = w'.directSubject.targetId ∧ w.affected = w'.affected := by
  simp only [identity, toLex_inj, Prod.mk.injEq] at h
  obtain ⟨hside, -, hkind, hid, hkey⟩ := h
  exact ⟨GraphSide.value_injective hside, EntityKind.value_injective hkind, Subtype.ext hid,
    ImpactCoordinate.key_injective hkey⟩

/-- The witness explains how a change of the entry on the side reaches its coordinate. -/
def ExplainsEntry (base final : BehaviorIR) (edges : List ImpactEdge) (entry : BehaviorDeltaEntry)
    (finding : ImpactFinding) (w : ImpactWitness) : Prop :=
  ∃ side ∈ entrySides entry, ∃ seeds, entrySeeds base final edges side entry = .ok seeds ∧
    w.Explains edges side seeds finding.subject

theorem entrySides_nodup (entry : BehaviorDeltaEntry) : (entrySides entry).Nodup := by
  cases entry <;> simp [entrySides]

theorem seeds_of_sideWitnesses {entry : BehaviorDeltaEntry} {finding : ImpactFinding}
    {side : GraphSide} (h : sideWitnesses base final edges entry finding side = .ok witnesses) :
    ∃ seeds, entrySeeds base final edges side entry = .ok seeds ∧
      (∀ w : ImpactWitness, w ∈ witnesses ↔ w.Explains edges side seeds finding.subject) ∧
      witnesses.Pairwise fun w w' => w.affected ≠ w'.affected := by
  have hsteps := h
  simp only [sideWitnesses, bind_eq_ok] at hsteps
  obtain ⟨seeds, hseeds, -⟩ := hsteps
  obtain ⟨witnesses', hwitnesses', hexact, hdistinct⟩ :=
    @exists_sideWitnesses edges side seeds base final entry finding hseeds
  rw [h, Except.ok.injEq] at hwitnesses'
  subst hwitnesses'
  exact ⟨seeds, hseeds, hexact, hdistinct⟩

/-- The witnesses of an entry are those that explain a coordinate on one of its sides. -/
theorem entryWitnesses_spec {entry : BehaviorDeltaEntry} {finding : ImpactFinding}
    (h : entryWitnesses base final edges (entry, finding) = .ok witnesses) :
    (∀ w, w ∈ witnesses ↔ ExplainsEntry base final edges entry finding w) ∧
      witnesses.Pairwise fun w w' => w.identity ≠ w'.identity := by
  simp only [entryWitnesses, bind_eq_ok, pure_eq_ok, Except.ok.injEq] at h
  obtain ⟨lists, hlists, rfl⟩ := h
  refine ⟨fun w => ?_, List.pairwise_flatten.mpr ⟨fun l hl => ?_, ?_⟩⟩
  · rw [List.mem_flatten]
    constructor
    · rintro ⟨l, hl, hw⟩
      obtain ⟨side, hside, hlist⟩ := (mem_of_collect hlists l).mp hl
      obtain ⟨seeds, hseeds, hexact, -⟩ := seeds_of_sideWitnesses hlist
      exact ⟨side, hside, seeds, hseeds, (hexact w).mp hw⟩
    · rintro ⟨side, hside, seeds, hseeds, hw⟩
      obtain ⟨l, hl, hlist⟩ := exists_of_mem_collect hlists hside
      obtain ⟨seeds', hseeds', hexact, -⟩ := seeds_of_sideWitnesses hlist
      rw [hseeds, Except.ok.injEq] at hseeds'
      subst hseeds'
      exact ⟨l, hl, (hexact w).mpr hw⟩
  · obtain ⟨side, -, hlist⟩ := (mem_of_collect hlists l).mp hl
    obtain ⟨seeds, -, -, hdistinct⟩ := seeds_of_sideWitnesses hlist
    exact hdistinct.imp fun hne heq => hne (ImpactWitness.identity_eq heq).2.2.2
  · refine pairwise_of_collect hlists (entrySides_nodup entry) ?_
    intro side side' l l' hne hlist hlist' w hw w' hw' heq
    obtain ⟨seeds, -, hexact, -⟩ := seeds_of_sideWitnesses hlist
    obtain ⟨seeds', -, hexact', -⟩ := seeds_of_sideWitnesses hlist'
    refine hne ?_
    rw [← ((hexact w).mp hw).side_eq, ← ((hexact' w').mp hw').side_eq]
    exact (ImpactWitness.identity_eq heq).1

/-- The identities of the derived witnesses are unique and in order, and the witnesses are those
that explain a coordinate for one of the entries. -/
theorem deriveWitnesses_spec
    (h : deriveWitnesses base final edges entries findings = .ok witnesses)
    (hsubjects : (findings.map fun finding => (finding.subject.targetKind,
      finding.subject.targetId)).Nodup) :
    (∀ w, w ∈ witnesses ↔ ∃ item ∈ entries.zip findings,
      ExplainsEntry base final edges item.1 item.2 w) ∧
    SortedKeys ImpactWitness.identity witnesses := by
  simp only [deriveWitnesses, bind_eq_ok, require_eq_ok, exists_const, pure_eq_ok,
    Except.ok.injEq] at h
  obtain ⟨lists, hlists, hlength, rfl⟩ := h
  have hpairs : (entries.zip findings).Pairwise fun item item' =>
      (item.2.subject.targetKind, item.2.subject.targetId) ≠
        (item'.2.subject.targetKind, item'.2.subject.targetId) := by
    have hsecond : (entries.zip findings).map Prod.snd = findings :=
      List.map_snd_zip (le_of_eq hlength.symm)
    rw [← hsecond, List.map_map] at hsubjects
    exact List.pairwise_map.mp hsubjects
  have hdistinct : lists.flatten.Pairwise fun w w' => w.identity ≠ w'.identity := by
    refine List.pairwise_flatten.mpr ⟨fun l hl => ?_, pairwise_of_collect hlists hpairs ?_⟩
    · obtain ⟨item, -, hlist⟩ := (mem_of_collect hlists l).mp hl
      exact (entryWitnesses_spec hlist).2
    · rintro ⟨entry, finding⟩ ⟨entry', finding'⟩ l l' hne hlist hlist' w hw w' hw' heq
      obtain ⟨side, -, seeds, -, hexplains⟩ := ((entryWitnesses_spec hlist).1 w).mp hw
      obtain ⟨side', -, seeds', -, hexplains'⟩ := ((entryWitnesses_spec hlist').1 w').mp hw'
      obtain ⟨-, hkind, hid, -⟩ := ImpactWitness.identity_eq heq
      rw [hexplains.subject_eq, hexplains'.subject_eq] at hkind hid
      exact hne (by rw [hkind, hid])
  refine ⟨fun w => ?_, ?_⟩
  · rw [mem_sortedBy, List.mem_flatten]
    constructor
    · rintro ⟨l, hl, hw⟩
      obtain ⟨item, hitem, hlist⟩ := (mem_of_collect hlists l).mp hl
      exact ⟨item, hitem, ((entryWitnesses_spec hlist).1 w).mp hw⟩
    · rintro ⟨item, hitem, hw⟩
      obtain ⟨l, hl, hlist⟩ := exists_of_mem_collect hlists hitem
      exact ⟨l, hl, ((entryWitnesses_spec hlist).1 w).mpr hw⟩
  · have hsorted := pairwise_sortedBy ImpactWitness.key lists.flatten
    have hne := ((sortedBy_perm ImpactWitness.key lists.flatten).pairwise_iff
      fun {a b} h heq => h heq.symm).mpr hdistinct
    refine (hsorted.and hne).imp fun {w w'} hle => ?_
    rcases Prod.Lex.toLex_le_toLex.mp hle.1 with hlt | ⟨heq, -⟩
    · exact hlt
    · exact absurd heq hle.2

/-- A coordinate that is no seed is explained exactly when a chain leads to it. -/
theorem exists_explains_iff {side : GraphSide} {seeds : List ImpactCoordinate}
    {subject : ImpactSubject} {c : ImpactCoordinate} :
    (∃ w : ImpactWitness, w.Explains edges side seeds subject ∧ w.affected = c) ↔
      (∃ path, Chain edges side seeds path c) ∧ c ∉ seeds := by
  constructor
  · rintro ⟨w, hw, rfl⟩
    exact ⟨⟨_, hw.least.1⟩, fun hmem => w.nonempty (hw.least.eq_nil hmem)⟩
  · rintro ⟨⟨path, hchain⟩, hc⟩
    obtain ⟨path', hleast⟩ := hchain.exists_least
    have hne : path' ≠ [] := by
      rintro rfl
      generalize hpath : ([] : List Nat) = path' at hleast
      cases hleast.1 with
      | seed hseed => exact hc hseed
      | step _ _ _ => simp at hpath
    exact ⟨⟨subject, side, c, pathPrecision edges path', path', hne⟩, ⟨rfl, rfl, hleast, rfl⟩, rfl⟩

/-- The witnesses of a report are exact: each of them is the least chain to its coordinate for an
entry and one of its sides; a coordinate has one exactly when a chain leads to it and it is no seed;
their identities are unique and in order; and each of them is accepted in a report. -/
structure ExactWitnesses (base final : BehaviorIR) (edges : List ImpactEdge)
    (entries : List BehaviorDeltaEntry) (findings : List ImpactFinding)
    (witnesses : List ImpactWitness) : Prop where
  exact : ∀ w, w ∈ witnesses ↔
    ∃ item ∈ entries.zip findings, ExplainsEntry base final edges item.1 item.2 w
  reached : ∀ item ∈ entries.zip findings, ∀ side ∈ entrySides item.1, ∃ seeds,
    entrySeeds base final edges side item.1 = .ok seeds ∧ ∀ c,
      (∃ w ∈ witnesses, w.Explains edges side seeds item.2.subject ∧ w.affected = c) ↔
        (∃ path, Chain edges side seeds path c) ∧ c ∉ seeds
  canonical : SortedKeys ImpactWitness.identity witnesses
  accepted : ∀ w ∈ witnesses, ∀ position, validateWitness edges position w = .ok ()

theorem subject_of_directFinding {entry : BehaviorDeltaEntry} {finding : ImpactFinding}
    {baseEntities finalEntities : Dict EntityRef Json}
    (h : directFinding baseEntities finalEntities entry = .ok finding) :
    finding.subject.targetKind = (entrySubject entry).targetKind ∧
      finding.subject.targetId = (entrySubject entry).targetId := by
  cases entry with
  | added | removed =>
    rw [directFinding, ImpactFinding.make_eq_ok] at h
    rw [h.1]
    exact ⟨rfl, rfl⟩
  | modified entry =>
    simp only [directFinding, bind_eq_ok, ImpactFinding.make_eq_ok] at h
    obtain ⟨_, -, _, -, hsubject, -⟩ := h
    rw [hsubject]
    exact ⟨rfl, rfl⟩

theorem subjectKey_eq (entry : BehaviorDeltaEntry) : entry.subjectKey =
    ⟨(entrySubject entry).targetKind, (entrySubject entry).targetId⟩ := by
  cases entry <;> rfl

variable [Hashlib]

/-- The seeds of each entry of a difference are found on each of its sides. -/
theorem exists_entrySeeds (h : IsDifference base final entries) {entry : BehaviorDeltaEntry}
    (hentry : entry ∈ entries) {side : GraphSide} (hside : side ∈ entrySides entry)
    (edges : List ImpactEdge) :
    ∃ seeds, entrySeeds base final edges side entry = .ok seeds := by
  have hkeys := subjectKey_eq entry
  have hseeds : (sideDocument base final side).definition? entry.subjectKey ≠ none →
      (∀ entity, ∃ ports, portSeeds base final edges side entry entity = .ok ports) →
      ∃ seeds, entrySeeds base final edges side entry = .ok seeds := by
    intro hdefinition hports
    rw [hkeys] at hdefinition
    obtain ⟨entity, hentity⟩ := exists_findEntity hdefinition
    obtain ⟨ports, hports⟩ := hports entity
    rw [entrySeeds]
    simp only [hentity, hports, ok_bind]
    exact ⟨_, rfl⟩
  cases entry with
  | added entry =>
    obtain ⟨key, -, hfinal, rfl⟩ := (h.added entry).mp hentry
    rw [List.mem_singleton.mp hside] at hseeds ⊢
    exact hseeds hfinal fun entity => exists_allPortSeeds edges _ entity
  | removed entry =>
    obtain ⟨key, hbase, -, rfl⟩ := (h.removed entry).mp hentry
    rw [List.mem_singleton.mp hside] at hseeds ⊢
    exact hseeds hbase fun entity => exists_allPortSeeds edges _ entity
  | modified entry =>
    obtain ⟨key, hchanged, hmodifies⟩ := (h.modified entry).mp hentry
    have hkey := hmodifies.subjectKey
    refine hseeds ?_ fun entity =>
      exists_modifiedPortSeeds hkey hchanged.inBase hchanged.inFinal edges side
    rw [hkey]
    cases side with
    | base => exact hchanged.inBase
    | final => exact hchanged.inFinal

end Reports

end Ucf

/-! ### A sample

A document to which a provenance record is added. -/

namespace Ucf.ImpactSample

open Ucf.FindingsSample (base proposal addedSource validateBehaviorDocument_base
  validateChangeProposal_proposal)
open scoped Ucf.OpenSpecSample Ucf.DeltaSample

def final : BehaviorIR := { base with entities := base.entities ++ [.provenance addedSource] }

theorem validateBehaviorDocument_final (location : String) :
    validateBehaviorDocument final location = .ok () :=
  validateBehaviorDocument_eq_ok.mpr ⟨by unfold BehaviorIR.WithinNesting; decide +kernel,
    validateIrSemantics_eq_ok.mp (show validateIrSemantics final = .ok () by decide +kernel)⟩

/-- No entity of the base document changes. -/
theorem unchanged (key : EntityRef) : ¬Changed base final key := by
  rintro ⟨hbase, -, hdiffers⟩
  obtain ⟨definition, hdefinition⟩ := Option.ne_none_iff_exists'.mp hbase
  obtain ⟨hmem, rfl⟩ := BehaviorIR.ref_of_definition? hdefinition
  have hall : ∀ entity ∈ base.canonical.entities,
      base.definition? entity.ref = final.definition? entity.ref := by decide +kernel
  rcases hdiffers with hne | hroots
  · exact hne (hall definition hmem)
  · exact hroots Iff.rfl

theorem exists_delta : ∃ delta findings, validateBehaviorDelta delta proposal base final = .ok () ∧
    directFindings delta base final = .ok findings := by
  have hdigest : canonicalIrDigest base ≠ canonicalIrDigest final := by decide +kernel
  have hfinal := validateBehaviorDocument_final "$.final_behavior"
  rcases deriveBehaviorDelta_cases validateChangeProposal_proposal hfinal rfl
    fun heq => absurd heq hdigest with ⟨hsame, -⟩ | ⟨-, delta, -, hrefers, hdifference⟩
  · exact absurd hsame (by decide +kernel)
  · have hall : ∀ entry ∈ delta.entries.val, ∃ finding,
        directFinding (canonicalEntitiesAndRoots base).1 (canonicalEntitiesAndRoots final).1 entry =
          .ok finding ∧ True := by
      intro entry hentry
      cases entry with
      | added entry =>
        obtain ⟨finding, hfinding⟩ := exists_whole_finding _
        exact ⟨finding, hfinding, trivial⟩
      | removed entry =>
        obtain ⟨finding, hfinding⟩ := exists_whole_finding _
        exact ⟨finding, hfinding, trivial⟩
      | modified entry =>
        obtain ⟨key, hchanged, -⟩ := (hdifference.modified entry).mp hentry
        exact absurd hchanged (unchanged key)
    obtain ⟨findings, hfindings, -⟩ := exists_collect hall
    exact ⟨delta, findings, (validateBehaviorDelta_eq_ok validateChangeProposal_proposal hfinal
      rfl).mpr ⟨hrefers, hdifference⟩, hfindings⟩

end Ucf.ImpactSample
