import Columnar.Inclusion
import Columnar.Proofs.TypeTree.Flattened

set_option autoImplicit false

namespace Columnar

namespace Inclusion

variable {tree : TypeTree}

def ClosedBelow (tree : TypeTree) (closed : Nat → Prop) : Prop :=
  ∀ id : UInt32, closed id.toNat → ∀ child ∈ childrenOf tree id, closed child.toNat

theorem mark_outside (flags : List Bool) (id : UInt32) (rest : List UInt32)
    (outside : flags[id.toNat]? = none) : mark tree flags (id :: rest) = .error .outOfRange := by
  rw [mark]
  split <;> rename_i flag <;> rw [outside] at flag <;> cases flag

theorem mark_known (flags : List Bool) (id : UInt32) (rest : List UInt32)
    (set : flags[id.toNat]? = some true) : mark tree flags (id :: rest) = mark tree flags rest := by
  rw [mark]
  split <;> rename_i flag <;> rw [set] at flag <;> cases flag

theorem mark_new (flags : List Bool) (id : UInt32) (rest : List UInt32)
    (unset : flags[id.toNat]? = some false) :
    mark tree flags (id :: rest) =
      mark tree (flags.set id.toNat true) (childrenOf tree id ++ rest) := by
  rw [mark]
  split <;> rename_i flag <;> rw [unset] at flag <;> cases flag

theorem mark_succeeds (flags : List Bool) (pending : List UInt32)
    (known : ClosedBelow tree fun id => id < flags.length)
    (inside : ∀ id ∈ pending, id.toNat < flags.length) :
    ∃ found, mark tree flags pending = .ok found ∧ found.length = flags.length := by
  induction flags, pending using mark.induct tree with
  | case1 flags => exact ⟨flags, by rw [mark], rfl⟩
  | case2 flags id rest outside =>
    have short := List.getElem?_eq_none_iff.mp outside
    have here := inside id (by simp)
    omega
  | case3 flags id rest set ih =>
    obtain ⟨found, marks, same⟩ := ih known fun other member => inside other (by simp [member])
    exact ⟨found, by rw [mark_known flags id rest set, marks], same⟩
  | case4 flags id rest unset ih =>
    have length : (flags.set id.toNat true).length = flags.length := List.length_set
    rw [length] at ih
    obtain ⟨found, marks, same⟩ := ih known fun other member => by
      cases List.mem_append.mp member with
      | inl below => exact known id (inside id (by simp)) other below
      | inr later => exact inside other (by simp [later])
    exact ⟨found, by rw [mark_new flags id rest unset, marks], same⟩

theorem mark_keeps (flags : List Bool) (pending : List UInt32) (found : List Bool)
    (marks : mark tree flags pending = .ok found) (place : Nat) (set : flags[place]? = some true) :
    found[place]? = some true := by
  induction flags, pending using mark.induct tree with
  | case1 flags =>
    rw [mark, Except.ok.injEq] at marks
    rw [← marks]
    exact set
  | case2 flags id rest outside =>
    rw [mark_outside flags _ rest outside] at marks
    cases marks
  | case3 flags id rest already ih =>
    rw [mark_known flags _ rest already] at marks
    exact ih marks set
  | case4 flags id rest unset ih =>
    rw [mark_new flags _ rest unset] at marks
    refine ih marks ?_
    by_cases here : id.toNat = place
    · rw [here, set] at unset
      cases unset
    · rw [List.getElem?_set_ne here]
      exact set

theorem mark_flags_pending (flags : List Bool) (pending : List UInt32) (found : List Bool)
    (marks : mark tree flags pending = .ok found) (id : UInt32) (member : id ∈ pending) :
    found[id.toNat]? = some true := by
  induction flags, pending using mark.induct tree with
  | case1 flags => cases member
  | case2 flags first rest outside =>
    rw [mark_outside flags _ rest outside] at marks
    cases marks
  | case3 flags first rest already ih =>
    rw [mark_known flags _ rest already] at marks
    cases member with
    | head => exact mark_keeps flags rest found marks _ already
    | tail _ later => exact ih marks later
  | case4 flags first rest unset ih =>
    rw [mark_new flags _ rest unset] at marks
    cases member with
    | head =>
      refine mark_keeps _ _ found marks _ ?_
      have short := (List.getElem?_eq_some_iff.mp unset).1
      rw [List.getElem?_set_self short]
    | tail _ later => exact ih marks (List.mem_append_right _ later)

theorem mark_only_below (flags : List Bool) (pending : List UInt32) (found : List Bool)
    (marks : mark tree flags pending = .ok found) (closed : Nat → Prop)
    (below : ClosedBelow tree closed) (start : ∀ id ∈ pending, closed id.toNat) (place : Nat)
    (set : found[place]? = some true) : flags[place]? = some true ∨ closed place := by
  induction flags, pending using mark.induct tree with
  | case1 flags =>
    rw [mark, Except.ok.injEq] at marks
    rw [marks]
    exact .inl set
  | case2 flags id rest outside =>
    rw [mark_outside flags _ rest outside] at marks
    cases marks
  | case3 flags id rest already ih =>
    rw [mark_known flags _ rest already] at marks
    exact ih marks fun other member => start other (by simp [member])
  | case4 flags id rest unset ih =>
    rw [mark_new flags _ rest unset] at marks
    have here := start id (by simp)
    have reached := ih marks fun other member => by
      cases List.mem_append.mp member with
      | inl child => exact below id here other child
      | inr later => exact start other (by simp [later])
    by_cases same : id.toNat = place
    · rw [same] at here
      exact .inr here
    · rw [List.getElem?_set_ne same] at reached
      exact reached

theorem closed_inside (numbered : tree.Numbered) :
    ClosedBelow tree fun id => id < tree.nodes.length := by
  intro id _ child member
  simp only [childrenOf, TypeTree.get?] at member
  cases found : tree.nodes[id.toNat]? with
  | none => simp [found] at member
  | some node =>
    simp only [found, Option.map_some, Option.getD_some] at member
    exact (numbered.inside node (List.mem_of_getElem? found) child member).2

def rootFlags (tree : TypeTree) : List Bool :=
  true :: (tree.nodes.drop 1).map fun _ => false

theorem flags_for_marks (numbered : tree.Numbered) (requested : List UInt32) :
    flagsFor tree requested =
      mark tree (rootFlags tree) (tree.columns.filter requested.contains) := by
  obtain ⟨root, rest, nodes, _⟩ := numbered.rooted
  rw [flagsFor, rootFlags]
  simp only [nodes, List.drop_succ_cons, List.drop_zero]

theorem length_root_flags (numbered : tree.Numbered) :
    (rootFlags tree).length = tree.nodes.length := by
  obtain ⟨root, rest, nodes, _⟩ := numbered.rooted
  simp [rootFlags, nodes]

theorem flags_for_succeeds (numbered : tree.Numbered) (requested : List UInt32) :
    ∃ flags, flagsFor tree requested = .ok flags ∧ flags.length = tree.nodes.length := by
  rw [flags_for_marks numbered, ← length_root_flags numbered]
  refine mark_succeeds _ _ ?_ ?_
  · rw [length_root_flags numbered]
    exact closed_inside numbered
  · intro id member
    rw [length_root_flags numbered]
    exact (TypeTree.column_inside numbered id (List.mem_filter.mp member).1).2

theorem requested_flagged (numbered : tree.Numbered) (requested : List UInt32) (flags : List Bool)
    (marks : flagsFor tree requested = .ok flags) (id : UInt32) (column : id ∈ tree.columns)
    (wanted : id ∈ requested) : flags[id.toNat]? = some true := by
  rw [flags_for_marks numbered] at marks
  exact mark_flags_pending _ _ flags marks id
    (List.mem_filter.mpr ⟨column, List.contains_iff_mem.mpr wanted⟩)

-- The root is no column, so its own flag does not count.
theorem flagged_only_below (numbered : tree.Numbered) (requested : List UInt32) (flags : List Bool)
    (marks : flagsFor tree requested = .ok flags) (closed : Nat → Prop)
    (below : ClosedBelow tree closed)
    (start : ∀ id ∈ tree.columns, id ∈ requested → closed id.toNat) (id : UInt32)
    (column : id ∈ tree.columns) (set : flags[id.toNat]? = some true) : closed id.toNat := by
  rw [flags_for_marks numbered] at marks
  have reached := mark_only_below _ _ flags marks closed below (fun other member => by
    have wanted := List.mem_filter.mp member
    exact start other wanted.1 (List.contains_iff_mem.mp wanted.2)) id.toNat set
  cases reached with
  | inl root =>
    have positive := (TypeTree.column_inside numbered id column).1
    obtain ⟨less, same⟩ : ∃ less, id.toNat = less + 1 := ⟨id.toNat - 1, by omega⟩
    rw [same, rootFlags, List.getElem?_cons_succ, List.getElem?_map] at root
    simp at root
  | inr here => exact here

theorem includes_of_flags (flags : List Bool) (column : UInt32) (short : column.toNat < flags.length) :
    (ofFlags flags).includes column = true ↔ flags[column.toNat]? = some true := by
  have here : flags[column.toNat]? = some flags[column.toNat] := List.getElem?_eq_getElem short
  rw [ofFlags]
  by_cases full : flags.all id = true
  · rw [if_pos full]
    have set := List.all_eq_true.mp full flags[column.toNat] (List.getElem_mem short)
    simp only [includes, here, true_iff, Option.some.injEq]
    exact set
  · rw [if_neg full]
    simp only [includes, here, Option.getD_some, Option.some.injEq]

theorem of_projection_succeeds (numbered : tree.Numbered) (projection : Projection) :
    ∃ inclusion, ofProjection tree projection = .ok inclusion := by
  have flagged (requested : List UInt32) :
      ∃ inclusion, (flagsFor tree requested).map ofFlags = .ok inclusion := by
    obtain ⟨flags, marks, _⟩ := flags_for_succeeds numbered requested
    exact ⟨ofFlags flags, by rw [marks]; rfl⟩
  cases projection with
  | all => exact ⟨.all, rfl⟩
  | missing => exact flagged []
  | columns ids =>
    cases ids with
    | nil => exact ⟨.all, rfl⟩
    | cons id ids => exact flagged (id :: ids)

end Inclusion

namespace Projection

theorem mem_insert_id (id other : UInt32) (ids : List UInt32) :
    other ∈ insertId id ids ↔ other = id ∨ other ∈ ids := by
  induction ids with
  | nil => simp [insertId]
  | cons first rest ih =>
    rw [insertId]
    by_cases before : id < first
    · rw [if_pos before]
      simp
    · by_cases same : id = first
      · rw [if_neg before, if_pos same, same]
        simp
      · rw [if_neg before, if_neg same, List.mem_cons, ih, List.mem_cons]
        constructor
        · rintro (head | new | later)
          · exact .inr (.inl head)
          · exact .inl new
          · exact .inr (.inr later)
        · rintro (new | head | later)
          · exact .inr (.inl new)
          · exact .inl head
          · exact .inr (.inr later)

theorem mem_id_set (id : UInt32) (ids : List UInt32) : id ∈ idSet ids ↔ id ∈ ids := by
  induction ids with
  | nil => simp [idSet]
  | cons first rest ih =>
    rw [idSet, List.foldr_cons, mem_insert_id, List.mem_cons, ← ih, idSet]

theorem insert_id_ascending (id : UInt32) (ids : List UInt32) (ascending : ids.Pairwise (· < ·)) :
    (insertId id ids).Pairwise (· < ·) := by
  induction ids with
  | nil => exact List.pairwise_singleton _ id
  | cons first rest ih =>
    obtain ⟨least, ordered⟩ := List.pairwise_cons.mp ascending
    rw [insertId]
    by_cases before : id < first
    · rw [if_pos before, List.pairwise_cons]
      refine ⟨fun other member => ?_, ascending⟩
      cases member with
      | head => exact before
      | tail _ later => exact UInt32.lt_trans before (least other later)
    · by_cases same : id = first
      · rw [if_neg before, if_pos same]
        exact ascending
      · rw [if_neg before, if_neg same, List.pairwise_cons]
        refine ⟨fun other member => ?_, ih ordered⟩
        rw [mem_insert_id] at member
        cases member with
        | inl new =>
          rw [new]
          exact UInt32.lt_of_le_of_ne (UInt32.not_lt.mp before) (Ne.symm same)
        | inr later => exact least other later

theorem id_set_ascending (ids : List UInt32) : (idSet ids).Pairwise (· < ·) := by
  induction ids with
  | nil => exact List.Pairwise.nil
  | cons first rest ih =>
    rw [idSet, List.foldr_cons]
    exact insert_id_ascending first _ ih

theorem mem_columns_at (ordinals : List Nat) (place : Nat) (ids : List UInt32) (id : UInt32) :
    id ∈ columnsAt ordinals place ids ↔
      ∃ behind, ids[behind]? = some id ∧ place + behind ∈ ordinals := by
  induction ids generalizing place with
  | nil => simp [columnsAt]
  | cons first rest ih =>
    have others : (∃ behind, (first :: rest)[behind]? = some id ∧ place + behind ∈ ordinals) ↔
        (first = id ∧ place ∈ ordinals) ∨
          ∃ behind, rest[behind]? = some id ∧ place + 1 + behind ∈ ordinals := by
      constructor
      · rintro ⟨behind, found, wanted⟩
        cases behind with
        | zero => exact .inl ⟨by simpa using found, by simpa using wanted⟩
        | succ behind =>
          refine .inr ⟨behind, by simpa using found, ?_⟩
          rw [show place + 1 + behind = place + (behind + 1) by omega]
          exact wanted
      · rintro (⟨found, wanted⟩ | ⟨behind, found, wanted⟩)
        · exact ⟨0, by simpa using found, by simpa using wanted⟩
        · refine ⟨behind + 1, by simpa using found, ?_⟩
          rw [show place + (behind + 1) = place + 1 + behind by omega]
          exact wanted
    rw [others, ← ih, columnsAt]
    by_cases wanted : place ∈ ordinals
    · rw [if_pos (List.contains_iff_mem.mpr wanted), List.mem_cons]
      simp only [wanted, and_true, eq_comm]
    · rw [if_neg (by simpa using wanted)]
      simp only [wanted, and_false, false_or]

end Projection

namespace Inclusion

variable {tree : TypeTree}

theorem of_ordinals_flags (ordinals : List Nat) (asked : ordinals ≠ []) :
    ofProjection tree (Projection.ofOrdinals ordinals tree) =
      (flagsFor tree (idSet (Projection.columnsAt ordinals 0 tree.columns))).map ofFlags := by
  have filled : ordinals.isEmpty = false := by simpa using asked
  simp only [Projection.ofOrdinals, filled, Bool.false_eq_true, if_false]
  cases ids : idSet (Projection.columnsAt ordinals 0 tree.columns) with
  | nil => rfl
  | cons id rest => rfl

theorem of_ordinals_includes (numbered : tree.Numbered) (ordinals : List Nat) (asked : ordinals ≠ [])
    (inclusion : Inclusion)
    (includes : ofProjection tree (Projection.ofOrdinals ordinals tree) = .ok inclusion) :
    (∀ (place : Nat) (id : UInt32), tree.columns[place]? = .some id → place ∈ ordinals →
      inclusion.includes id = true) ∧
    (∀ closed : Nat → Prop, ClosedBelow tree closed →
      (∀ (place : Nat) (id : UInt32), tree.columns[place]? = .some id → place ∈ ordinals →
        closed id.toNat) →
      ∀ id ∈ tree.columns, inclusion.includes id = true → closed id.toNat) := by
  obtain ⟨flags, marks, length⟩ :=
    flags_for_succeeds numbered (idSet (Projection.columnsAt ordinals 0 tree.columns))
  rw [of_ordinals_flags ordinals asked, marks] at includes
  cases includes
  have short (id : UInt32) (column : id ∈ tree.columns) : id.toNat < flags.length := by
    rw [length]
    exact (TypeTree.column_inside numbered id column).2
  refine ⟨?_, ?_⟩
  · intro place id found wanted
    have column := List.mem_of_getElem? found
    rw [includes_of_flags flags id (short id column)]
    refine requested_flagged numbered _ flags marks id column ?_
    rw [Projection.mem_id_set, Projection.mem_columns_at]
    exact ⟨place, found, by simpa using wanted⟩
  · intro closed below start id column set
    rw [includes_of_flags flags id (short id column)] at set
    refine flagged_only_below numbered _ flags marks closed below ?_ id column set
    intro other member requested
    rw [Projection.mem_id_set, Projection.mem_columns_at] at requested
    obtain ⟨place, found, wanted⟩ := requested
    exact start place other found (by simpa using wanted)

theorem schema_columns_included (fields : List Field) (numbered : (TypeTree.ofFields fields).Numbered)
    (ordinals : List Nat) (asked : ordinals ≠ []) (inclusion : Inclusion)
    (includes : ofProjection (.ofFields fields)
      (Projection.ofOrdinals ordinals (.ofFields fields)) = .ok inclusion)
    (place : Nat) (id : UInt32) (found : (TypeTree.ofFields fields).columns[place]? = .some id) :
    inclusion.includes id = true ↔ place ∈ ordinals := by
  obtain ⟨wanted, only⟩ := of_ordinals_includes numbered ordinals asked inclusion includes
  have small := TypeTree.nodes_small _ numbered
  have owned (place : Nat) (id : UInt32)
      (found : (TypeTree.ofFields fields).columns[place]? = .some id) :
      0 < id.toNat ∧ TypeNode.ownerOf 1 fields id.toNat = place := by
    have positive := (TypeTree.column_inside numbered id (List.mem_of_getElem? found)).1
    rw [TypeTree.columns_of_fields] at found
    rw [TypeTree.nodes_of_fields, List.length_cons] at small
    exact ⟨positive, TypeNode.owner_of_child fields 1 place id (by omega) found⟩
  constructor
  · intro set
    have closed : ClosedBelow (.ofFields fields) fun id =>
        0 < id ∧ TypeNode.ownerOf 1 fields id ∈ ordinals := by
      intro id here child member
      simp only [childrenOf, TypeTree.get?] at member
      cases node : (TypeTree.ofFields fields).nodes[id.toNat]? with
      | none => simp [node] at member
      | some parent =>
        simp only [node, Option.map_some, Option.getD_some] at member
        have below := numbered.inside parent (List.mem_of_getElem? node) child member
        have placed := numbered.placed id.toNat parent node
        rw [TypeTree.nodes_of_fields] at node small
        rw [List.length_cons] at small
        obtain ⟨less, same⟩ : ∃ less, id.toNat = less + 1 := ⟨id.toNat - 1, by omega⟩
        rw [same, List.getElem?_cons_succ] at node
        have owner := TypeNode.owner_of_below fields 1 parent child (by omega)
          (List.mem_of_getElem? node) member
        rw [owner, placed]
        exact ⟨by omega, here.2⟩
    have reached := only _ closed (fun other otherId otherFound asked => by
      have owner := owned other otherId otherFound
      rw [owner.2]
      exact ⟨owner.1, asked⟩) id (List.mem_of_getElem? found) set
    rw [(owned place id found).2] at reached
    exact reached.2
  · intro asked
    exact wanted place id found asked

theorem no_columns_included (numbered : tree.Numbered) (ordinals : List Nat) (asked : ordinals ≠ [])
    (past : ∀ ordinal ∈ ordinals, tree.columns.length ≤ ordinal) (inclusion : Inclusion)
    (includes : ofProjection tree (Projection.ofOrdinals ordinals tree) = .ok inclusion)
    (id : UInt32) (column : id ∈ tree.columns) : inclusion.includes id = false := by
  obtain ⟨_, only⟩ := of_ordinals_includes numbered ordinals asked inclusion includes
  rw [Bool.eq_false_iff]
  intro set
  refine only (fun _ => False) (fun _ nowhere => nowhere.elim) ?_ id column set
  intro place other found asked
  have short := (List.getElem?_eq_some_iff.mp found).1
  have far := past place asked
  omega

end Inclusion

end Columnar
