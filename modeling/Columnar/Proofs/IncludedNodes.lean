import Columnar.Proofs.Marking
import Columnar.Proofs.TypeTree.Walk

set_option autoImplicit false

namespace Columnar

namespace Inclusion

variable {tree : TypeTree}

-- When marking is over, what is below a flagged node is flagged. Only the root may be flagged without
-- its children.
theorem mark_closes (flags : List Bool) (pending : List UInt32) (found : List Bool)
    (marks : mark tree flags pending = .ok found)
    (settled : ∀ id : UInt32, id.toNat ≠ 0 → flags[id.toNat]? = some true →
      ∀ child ∈ childrenOf tree id, flags[child.toNat]? = some true ∨ child ∈ pending)
    (id : UInt32) (inner : id.toNat ≠ 0) (set : found[id.toNat]? = some true) (child : UInt32)
    (below : child ∈ childrenOf tree id) : found[child.toNat]? = some true := by
  induction flags, pending using mark.induct tree with
  | case1 flags =>
    rw [mark, Except.ok.injEq] at marks
    rw [← marks] at set ⊢
    cases settled id inner set child below with
    | inl known => exact known
    | inr waiting => cases waiting
  | case2 flags first rest outside =>
    rw [mark_outside flags _ rest outside] at marks
    cases marks
  | case3 flags first rest already ih =>
    rw [mark_known flags _ rest already] at marks
    refine ih marks ?_
    intro other otherInner otherSet down member
    cases settled other otherInner otherSet down member with
    | inl known => exact .inl known
    | inr waiting =>
      cases waiting with
      | head => exact .inl already
      | tail _ later => exact .inr later
  | case4 flags first rest unset ih =>
    rw [mark_new flags _ rest unset] at marks
    refine ih marks ?_
    intro other otherInner otherSet down member
    have short := (List.getElem?_eq_some_iff.mp unset).1
    by_cases here : first.toNat = other.toNat
    · rw [← UInt32.toNat_inj.mp here] at member
      exact .inr (List.mem_append_left _ member)
    · rw [List.getElem?_set_ne here] at otherSet
      have keeps (place : Nat) (known : flags[place]? = some true) :
          (flags.set first.toNat true)[place]? = some true := by
        by_cases same : first.toNat = place
        · rw [← same, List.getElem?_set_self short]
        · rw [List.getElem?_set_ne same]
          exact known
      cases settled other otherInner otherSet down member with
      | inl known => exact .inl (keeps _ known)
      | inr waiting =>
        cases waiting with
        | head => exact .inl (List.getElem?_set_self short)
        | tail _ later => exact .inr (List.mem_append_right _ later)

def Wanted (tree : TypeTree) (requested : List UInt32) (id : UInt32) : Prop :=
  id = 0 ∨ ∃ column ∈ tree.columns, column ∈ requested ∧ tree.Reaches column id

theorem root_flags_set (place : Nat) (set : (rootFlags tree)[place]? = some true) : place = 0 := by
  cases place with
  | zero => rfl
  | succ place =>
    rw [rootFlags, List.getElem?_cons_succ, List.getElem?_map] at set
    simp at set

theorem flagged_iff_wanted (numbered : tree.Numbered) (requested : List UInt32) (flags : List Bool)
    (marks : flagsFor tree requested = .ok flags) (id : UInt32) :
    flags[id.toNat]? = some true ↔ Wanted tree requested id := by
  have marked := marks
  rw [flags_for_marks numbered] at marked
  constructor
  · intro set
    have only := mark_only_below _ _ flags marked
      (fun place => ∃ other : UInt32, other.toNat = place ∧
        ∃ column ∈ tree.columns, column ∈ requested ∧ tree.Reaches column other)
      (by
        rintro parent ⟨other, same, column, member, wanted, reached⟩ child below
        rw [UInt32.toNat_inj.mp same] at reached
        exact ⟨child, rfl, column, member, wanted, reached.tail below⟩)
      (by
        intro column member
        have asked := List.mem_filter.mp member
        exact ⟨column, rfl, column, asked.1, List.contains_iff_mem.mp asked.2, .refl⟩)
      id.toNat set
    rcases only with root | ⟨other, same, reached⟩
    · exact .inl (UInt32.toNat_inj.mp (root_flags_set _ root))
    · rw [UInt32.toNat_inj.mp same] at reached
      exact .inr reached
  · rintro (root | ⟨column, member, wanted, reached⟩)
    · rw [root]
      exact mark_keeps _ _ flags marked _ rfl
    · have positive := (TypeTree.column_inside numbered column member).1
      -- Nothing below a column is the root, so every flag on the way down is passed on.
      suffices inner : id.toNat ≠ 0 ∧ flags[id.toNat]? = some true from inner.2
      induction reached with
      | refl =>
        exact ⟨by omega, requested_flagged numbered requested flags marks column member wanted⟩
      | tail _ below ih =>
        have behind := TypeTree.child_inside numbered _ _ below
        refine ⟨by omega, mark_closes _ _ flags marked ?_ _ ih.1 ih.2 _ below⟩
        intro other inner set
        exact absurd (root_flags_set _ set) inner

end Inclusion

namespace Projection

def requested : Projection → List UInt32
  | .columns ids => ids
  | _ => []

def Unrestricted (projection : Projection) : Prop := projection = .all ∨ projection = .columns []

theorem unrestricted_includes (tree : TypeTree) (projection : Projection)
    (unrestricted : projection.Unrestricted) : Inclusion.ofProjection tree projection = .ok .all := by
  obtain rfl | rfl := unrestricted
  · rfl
  · rfl

theorem restricted_includes (tree : TypeTree) (projection : Projection)
    (restricted : ¬ projection.Unrestricted) :
    Inclusion.ofProjection tree projection =
      (Inclusion.flagsFor tree projection.requested).map Inclusion.ofFlags := by
  cases projection with
  | all => exact absurd (.inl rfl) restricted
  | missing => rfl
  | columns ids =>
    cases ids with
    | nil => exact absurd (.inr rfl) restricted
    | cons id ids => rfl

end Projection

namespace TypeTree

open TypeNode (flattenFields idsFrom to_nat_small)

def columnStop (tree : TypeTree) (place : Nat) : Nat :=
  (tree.columns[place + 1]?.map UInt32.toNat).getD tree.nodes.length

theorem walk_member (tree : TypeTree) (fuel : Nat) (fields : List (String × DataType))
    (next place : Nat) (child : UInt32) (held : tree.Holds next (flattenFields next fields).2)
    (small : next + (flattenFields next fields).2.length ≤ UInt32.size)
    (deep : (flattenFields next fields).2.length ≤ fuel)
    (found : (flattenFields next fields).1[place]? = some child) :
    let stop := ((flattenFields next fields).1[place + 1]?.map UInt32.toNat).getD
      (next + (flattenFields next fields).2.length)
    child.toNat < stop ∧ stop ≤ next + (flattenFields next fields).2.length ∧
      tree.walk fuel child = idsFrom child.toNat (stop - child.toNat) := by
  induction fields generalizing next place with
  | nil => simp [flattenFields] at found
  | cons field rest ih =>
    obtain ⟨name, type⟩ := field
    simp only [flattenFields, List.length_append, holds_append_iff] at held small deep found ⊢
    have positive := TypeNode.length_flatten type next
    cases place with
    | zero =>
      simp only [List.getElem?_cons_zero, Option.some.injEq] at found
      have walks := walk_flatten fuel type next held.1 (by omega) (by omega)
      have stop : (((flattenFields (next + (TypeNode.flatten next type).length) rest).1[0]?).map
          UInt32.toNat).getD (next + ((TypeNode.flatten next type).length +
            (flattenFields (next + (TypeNode.flatten next type).length) rest).2.length)) =
          next + (TypeNode.flatten next type).length := by
        cases rest with
        | nil => simp [flattenFields]
        | cons other rest =>
          simp only [flattenFields, List.length_append] at small ⊢
          have filled := TypeNode.length_flatten other.2 (next + (TypeNode.flatten next type).length)
          simp only [List.getElem?_cons_zero, Option.map_some, Option.getD_some]
          exact to_nat_small _ (by omega)
      rw [List.getElem?_cons_succ, stop, ← found, to_nat_small next (by omega), Nat.add_sub_cancel_left]
      exact ⟨by omega, by omega, walks⟩
    | succ place =>
      rw [List.getElem?_cons_succ] at found ⊢
      have behind := ih _ place held.2 (by omega) (by omega) found
      rw [Nat.add_assoc] at behind
      exact behind

theorem members_ascend (fields : List (String × DataType)) (next : Nat)
    (small : next + (flattenFields next fields).2.length ≤ UInt32.size) :
    (flattenFields next fields).1.Pairwise (· < ·) := by
  induction fields generalizing next with
  | nil => exact .nil
  | cons field rest ih =>
    obtain ⟨name, type⟩ := field
    simp only [flattenFields, List.length_append] at small ⊢
    have positive := TypeNode.length_flatten type next
    refine .cons ?_ (ih _ (by omega))
    intro other later
    have inside := (TypeNode.flatten_fields_block rest _ (by omega)).2 other later
    rw [UInt32.lt_iff_toNat_lt, to_nat_small next (by omega)]
    omega

section

variable {fields : List Field}

theorem columns_ascend (small : (ofFields fields).nodes.length ≤ UInt32.size) :
    (ofFields fields).columns.Pairwise (· < ·) := by
  rw [nodes_of_fields, List.length_cons] at small
  rw [columns_of_fields]
  exact members_ascend fields 1 (by omega)

theorem column_reaches_iff (small : (ofFields fields).nodes.length ≤ UInt32.size) (place : Nat)
    (column id : UInt32) (found : (ofFields fields).columns[place]? = some column) :
    (ofFields fields).Reaches column id ↔
      column ≤ id ∧ id.toNat < (ofFields fields).columnStop place := by
  have numbered := numbered_of_fields fields small
  have inside := (column_inside numbered column (List.mem_of_getElem? found)).2
  have count : (ofFields fields).nodes.length = 1 + (flattenFields 1 fields).2.length := by
    rw [nodes_of_fields, List.length_cons, Nat.add_comm]
  have held : (ofFields fields).Holds 1 (flattenFields 1 fields).2 := by
    have all := holds_all (ofFields fields)
    rw [nodes_of_fields, holds_cons_iff] at all
    exact all.2
  rw [columns_of_fields] at found
  obtain ⟨before, within, walks⟩ := walk_member _ (ofFields fields).nodes.length fields 1 place column
    held (by omega) (by omega) found
  rw [← mem_walk_iff numbered (ofFields fields).nodes.length column id inside (by omega), walks,
    TypeNode.mem_ids_from _ _ id (by omega), columnStop, columns_of_fields, count, UInt32.le_iff_toNat_le]
  omega

end

end TypeTree

namespace Inclusion

variable {tree : TypeTree}

theorem of_flags_all_iff (flags : List Bool) :
    ofFlags flags = .all ↔ ∀ place < flags.length, flags[place]? = some true := by
  have full : flags.all id = true ↔ ∀ place < flags.length, flags[place]? = some true := by
    rw [List.all_eq_true]
    constructor
    · intro all place inside
      rw [List.getElem?_eq_getElem inside]
      exact congrArg some (all _ (List.getElem_mem inside))
    · intro all flag member
      obtain ⟨place, found⟩ := List.getElem?_of_mem member
      have set := all place (List.getElem?_eq_some_iff.mp found).1
      rw [set, Option.some.injEq] at found
      exact found.symm
  rw [← full, ofFlags]
  by_cases every : flags.all id = true
  · rw [if_pos every]
    exact iff_of_true rfl every
  · rw [if_neg every]
    exact iff_of_false (by simp) every

theorem of_flags_not_all (flags : List Bool) (restricted : ofFlags flags ≠ .all) :
    ofFlags flags = .mask flags := by
  rw [ofFlags] at restricted ⊢
  by_cases every : flags.all id = true
  · exact absurd (if_pos every) restricted
  · rw [if_neg every]

theorem all_flagged_iff (numbered : tree.Numbered) (requested : List UInt32) (flags : List Bool)
    (marks : flagsFor tree requested = .ok flags) (length : flags.length = tree.nodes.length) :
    ofFlags flags = .all ↔
      ∀ id : UInt32, id.toNat < tree.nodes.length → Wanted tree requested id := by
  have small := TypeTree.nodes_small tree numbered
  rw [of_flags_all_iff, length]
  constructor
  · intro all id inside
    exact (flagged_iff_wanted numbered requested flags marks id).mp (all _ inside)
  · intro all place inside
    have number := TypeNode.to_nat_small place (by omega)
    rw [← number] at inside ⊢
    exact (flagged_iff_wanted numbered requested flags marks _).mpr (all _ inside)

theorem schema_wanted_iff (fields : List Field)
    (small : (TypeTree.ofFields fields).nodes.length ≤ UInt32.size) (requested : List UInt32)
    (id : UInt32) (inner : id ≠ 0) :
    Wanted (.ofFields fields) requested id ↔
      ∃ place column, (TypeTree.ofFields fields).columns[place]? = some column ∧
        column ∈ requested ∧ column ≤ id ∧ id.toNat < (TypeTree.ofFields fields).columnStop place := by
  constructor
  · rintro (root | ⟨column, member, wanted, reached⟩)
    · exact absurd root inner
    · obtain ⟨place, found⟩ := List.getElem?_of_mem member
      exact ⟨place, column, found, wanted,
        (TypeTree.column_reaches_iff small place column id found).mp reached⟩
  · rintro ⟨place, column, found, wanted, within⟩
    exact .inr ⟨column, List.mem_of_getElem? found, wanted,
      (TypeTree.column_reaches_iff small place column id found).mpr within⟩

end Inclusion

theorem requested_subtrees_are_included (tree : TypeTree) (valid : tree.Valid)
    (projection : Projection) :
    ∃ inclusion, Inclusion.ofProjection tree projection = .ok inclusion ∧
      (inclusion = .all ↔ projection.Unrestricted ∨
        ∀ id : UInt32, id.toNat < tree.nodes.length →
          Inclusion.Wanted tree projection.requested id) ∧
      (inclusion ≠ .all → ∃ flags, inclusion = .mask flags ∧ flags.length = tree.nodes.length) ∧
      (¬ projection.Unrestricted → ∀ id : UInt32, id.toNat < tree.nodes.length →
        (inclusion.includes id = true ↔ Inclusion.Wanted tree projection.requested id)) ∧
      (∀ fields, tree = .ofFields fields →
        tree.columns.Pairwise (· < ·) ∧
        (¬ projection.Unrestricted → ∀ id : UInt32, id ≠ 0 → id.toNat < tree.nodes.length →
          (inclusion.includes id = true ↔
            ∃ place column, tree.columns[place]? = some column ∧ column ∈ projection.requested ∧
              column ≤ id ∧ id.toNat < tree.columnStop place))) := by
  have numbered := (TypeTree.valid_iff_numbered tree).mp valid
  have small := TypeTree.nodes_small tree numbered
  have ascend (fields : List Field) (same : tree = .ofFields fields) :
      tree.columns.Pairwise (· < ·) := by
    rw [same] at small ⊢
    exact TypeTree.columns_ascend small
  by_cases unrestricted : projection.Unrestricted
  · refine ⟨.all, Projection.unrestricted_includes tree projection unrestricted, ?_, ?_, ?_, ?_⟩
    · exact iff_of_true rfl (.inl unrestricted)
    · intro other
      exact absurd rfl other
    · intro restricted
      exact absurd unrestricted restricted
    · intro fields same
      exact ⟨ascend fields same, fun restricted => absurd unrestricted restricted⟩
  · obtain ⟨flags, marks, length⟩ := Inclusion.flags_for_succeeds numbered projection.requested
    have includes (id : UInt32) (inside : id.toNat < tree.nodes.length) :
        (Inclusion.ofFlags flags).includes id = true ↔
          Inclusion.Wanted tree projection.requested id := by
      rw [Inclusion.includes_of_flags flags id (by omega)]
      exact Inclusion.flagged_iff_wanted numbered projection.requested flags marks id
    refine ⟨Inclusion.ofFlags flags, ?_, ?_, ?_, ?_, ?_⟩
    · rw [Projection.restricted_includes tree projection unrestricted, marks]
      rfl
    · rw [Inclusion.all_flagged_iff numbered projection.requested flags marks length]
      exact ⟨.inr, fun either => either.resolve_left unrestricted⟩
    · intro other
      exact ⟨flags, Inclusion.of_flags_not_all flags other, length⟩
    · intro _ id inside
      exact includes id inside
    · intro fields same
      refine ⟨ascend fields same, ?_⟩
      intro _ id inner inside
      rw [includes id inside]
      rw [same] at small ⊢
      exact Inclusion.schema_wanted_iff fields small projection.requested id inner

namespace Example

-- Two lists of one item node, and a node below nothing.
def tangledTree : TypeTree :=
  ⟨[⟨0, .struct, [1, 2], ["a", "b"]⟩, ⟨1, .list, [3], []⟩, ⟨2, .list, [3], []⟩, ⟨3, .int, [], []⟩,
    ⟨4, .int, [], []⟩]⟩

end Example

theorem shared_item_is_included :
    Example.tangledTree.Valid ∧
      ∃ inclusion, Inclusion.ofProjection Example.tangledTree (.columns [2]) = .ok inclusion ∧
        inclusion.includes 3 = true ∧ inclusion.includes 1 = false ∧ inclusion.includes 4 = false ∧
        ∃ flags, inclusion = .mask flags ∧ flags.length = 5 := by
  have valid : Example.tangledTree.Valid := rfl
  have numbered := (TypeTree.valid_iff_numbered Example.tangledTree).mp valid
  have restricted : ¬ (Projection.columns [2]).Unrestricted := by
    simp [Projection.Unrestricted]
  have walked (id : UInt32) : Example.tangledTree.Reaches 2 id ↔ id ∈ [2, 3] :=
    (TypeTree.mem_walk_iff numbered 5 2 id (by decide) (by decide)).symm
  have wanted (id : UInt32) :
      Inclusion.Wanted Example.tangledTree [2] id ↔ id = 0 ∨ id ∈ [2, 3] := by
    simp [Inclusion.Wanted, Example.tangledTree, TypeTree.columns, TypeTree.columns?, TypeTree.root?,
      ← walked id]
  obtain ⟨inclusion, includes, all, mask, included, _⟩ :=
    requested_subtrees_are_included Example.tangledTree valid (.columns [2])
  have holds (id : UInt32) (inside : id.toNat < 5) :
      inclusion.includes id = true ↔ id = 0 ∨ id ∈ [2, 3] :=
    (included restricted id inside).trans (wanted id)
  have outside : inclusion.includes 1 = false := by
    rw [Bool.eq_false_iff, ne_eq, holds 1 (by decide)]
    decide
  refine ⟨valid, inclusion, includes, (holds 3 (by decide)).mpr (by decide), outside, ?_, mask ?_⟩
  · rw [Bool.eq_false_iff, ne_eq, holds 4 (by decide)]
    decide
  · intro same
    rw [same] at outside
    cases outside

end Columnar
