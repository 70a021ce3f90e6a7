import Columnar.Projection

set_option autoImplicit false

namespace Columnar

inductive Inclusion where
  | all
  | mask (flags : List Bool)
deriving DecidableEq, Repr

namespace Inclusion

theorem count_false_set (flags : List Bool) (place : Nat) (unset : flags[place]? = some false) :
    (flags.set place true).count false < flags.count false := by
  induction flags generalizing place with
  | nil => simp at unset
  | cons flag rest ih =>
    cases place with
    | zero =>
      simp only [List.getElem?_cons_zero, Option.some.injEq] at unset
      subst unset
      simp
    | succ place =>
      have fewer := ih place (by simpa using unset)
      simp only [List.set_cons_succ, List.count_cons]
      omega

def isAll : Inclusion → Bool
  | .all => true
  | .mask _ => false

def flags? : Inclusion → Option (List Bool)
  | .all => none
  | .mask flags => some flags

def includes : Inclusion → UInt32 → Bool
  | .all, _ => true
  | .mask flags, id => (flags[id.toNat]?).getD false

def topLevel (inclusion : Inclusion) (tree : TypeTree) : List Bool :=
  tree.columns.map inclusion.includes

def childrenOf (tree : TypeTree) (id : UInt32) : List UInt32 :=
  ((tree.get? id).map (·.children)).getD []

-- Flags the pending nodes and everything below them. A node that is flagged already has been
-- dealt with.
def mark (tree : TypeTree) (flags : List Bool) (pending : List UInt32) :
    Except Failure (List Bool) :=
  match pending with
  | [] => .ok flags
  | id :: rest =>
    match _flag : flags[id.toNat]? with
    | none => .error .outOfRange
    | some true => mark tree flags rest
    | some false => mark tree (flags.set id.toNat true) (childrenOf tree id ++ rest)
termination_by (flags.count false, pending.length)
decreasing_by
  · exact Prod.Lex.right _ (Nat.lt_succ_self _)
  · exact Prod.Lex.left _ _ (count_false_set flags id.toNat _flag)

def flagsFor (tree : TypeTree) (requested : List UInt32) : Except Failure (List Bool) :=
  match tree.nodes with
  | [] => .error .outOfRange
  | _ :: rest =>
    mark tree (true :: rest.map fun _ => false) (tree.columns.filter requested.contains)

def ofFlags (flags : List Bool) : Inclusion := if flags.all id then .all else .mask flags

def ofProjection (tree : TypeTree) : Projection → Except Failure Inclusion
  | .all => .ok .all
  | .columns [] => .ok .all
  | .columns ids => (flagsFor tree ids).map ofFlags
  | .missing => (flagsFor tree []).map ofFlags

end Inclusion

end Columnar
