import Columnar.FileSystem.Path

set_option autoImplicit false

namespace Columnar.Path

theorem bytes_up_to_total (a b : Bytes) : bytesUpTo a b = true ∨ bytesUpTo b a = true := by
  induction a generalizing b with
  | nil => exact .inl rfl
  | cons first rest ih =>
    cases b with
    | nil => exact .inr rfl
    | cons other more =>
      simp only [bytesUpTo, Bool.or_eq_true, Bool.and_eq_true, beq_iff_eq, decide_eq_true_eq]
      by_cases same : first = other
      · obtain forth | back := ih more
        · exact .inl (.inr ⟨same, forth⟩)
        · exact .inr (.inr ⟨same.symm, back⟩)
      · exact (UInt8.lt_or_lt_of_ne same).imp .inl .inl

theorem bytes_up_to_trans (a b c : Bytes) (first : bytesUpTo a b = true)
    (second : bytesUpTo b c = true) : bytesUpTo a c = true := by
  induction a generalizing b c with
  | nil => rfl
  | cons x xs ih =>
    cases b with
    | nil => cases first
    | cons y ys =>
      cases c with
      | nil => cases second
      | cons z zs =>
        simp only [bytesUpTo, Bool.or_eq_true, Bool.and_eq_true, beq_iff_eq,
          decide_eq_true_eq] at first second ⊢
        obtain less | ⟨same, behind⟩ := first
        · obtain more | ⟨also, _⟩ := second
          · exact .inl (UInt8.lt_trans less more)
          · exact .inl (also ▸ less)
        · obtain more | ⟨also, last⟩ := second
          · exact .inl (same ▸ more)
          · exact .inr ⟨same.trans also, ih ys zs behind last⟩

theorem bytes_up_to_antisymm (a b : Bytes) (first : bytesUpTo a b = true)
    (second : bytesUpTo b a = true) : a = b := by
  induction a generalizing b with
  | nil =>
    cases b with
    | nil => rfl
    | cons y ys => cases second
  | cons x xs ih =>
    cases b with
    | nil => cases first
    | cons y ys =>
      simp only [bytesUpTo, Bool.or_eq_true, Bool.and_eq_true, beq_iff_eq,
        decide_eq_true_eq] at first second
      obtain less | ⟨same, behind⟩ := first
      · obtain more | ⟨also, _⟩ := second
        · exact absurd more (UInt8.lt_asymm less)
        · exact absurd less (also ▸ UInt8.lt_irrefl x)
      · obtain more | ⟨_, last⟩ := second
        · exact absurd more (same ▸ UInt8.lt_irrefl x)
        · rw [same, ih ys behind last]

theorem Component.up_to_total (a b : Component) : a.upTo b = true ∨ b.upTo a = true := by
  cases a <;> cases b <;> simp [upTo, place]
  case name first second => exact bytes_up_to_total first second

theorem Component.up_to_trans (a b c : Component) (first : a.upTo b = true)
    (second : b.upTo c = true) : a.upTo c = true := by
  cases a <;> cases b <;> cases c <;> simp_all [upTo, place]
  case name x y z => exact bytes_up_to_trans x y z first second

theorem Component.up_to_antisymm (a b : Component) (first : a.upTo b = true)
    (second : b.upTo a = true) : a = b := by
  cases a <;> cases b <;> simp_all [upTo, place]
  case name x y => exact bytes_up_to_antisymm x y first second

theorem components_up_to_total (a b : List Component) :
    componentsUpTo a b = true ∨ componentsUpTo b a = true := by
  induction a generalizing b with
  | nil => exact .inl rfl
  | cons first rest ih =>
    cases b with
    | nil => exact .inr rfl
    | cons other more =>
      by_cases same : first = other
      · simp only [componentsUpTo, same, if_true]
        exact ih more
      · simp only [componentsUpTo, if_neg same, if_neg (Ne.symm same)]
        exact first.up_to_total other

theorem components_up_to_trans (a b c : List Component) (first : componentsUpTo a b = true)
    (second : componentsUpTo b c = true) : componentsUpTo a c = true := by
  induction a generalizing b c with
  | nil => rfl
  | cons x xs ih =>
    cases b with
    | nil => cases first
    | cons y ys =>
      cases c with
      | nil => cases second
      | cons z zs =>
        rw [componentsUpTo] at first second ⊢
        by_cases same : x = y
        · subst same
          rw [if_pos rfl] at first
          by_cases also : x = z
          · rw [if_pos also] at second ⊢
            exact ih ys zs first second
          · rw [if_neg also] at second ⊢
            exact second
        · rw [if_neg same] at first
          by_cases also : y = z
          · rw [if_neg (also ▸ same), ← also]
            exact first
          · rw [if_neg also] at second
            have apart : x ≠ z := by
              intro here
              subst here
              exact same (x.up_to_antisymm y first second)
            rw [if_neg apart]
            exact x.up_to_trans y z first second

theorem up_to_total (a b : Path) : upTo a b = true ∨ upTo b a = true :=
  components_up_to_total _ _

theorem up_to_trans (a b c : Path) (first : upTo a b = true) (second : upTo b c = true) :
    upTo a c = true :=
  components_up_to_trans _ _ _ first second

theorem merge_sort_sorted (paths : List Path) :
    (paths.mergeSort upTo).Pairwise fun a b => upTo a b = true :=
  List.pairwise_mergeSort up_to_trans
    (fun a b => by rw [Bool.or_eq_true]; exact up_to_total a b) paths

end Columnar.Path
