import Columnar.FileSystem

set_option autoImplicit false

namespace Columnar

theorem Content.overwrite_end (content : Content) (bytes : Bytes) :
    (content.overwrite content.length bytes).toBytes = content.toBytes ++ bytes := by
  by_cases blank : bytes.isEmpty = true
  · rw [overwrite, if_pos blank, List.isEmpty_iff.mp blank, List.append_nil]
  · have filled : content.slice 0 content.length = content.toBytes := by
      rw [content.slice_eq, List.drop_zero, List.take_of_length_le]
      exact Nat.le_of_eq content.length_toBytes
    have nothing : (content.bytes.extract (content.length + bytes.length) content.bytes.size).toList =
        [] := by
      rw [Array.toList_extract, List.extract_eq_take_drop, List.drop_eq_nil_of_le, List.take_nil]
      rw [Array.length_toList, length]
      omega
    have behind : content.length - (content.toBytes ++ bytes).length = 0 := by
      rw [List.length_append, content.length_toBytes]
      omega
    simp only [overwrite, if_neg blank, filled, nothing, content.length_toBytes, Nat.sub_self,
      List.replicate_zero, List.append_nil, List.size_toArray, behind]
    simp only [toBytes, List.replicate_zero, List.append_nil]

namespace FileSystem

theorem put_root (files : FileSystem) (id : Nat) (content : Content) :
    (files.put id content).root = files.root := by
  rw [put]
  split <;> rfl

theorem put_home (files : FileSystem) (id : Nat) (content : Content) :
    (files.put id content).home = files.home := by
  rw [put]
  split <;> rfl

theorem put_contents (files : FileSystem) (id : Nat) (content : Content) :
    (files.put id content).contents.getD id .empty = content := by
  by_cases known : id < files.contents.size
  · simp only [put, if_pos known]
    rw [Array.getD_eq_getD_getElem?, Array.setIfInBounds_def, dif_pos known,
      Array.getElem?_set_self, Option.getD_some]
  · simp only [put, if_neg known]
    have here : (files.contents ++ Array.replicate (id - files.contents.size) Content.empty).size = id := by
      rw [Array.size_append, Array.size_replicate]
      omega
    rw [Array.getD_eq_getD_getElem?, Array.getElem?_push, if_pos here.symm, Option.getD_some]

theorem write_at_end (files : FileSystem) (id : Nat) (held bytes : Bytes)
    (before : (files.contents.getD id .empty).toBytes = held) :
    ((files.writeAt id held.length bytes).contents.getD id .empty).toBytes = held ++ bytes := by
  have length : held.length = (files.contents.getD id .empty).length := by
    rw [← before, Content.length_toBytes]
  rw [writeAt, change, put_contents, length, Content.overwrite_end, before]

theorem write_at_root (files : FileSystem) (id offset : Nat) (bytes : Bytes) :
    (files.writeAt id offset bytes).root = files.root :=
  put_root _ _ _

theorem write_at_home (files : FileSystem) (id offset : Nat) (bytes : Bytes) :
    (files.writeAt id offset bytes).home = files.home :=
  put_home _ _ _

end FileSystem

end Columnar
