import Columnar.Cbor.Item
import Columnar.Cbor.Skip

/-!
Records: maps whose keys are the names of fields. The fields come in any order, each once, and
entries with other names are ignored.
-/

set_option autoImplicit false

namespace Columnar.Cbor

def Item.record (fields : List (String × Item)) : Item :=
  .map (fields.map fun (name, content) => (.text name, content))

namespace Reader

abbrev Fields (σ : Type) := List (String × (σ → Reader σ))

def once {α σ : Type} (old : Option α) (store : α → σ) (reader : Reader α) : Reader σ :=
  match old with
  | some _ => fun _ => .error .unexpected
  | none => mapped store reader

def fieldEntry {σ : Type} (fields : Fields σ) (depth : Nat) (draft : σ) : Reader σ := fun bytes =>
  match name bytes with
  | .error fault => .error fault
  | .ok (key, rest) =>
    match fields.find? fun field => Bytes.ofText field.1 = key with
    | some (_, read) => read draft rest
    | none => mapped (fun () => draft) (skip depth) rest

def fields {σ τ : Type} (fields : Fields σ) (depth : Nat) (empty : σ) (complete : σ → Option τ) :
    Reader τ :=
  checked complete (record (fieldEntry fields depth) empty)

end Reader

end Columnar.Cbor
