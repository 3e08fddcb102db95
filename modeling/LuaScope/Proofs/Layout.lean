import LuaScope.Proofs.Alignment
import LuaScope.Proofs.Utf8
import LuaScope.Value
import LuaScope.Version

/-!
This module contains the bytes that the runtime has for a value in its memory. They follow the rules
of a C compiler: every field is put at the next multiple of its size, and nothing is known about the
bytes between the fields.
-/

namespace LuaScope

variable (fill : Nat → UInt8)

def padTo (n : Nat) (image : List UInt8) : List UInt8 :=
  image ++ (List.range (n - image.length)).map fun i => fill (image.length + i)

theorem length_padTo {n : Nat} {image : List UInt8} (h : image.length ≤ n) :
    (padTo fill n image).length = n := by
  simp only [padTo, List.length_append, List.length_map, List.length_range]
  omega

theorem padTo_length (image : List UInt8) : padTo fill image.length image = image := by
  simp [padTo]

def put (image field : List UInt8) : List UInt8 :=
  padTo fill (roundUp image.length field.length) image ++ field

def layOut (fields : List (List UInt8)) : List UInt8 :=
  fields.foldl (put fill) []

theorem length_put {image field : List UInt8} (h : 0 < field.length) :
    (put fill image field).length = roundUp image.length field.length + field.length := by
  rw [put, List.length_append, length_padTo fill (le_roundUp h)]

theorem length_foldl_put {fields : List (List UInt8)} (h : ∀ field ∈ fields, 0 < field.length)
    (image : List UInt8) :
    (fields.foldl (put fill) image).length =
      (fields.map List.length).foldl (fun n size => roundUp n size + size) image.length := by
  induction fields generalizing image with
  | nil => rfl
  | cons field fields ih =>
    have hfield := h field (by simp)
    have hrest : ∀ f ∈ fields, 0 < f.length := fun f hf => h f (by simp [hf])
    simp only [List.foldl_cons, List.map_cons]
    rw [ih hrest, length_put fill hfield]

theorem length_layOut {fields : List (List UInt8)} (h : ∀ field ∈ fields, 0 < field.length) :
    (layOut fill fields).length = extent (fields.map List.length) :=
  length_foldl_put fill h []

theorem prefix_foldl_put (fields : List (List UInt8)) (image : List UInt8) :
    image <+: fields.foldl (put fill) image := by
  induction fields generalizing image with
  | nil => exact List.prefix_rfl
  | cons field fields ih =>
    have hput : image <+: put fill image field := by
      unfold put padTo
      rw [List.append_assoc]
      apply List.prefix_append _ _
    apply List.IsPrefix.trans hput (ih _)

theorem prefix_drop_layOut {fields : List (List UInt8)} {field : List UInt8} {i o : Nat}
    (hpos : ∀ f ∈ fields, 0 < f.length) (hfield : fields[i]? = some field)
    (ho : roundUp (extent ((fields.take i).map List.length)) field.length = o) :
    field <+: (layOut fill fields).drop o := by
  rcases List.getElem?_eq_some_iff.mp hfield with ⟨hi, hget⟩
  -- the fields behind this one only append, so it stays where it was put
  have hsplit : fields = fields.take i ++ field :: fields.drop (i + 1) := by
    rw [← hget, ← List.drop_eq_getElem_cons hi, List.take_append_drop]
  have hfold : layOut fill fields =
      (fields.drop (i + 1)).foldl (put fill) (put fill (layOut fill (fields.take i)) field) := by
    conv => lhs; rw [hsplit]
    simp [layOut]
  have hbefore : ∀ f ∈ fields.take i, 0 < f.length := by
    intro f hf
    apply hpos f (List.mem_of_mem_take hf)
  have hle := le_roundUp (n := (layOut fill (fields.take i)).length)
    (hpos field (List.mem_of_getElem? hfield))
  obtain ⟨rest, hrest⟩ := prefix_foldl_put fill (fields.drop (i + 1))
    (put fill (layOut fill (fields.take i)) field)
  rw [hfold, ← hrest, put, List.append_assoc, ← ho, ← length_layOut fill hbefore,
    List.drop_left' (length_padTo fill hle)]
  apply List.prefix_append

end LuaScope
