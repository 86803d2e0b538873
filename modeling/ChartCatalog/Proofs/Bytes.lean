import Mathlib.Algebra.BigOperators.Group.List.Basic

/-!
# Bytes in a frame

Readers of binary formats index into a byte string built as `pre ++ w ++ post`: the bytes
written before, the bytes of one item, and whatever follows. These lemmas read `w` back
from such a frame, one byte or a whole slice at a time, so that proofs about a reader
never depend on what surrounds the item they read.
-/

set_option autoImplicit false

namespace ChartCatalog

theorem get!_mk (l : List UInt8) (i : Nat) : (ByteArray.mk l.toArray).get! i = l[i]! := by
  simp [ByteArray.get!]

theorem getElem!_frame (pre w post : List UInt8) (i : Nat) (h : i < w.length) :
    (pre ++ w ++ post)[pre.length + i]! = w[i]! := by
  simp [List.getElem!_eq_getElem?_getD, List.getElem?_append_left, List.getElem?_append_right, h]

/-- The byte at offset `k` of an item in a frame. -/
theorem get!_frame (pre w post : List UInt8) (k : Nat) (h : k < w.length) :
    (ByteArray.mk (pre ++ w ++ post).toArray).get! (pre.length + k) = w[k]! := by
  rw [get!_mk, getElem!_frame pre w post k h]

/-- The first byte of an item in a frame. -/
theorem get!_frame_start (pre w post : List UInt8) (h : 0 < w.length) :
    (ByteArray.mk (pre ++ w ++ post).toArray).get! pre.length = w[0]! :=
  get!_frame pre w post 0 h

theorem extract_frame (pre w post : List UInt8) :
    (ByteArray.mk (pre ++ w ++ post).toArray).extract pre.length (pre.length + w.length) =
      ByteArray.mk w.toArray := by
  apply ByteArray.ext
  simp

theorem map_range_getElem! (w : List UInt8) : (List.range w.length).map (fun i => w[i]!) = w := by
  apply List.ext_getElem
  · simp
  · intro i inRange _
    simp at inRange
    simp [inRange]

theorem foldl_range_getElem! {β : Type} (w : List UInt8) (f : β → UInt8 → β) (a : β) :
    (List.range w.length).foldl (fun acc i => f acc w[i]!) a = w.foldl f a := by
  conv => rhs; rw [← map_range_getElem! w]
  rw [List.foldl_map]

/-- A list maps to at least as many bytes as it has elements when each takes one. -/
theorem length_le_length_flatMap {α : Type} (l : List α) (f : α → List UInt8)
    (nonempty : ∀ x ∈ l, 0 < (f x).length) : l.length ≤ (l.flatMap f).length := by
  rw [List.length_flatMap]
  have each : ∀ n ∈ l.map fun x => (f x).length, 1 ≤ n := by
    intro n member
    obtain ⟨x, present, rfl⟩ := List.mem_map.1 member
    exact nonempty x present
  simpa using List.length_le_sum_of_one_le _ each

end ChartCatalog
