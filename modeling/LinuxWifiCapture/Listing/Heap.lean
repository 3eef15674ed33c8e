import Mathlib.Data.List.Basic
import Mathlib.Algebra.Group.Int

/-!
# The memory `list_callback` runs in

`list_callback` builds a singly linked list of `wifi_list_t` records, one per wireless device,
then copies it into two arrays and frees it.  This file is the memory the model runs it in.

* `Heap` holds the `wifi_list_t` cells by address, and nothing lies in the first page
  (`mmapMinAddr`): Linux keeps page zero unmapped.  That fact is a field of the structure.
* A load or a store through an address that holds no cell is a fault (`Fault.segv`): the
  process dies of `SIGSEGV`.  A store into a `malloc`ed array at or past its end is a fault
  too (`Fault.overflow`), so a run that ends without a fault wrote inside its arrays only.
-/

namespace LinuxWifiCapture

/-- `sizeof (wifi_list_t)` on an LP64 target: three pointers. -/
def wifiListSize : Nat := 24

/-- The lowest address Linux maps in a process (`vm.mmap_min_addr`, one page). -/
def mmapMinAddr : Nat := 4096

/-- `struct wifi_list`: the `strdup`ed name of the device and its flags (`none` for `NULL`),
and the address of the next record (`0` for `NULL`). -/
structure WifiList where
  device : Option String
  flags : Option String
  next : Nat
  deriving DecidableEq, Repr

/-- The `wifi_list_t` cells of the process by address.  No cell lies in the first page. -/
structure Heap where
  cells : List (Nat × WifiList)
  mapped : ∀ p ∈ cells, mmapMinAddr ≤ p.1

/-- How a run goes wrong. -/
inductive Fault
  /-- A load or a store through an address that holds no cell: `SIGSEGV`. -/
  | segv (addr : Nat)
  /-- A store at an index at or past the end of a `malloc`ed array. -/
  | overflow (index : Nat)
  deriving DecidableEq, Repr

namespace Heap

/-- The cell at `a`, if there is one. -/
def lookup (h : Heap) (a : Nat) : Option WifiList := h.cells.lookup a

/-- The heap after a store into the cell at `a`; `f` rewrites the field stored. -/
def update (h : Heap) (a : Nat) (f : WifiList → WifiList) : Heap where
  cells := h.cells.map fun p => if p.1 = a then (a, f p.2) else p
  mapped := by
    simp only [List.mem_map]
    rintro _ ⟨q, hq, rfl⟩
    split_ifs with hqa
    · rw [← hqa]
      exact h.mapped q hq
    · exact h.mapped q hq

/-- A store through `a`: a fault unless `a` holds a cell. -/
def store (h : Heap) (a : Nat) (f : WifiList → WifiList) : Except Fault Heap :=
  if (h.lookup a).isSome then .ok (h.update a f) else .error (.segv a)

/-- `free (a)`. -/
def free (h : Heap) (a : Nat) : Heap where
  cells := h.cells.filter (·.1 != a)
  mapped := fun p hp => h.mapped p (List.mem_of_mem_filter hp)

/-! ## Loads and stores in the first page -/

variable (h : Heap) {a : Nat} {c : WifiList}

theorem mapped_of_lookup (hc : h.lookup a = some c) : mmapMinAddr ≤ a := by
  obtain ⟨l₁, l₂, hl, -⟩ := List.lookup_eq_some_iff.mp hc
  exact h.mapped (a, c) (hl ▸ List.mem_append_right _ (List.mem_cons_self _ _))

/-- Nothing lies in the first page. -/
theorem lookup_of_lt_min (ha : a < mmapMinAddr) : h.lookup a = none := by
  cases hc : h.lookup a with
  | none => rfl
  | some c => exact absurd (h.mapped_of_lookup hc) (by omega)

theorem store_of_lookup_none (f : WifiList → WifiList) (ha : h.lookup a = none) :
    h.store a f = .error (.segv a) := by
  simp [store, ha]

/-- Freeing a cell leaves fewer cells: the measure of the drain loop. -/
theorem length_free_lt (hc : h.lookup a = some c) : (h.free a).cells.length < h.cells.length := by
  obtain ⟨l₁, l₂, hl, -⟩ := List.lookup_eq_some_iff.mp hc
  exact List.length_filter_lt_length_iff_exists.mpr
    ⟨(a, c), hl ▸ List.mem_append_right _ (List.mem_cons_self _ _), by simp⟩

end Heap

end LinuxWifiCapture
