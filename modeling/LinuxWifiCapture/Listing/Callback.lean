import LinuxWifiCapture.Listing.Heap

/-!
# `list_callback`

`list_callback` answers the framework's list command.  It reads `/sys/class/net/`, keeps every
entry on which `iwconfig_get_channel` returns a positive channel, pushes a `wifi_list_t` record
for each on the front of the list `devs`, and counts them in `num_devs`.  It then `malloc`s the
arrays `*interfaces` and `*flags` of `num_devs` slots, drains the list into them from index 0,
freeing each record, and returns `num_devs`.

## The record that is never allocated

The loop gets its record with

    wifi_list_t *d = (wifi_list_t *) sizeof(wifi_list_t);

a cast of the number 24 to a pointer, where a `malloc` was meant.  The next statement stores
through it, into the first page, which Linux never maps: the first wireless device kills the
process with `SIGSEGV` (`listCallback_eq`).  A machine without one gets 0 and two `NULL`s.

## The model

The listing is `none` when `opendir` fails, otherwise every name `readdir` returns, in order,
with what `iwconfig_get_channel` returns for it.  The drain loop is modelled as the source
has it, though no run of `list_callback` reaches it with a record.
-/

namespace LinuxWifiCapture

/-- `(*arr)[i] = v` in a `malloc`ed array of `char *`; a slot is `none` until it is written. -/
def storeSlot (arr : List (Option (Option String))) (i : Nat) (v : Option String) :
    Except Fault (List (Option (Option String))) :=
  if i < arr.length then .ok (arr.set i (some v)) else .error (.overflow i)

/-- `return num_devs;`: a `size_t` returned as an `int`, its low 32 bits in two's
complement. -/
def sizeToInt (n : Nat) : Int :=
  if n % 2 ^ 32 < 2 ^ 31 then (n % 2 ^ 32 : Nat) else (n % 2 ^ 32 : Nat) - 2 ^ 32

/-- The variables of the `readdir` loop: the heap, `devs` and `num_devs`. -/
structure ListState where
  heap : Heap
  devs : Nat
  numDevs : Nat

/-- One pass of the `readdir` loop over an entry and what `iwconfig_get_channel` returned for
it.  The record is `(wifi_list_t *) sizeof (wifi_list_t)`: the address 24, allocated by no
one. -/
def listStep (st : ListState) (entry : String × Int) : Except Fault ListState :=
  if 0 < entry.2 then
    let d := wifiListSize
    do
      let heap ← st.heap.store d fun c => { c with device := some entry.1 }
      let heap ← heap.store d fun c => { c with flags := none }
      let heap ← heap.store d fun c => { c with next := st.devs }
      pure ⟨heap, d, st.numDevs + 1⟩
  else pure st

/-- The drain loop from `devs` at index `i`: the record's name and flags go to slot `i` of the
two arrays, the record is freed, and the loop goes on from its `next`. -/
def drainList (heap : Heap) (devs : Nat) (i : UInt32)
    (interfaces flags : List (Option (Option String))) :
    Except Fault (Heap × List (Option (Option String)) × List (Option (Option String))) :=
  if devs = 0 then .ok (heap, interfaces, flags)
  else
    match hc : heap.lookup devs with
    | none => .error (.segv devs)
    | some c => do
      let interfaces ← storeSlot interfaces i.toNat c.device
      let flags ← storeSlot flags i.toNat c.flags
      drainList (heap.free devs) c.next (i + 1) interfaces flags
termination_by heap.cells.length
decreasing_by exact heap.length_free_lt hc

/-- What `list_callback` leaves: its return value, `*interfaces` and `*flags` (`none` for
`NULL`), and the heap. -/
structure ListResult where
  ret : Int
  interfaces : Option (List (Option (Option String)))
  flags : Option (List (Option (Option String)))
  heap : Heap

/-- `list_callback`. -/
def listCallback (listing : Option (List (String × Int))) (heap : Heap) :
    Except Fault ListResult :=
  match listing with
  | none => .ok ⟨0, none, none, heap⟩
  | some entries => do
    let st ← entries.foldlM listStep ⟨heap, 0, 0⟩
    if st.numDevs = 0 then pure ⟨0, none, none, st.heap⟩
    else
      let (heap, interfaces, flags) ← drainList st.heap st.devs 0
        (List.replicate st.numDevs none) (List.replicate st.numDevs none)
      pure ⟨sizeToInt st.numDevs, some interfaces, some flags, heap⟩

/-- The names of the entries whose probe is positive, in listing order. -/
def probedNames (entries : List (String × Int)) : List String :=
  (entries.filter fun e => 0 < e.2).map Prod.fst

@[simp] theorem probedNames_nil : probedNames [] = [] := rfl

theorem probedNames_cons_of_pos {e : String × Int} (he : 0 < e.2) (entries : List (String × Int)) :
    probedNames (e :: entries) = e.1 :: probedNames entries := by
  simp [probedNames, List.filter_cons, he]

theorem probedNames_cons_of_nonpos {e : String × Int} (he : ¬0 < e.2)
    (entries : List (String × Int)) : probedNames (e :: entries) = probedNames entries := by
  simp [probedNames, List.filter_cons, he]

/-! ## The `readdir` loop -/

/-- An entry whose probe is not positive changes nothing. -/
theorem listStep_of_nonpos (st : ListState) {e : String × Int} (he : ¬0 < e.2) :
    listStep st e = .ok st := by
  simp only [listStep, if_neg he]
  rfl

/-- The record lies in the first page: the store of its name faults. -/
theorem listStep_of_pos (st : ListState) {e : String × Int} (he : 0 < e.2) :
    listStep st e = .error (.segv wifiListSize) := by
  simp only [listStep, if_pos he]
  rw [st.heap.store_of_lookup_none _ (st.heap.lookup_of_lt_min (by decide))]
  rfl

theorem foldlM_listStep (entries : List (String × Int)) (st : ListState) :
    entries.foldlM listStep st =
      if probedNames entries = [] then .ok st else .error (.segv wifiListSize) := by
  induction entries generalizing st with
  | nil => rfl
  | cons e entries ih =>
    rw [List.foldlM_cons]
    by_cases he : 0 < e.2
    · rw [listStep_of_pos st he, probedNames_cons_of_pos he, if_neg (List.cons_ne_nil _ _)]
      rfl
    · rw [listStep_of_nonpos st he, probedNames_cons_of_nonpos he, ← ih]
      rfl

/-! ## `list_callback` -/

/-- **The record that is never allocated.**  For every listing of `/sys/class/net` and every
heap: `list_callback` returns 0 with `*interfaces` and `*flags` `NULL` when no entry's probe is
positive, and otherwise dies at the first wireless device, storing its name through the address
`sizeof (wifi_list_t)`. -/
theorem listCallback_eq (entries : List (String × Int)) (heap : Heap) :
    listCallback (some entries) heap =
      if probedNames entries = [] then .ok ⟨0, none, none, heap⟩
      else .error (.segv wifiListSize) := by
  simp only [listCallback, foldlM_listStep]
  split_ifs <;> rfl

end LinuxWifiCapture
