import LinuxWifiCapture.Open.Callback

/-!
# NetworkManager: what the open takes and `main` gives back

When the binary is built with libnm, `open_callback` looks the interface up among
NetworkManager's devices.  If NetworkManager manages it, the callback sets
`reset_nm_management` and tells NetworkManager to let go of it
(`nm_device_set_managed (device, 0)`).  After the framework's loop `main` reads the flag
and, when it is set, asks NetworkManager to manage the interface of the userdata again.
That hand-back is only right if the flag and the release agree: the flag is set exactly when
a device was let go of, and the device let go of is the userdata's interface
(`NmConsistent`).

## Why this is a triple

`nmPhase` sets the flag first and makes the release two steps later, so between the two
the flag is set and no device has been let go of yet.  No fact that holds after every step
can say "the flag means a release".  The proof therefore states what each part of the
callback does to NetworkManager's part of the state (`nmView`): the phases before and after
`nmPhase` leave it alone (`Keeps`), and `nmPhase` as a whole takes an untouched view to a
consistent one (`nmPhase_triple`, an `OpenM.Triple`).

## Results

* `nmConsistent_openCallback`: from a userdata with the flag clear, `main`'s included, every
  open leaves the flag and the releases consistent, whether it returns 1 or -1.
* `mainNmReset_of_nmConsistent`: on a consistent state, and a NetworkManager that runs when
  `main` ends, `main` hands back exactly the interfaces the open let go of that
  NetworkManager still lists.
-/

namespace LinuxWifiCapture

open OpenM

/-- The interface a call tells NetworkManager to let go of, if it is such a call. -/
def OpenCall.released : OpenCall → Option String
  | .nmSetUnmanaged i => some i
  | _ => none

/-- The interfaces the calls so far told NetworkManager to let go of, in order. -/
def nmReleased (calls : List OpenCall) : List String := calls.filterMap OpenCall.released

theorem mem_nmReleased {calls : List OpenCall} {i : String} :
    i ∈ nmReleased calls ↔ .nmSetUnmanaged i ∈ calls := by
  simp only [nmReleased, List.mem_filterMap]
  constructor
  · rintro ⟨c, hc, hrel⟩
    cases c <;> simp only [OpenCall.released, reduceCtorEq, Option.some.injEq] at hrel
    exact hrel ▸ hc
  · exact fun h => ⟨_, h, rfl⟩

/-- NetworkManager's part of a state: the flag, the userdata's interface and the releases. -/
def nmView (s : OpenState) : Int × Option String × List String :=
  (s.wifi.resetNmManagement, s.wifi.interface, nmReleased s.calls)

/-- The flag is set exactly when a device was let go of, and every device let go of is the
userdata's interface. -/
def NmConsistent (s : OpenState) : Prop :=
  (s.wifi.resetNmManagement ≠ 0 ↔ nmReleased s.calls ≠ []) ∧
    ∀ i ∈ nmReleased s.calls, s.wifi.interface = some i

theorem NmConsistent.of_nmView {s s' : OpenState} (h : nmView s' = nmView s)
    (hs : NmConsistent s) : NmConsistent s' := by
  simp only [nmView, Prod.mk.injEq] at h
  obtain ⟨h₁, h₂, h₃⟩ := h
  unfold NmConsistent
  rw [h₁, h₂, h₃]
  exact hs

/-- A state with the flag clear and no release is consistent. -/
theorem NmConsistent.of_untouched {s : OpenState} (h₀ : s.wifi.resetNmManagement = 0)
    (hnil : nmReleased s.calls = []) : NmConsistent s := by
  simp [NmConsistent, h₀, hnil]

/-! ## The steps that leave NetworkManager alone -/

section View

variable {v : Int × Option String × List String}

theorem Keeps.call_nmView {c : OpenCall} (hc : c.released = none) :
    Keeps (fun s => nmView s = v) (call c) := by
  intro s hs
  rw [← hs]
  simp [nmView, call, Outcome.state, nmReleased, List.filterMap_append, hc]

theorem Keeps.modifyWifi_nmView {f : LocalWifi → LocalWifi}
    (hf : ∀ w, (f w).resetNmManagement = w.resetNmManagement ∧ (f w).interface = w.interface) :
    Keeps (fun s => nmView s = v) (modifyWifi f) := by
  intro s hs
  rw [← hs]
  simp [nmView, modifyWifi, Outcome.state, hf]

variable (env : Env) (definition : Definition)

theorem rfkillPhase_nmView (interface : String) :
    Keeps (fun s => nmView s = v) (rfkillPhase env interface) :=
  rfkillPhase_keeps_of env (fun _ => Keeps.call_nmView rfl) (Keeps.call_nmView rfl)

theorem capPhase_nmView (interface : String) (hwaddr : MacAddr) (mode : Int) :
    Keeps (fun s => nmView s = v) (capPhase env.world definition interface hwaddr mode) :=
  capPhase_keeps_of env definition (fun _ => Keeps.modifyWifi_nmView fun _ => ⟨rfl, rfl⟩) _ _ _

theorem openFinish_nmView (interface cap : String) :
    Keeps (fun s => nmView s = v) (openFinish env definition interface cap) :=
  have hnl : ∀ h c f, Keeps (fun s => nmView s = v) (modifyWifi fun w =>
      { w with mac80211Handle := h, mac80211Cache := c, mac80211Family := f }) :=
    fun _ _ _ => Keeps.modifyWifi_nmView fun _ => ⟨rfl, rfl⟩
  (monitorPhase_keeps_of env definition (fun _ => Keeps.call_nmView rfl) hnl
    (Keeps.call_nmView rfl) fun _ =>
    ⟨vifPhase_keeps_of env definition (fun _ => Keeps.call_nmView rfl) hnl
      (Keeps.call_nmView rfl) (fun _ => Keeps.call_nmView rfl) (Keeps.call_nmView rfl)
      (Keeps.modifyWifi_nmView fun _ => ⟨rfl, rfl⟩),
      setModePhase_keeps_of env (fun _ => Keeps.call_nmView rfl)
        (Keeps.call_nmView rfl)⟩).bind fun _ =>
  (bringUpPhase_keeps_of env definition (fun _ => Keeps.call_nmView rfl) (Keeps.call_nmView rfl)
    (Keeps.call_nmView rfl)).bind fun _ =>
  capturePhase_keeps_of env (fun _ _ hs => hs) (Keeps.call_nmView rfl)
    (fun _ => Keeps.modifyWifi_nmView fun _ => ⟨rfl, rfl⟩)
    fun _ => Keeps.modifyWifi_nmView fun _ => ⟨rfl, rfl⟩

end View

/-- A fact of NetworkManager's part alone survives a phase that leaves that part alone. -/
theorem Keeps.of_nmView {α : Type} {Q : OpenState → Prop} {m : OpenM α}
    (hm : ∀ v, Keeps (fun s => nmView s = v) m) (hQ : ∀ s s', nmView s' = nmView s → Q s → Q s') :
    Keeps Q m :=
  fun s hs => hQ s _ (hm (nmView s) s rfl) hs

/-! ## The NetworkManager block -/

/-- **The release, as a whole.**  From an untouched view of the interface, `nmPhase` leaves
the flag and the releases consistent: set with one release of the interface when
NetworkManager manages it, clear with none otherwise. -/
theorem nmPhase_triple (env : Env) (interface : String) :
    Triple (fun s => nmView s = (0, some interface, [])) (nmPhase env interface)
      NmConsistent NmConsistent := by
  have hmsg : ∀ text flag, Keeps (fun s => nmView s = (0, some interface, []))
      (message text flag) := fun _ _ => Keeps.message_of (fun _ => Keeps.call_nmView rfl) _ _
  have hU : ∀ s, nmView s = (0, some interface, []) → NmConsistent s := fun s hs => by
    simp only [nmView, Prod.mk.injEq] at hs
    exact NmConsistent.of_untouched hs.1 hs.2.2
  unfold nmPhase
  split
  · exact Triple.of_state hU
  · split
    · exact Triple.of_state fun s hs => hU _ (hmsg _ _ s hs)
    · exact Triple.of_state fun s hs => hU _ (hmsg _ _ s hs)
    · split
      · exact Triple.of_state hU
      · next managed _ =>
        refine Triple.of_state fun s hs => ?_
        simp only [nmView, nmReleased, Prod.mk.injEq] at hs
        obtain ⟨h₀, hif, hnil⟩ := hs
        cases managed <;> simp [NmConsistent, modifyWifi, message, call, Outcome.state,
          nmReleased, List.filterMap_append, hnil, OpenCall.released, hif]

/-- What `openPrepare` leaves, from a state with the flag clear and no release: a
consistent one, whichever way it ends. -/
theorem openPrepare_triple (env : Env) (definition : Definition) :
    Triple (fun s => s.wifi.resetNmManagement = 0 ∧ nmReleased s.calls = [])
      (openPrepare env definition) NmConsistent NmConsistent := by
  have hF : ∀ s, nmView s = (0, some definition.interface, []) → NmConsistent s := by
    intro s hs
    simp only [nmView, Prod.mk.injEq] at hs
    exact NmConsistent.of_untouched hs.1 hs.2.2
  unfold openPrepare
  refine Triple.ite (Triple.abort (fun s hs => NmConsistent.of_untouched hs.1 hs.2) _) ?_
  refine Triple.bind (Q := fun s => nmView s = (0, some definition.interface, []))
    (fun s hs => by simp [modifyWifi, nmView, hs.1, hs.2]) fun _ => ?_
  refine (Triple.of_keeps (Keeps.orAbort _ _) hF).bind fun _ => ?_
  refine (Triple.of_keeps (rfkillPhase_nmView env _) hF).bind fun _ => ?_
  refine (Triple.of_keeps (fun _ hs => hs) hF).bind fun _ => ?_
  refine (Triple.of_keeps (Keeps.orAbort _ _) hF).bind fun _ => ?_
  exact (nmPhase_triple env _).bind fun _ => Triple.pure _

/-- **The open keeps the flag honest.**  For every machine and definition, from a userdata
with `reset_nm_management` clear, `main`'s included, the state `open_callback` leaves,
whether it returns 1 or -1, has the flag set exactly when it told NetworkManager to let go
of a device, and that device is the userdata's interface. -/
theorem nmConsistent_openCallback (env : Env) (definition : Definition) (wifi : LocalWifi)
    (h₀ : wifi.resetNmManagement = 0) : NmConsistent (openCallback env definition wifi).state := by
  have hkeep : ∀ {α : Type} (m : OpenM α), (∀ v, Keeps (fun s => nmView s = v) m) →
      Keeps NmConsistent m :=
    fun _ hm => Keeps.of_nmView hm fun _ _ h hs => hs.of_nmView h
  rw [openCallback_state]
  refine Triple.state ((openPrepare_triple env definition).bind fun x => ?_) ⟨h₀, rfl⟩
  obtain ⟨interface, hwaddr, mode⟩ := x
  refine Triple.of_keeps (Keeps.bind ?_ fun _ => ?_) fun _ h => h
  · exact hkeep _ fun _ => capPhase_nmView env definition _ _ _
  · exact hkeep _ fun _ => openFinish_nmView env definition _ _

/-! ## The end of `main` -/

/-- The end of `main`: when `reset_nm_management` is set and NetworkManager runs, the first
device it lists under the userdata's interface is told to be managed again.  The value is
the interface handed back; `none` when the binary is built without libnm, or when nothing
is handed back. -/
def mainNmReset (nm : Option NmAnswer) (wifi : LocalWifi) : Option String :=
  match nm with
  | none => none
  | some nm =>
    if wifi.resetNmManagement = 0 then none
    else
      match nm.client with
      | .error _ => none
      | .ok () =>
        if nm.running then
          ((nm.devices.getD []).find? fun d => some d.1 == wifi.interface).map (·.1)
        else none

/-- **`main` hands back what was taken.**  On a consistent state, when NetworkManager runs as
`main` ends, `main` hands back an interface exactly when the open let go of it and
NetworkManager still lists it. -/
theorem mainNmReset_of_nmConsistent {s : OpenState} (hs : NmConsistent s) {nm : NmAnswer}
    (hclient : nm.client = .ok ()) (hrunning : nm.running = true) (i : String) :
    mainNmReset (some nm) s.wifi = some i ↔
      .nmSetUnmanaged i ∈ s.calls ∧ ((nm.devices.getD []).find? (·.1 == i)).isSome := by
  obtain ⟨hflag, hif⟩ := hs
  have hlook : ∀ j, s.wifi.interface = some j →
      ((nm.devices.getD []).find? fun d => some d.1 == s.wifi.interface) =
        (nm.devices.getD []).find? (·.1 == j) := by
    intro j hj
    rw [hj]
    rfl
  simp only [mainNmReset, hclient, hrunning, if_true]
  constructor
  · intro h
    split at h
    · cases h
    · next h₀ =>
      obtain ⟨j, hj⟩ := List.exists_mem_of_ne_nil _ (hflag.mp h₀)
      rw [hlook j (hif j hj)] at h
      obtain ⟨d, hd, rfl⟩ := Option.map_eq_some'.mp h
      have hdj : d.1 = j := by simpa using List.find?_some hd
      subst hdj
      exact ⟨mem_nmReleased.mp hj, by rw [hd]; rfl⟩
  · rintro ⟨hrel, hlisted⟩
    have hrel := mem_nmReleased.mpr hrel
    rw [if_neg (hflag.mpr (List.ne_nil_of_mem hrel)), hlook i (hif i hrel)]
    obtain ⟨d, hd⟩ := Option.isSome_iff_exists.mp hlisted
    have hdi : d.1 = i := by simpa using List.find?_some hd
    rw [hd, Option.map_some', hdi]

end LinuxWifiCapture
