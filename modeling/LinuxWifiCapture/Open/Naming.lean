import LinuxWifiCapture.Open.Callback

/-!
# The name of the capture interface

When the requested interface is not in monitor mode, `open_callback` names the interface it
will capture on before it makes it.  `vifNameRule` is that rule as the documentation states
it, over a world of interfaces with unique names:

* the `vif=` flag, when the definition gives one;
* else the first interface `getifaddrs` enumerates, other than the parent, with the parent's
  hardware address and in monitor mode: a monitor vif made by an earlier run (none when
  `getifaddrs` fails);
* else `<parent>mon` when it fits in `IFNAMSIZ`, which fails when an interface of that name
  exists in another wireless mode;
* else `kismon<N>` for the least `N < 100` that no interface has, which fails when all
  hundred exist.

`pickVifName_eq_rule`: the code's `pickVifName` follows the rule, from a userdata that holds
no capture interface yet; its `snprintf`s into `IFNAMSIZ` never cut a name it makes
(`vifNameRule_length_lt`).  `openCallback_vifName`: so an open that returns 1 captures on
the rule's name, an open whose rule fails returns -1, and an open that gets past its
preparation, when the rule names an interface, names that one
(`openCallback_capInterface_of_rule`).
-/

namespace LinuxWifiCapture

open OpenM

/-- An interface other than `parent` with `parent`'s hardware address, in monitor mode. -/
def IsMonitorTwin (parent : String) (mac : MacAddr) (i : NetIf) : Prop :=
  i.name ≠ parent ∧ i.hwaddr = .ok mac ∧ i.mode = .ok linuxWlextMonitor

instance (parent : String) (mac : MacAddr) : DecidablePred (IsMonitorTwin parent mac) :=
  fun _ => inferInstanceAs (Decidable (_ ∧ _ ∧ _))

/-- An interface of the name exists, in a wireless mode other than monitor. -/
def World.ExistsNotMonitor (w : World) (n : String) : Prop :=
  ∃ i ∈ w.ifaces, i.name = n ∧ i.mode.isOk ∧ i.mode ≠ .ok linuxWlextMonitor

instance (w : World) (n : String) : Decidable (w.ExistsNotMonitor n) :=
  inferInstanceAs (Decidable (∃ i ∈ w.ifaces, _))

/-- The capture interface of a parent that is not in monitor mode, as the rule names it;
`none` where the rule fails. -/
def vifNameRule (w : World) (vif : Option String) (parent : String) (mac : MacAddr) :
    Option String :=
  match vif with
  | some v => some v
  | none =>
    match w.enumerated.find? (IsMonitorTwin parent mac ·) with
    | some i => some i.name
    | none =>
      if parent.length + 3 < ifnamsiz then
        if w.ExistsNotMonitor (parent ++ "mon") then none else some (parent ++ "mon")
      else
        ((List.range 100).find? (fun n => ¬ w.Exists ("kismon" ++ formatNat n))).map
          ("kismon" ++ formatNat ·)

/-! ## The lookups, read off the world -/

theorem find?_congr {α : Type} {p q : α → Bool} :
    ∀ {l : List α}, (∀ x ∈ l, p x = q x) → l.find? p = l.find? q
  | [], _ => rfl
  | a :: l, h => by
    rw [List.forall_mem_cons] at h
    simp only [List.find?_cons, h.1, find?_congr h.2]

namespace World

variable {w : World}

theorem macModeMatch_eq (parent : String) (mac : MacAddr) {i : NetIf} (hi : i ∈ w.ifaces) :
    macModeMatch w (some parent) linuxWlextMonitor mac i = decide (IsMonitorTwin parent mac i) := by
  simp [macModeMatch, IsMonitorTwin, getHwaddr_name hi, getMode_name hi, eq_comm]

/-- `find_interface_mode_by_mac` finds the first monitor twin of the parent. -/
theorem findInterfaceModeByMac_eq (parent : String) (mac : MacAddr) :
    findInterfaceModeByMac w (some parent) linuxWlextMonitor mac =
      (w.enumerated.find? (IsMonitorTwin parent mac ·)).elim (-1)
        fun i => (w.ifNametoindex i.name : Int) := by
  rw [findInterfaceModeByMac_eq_enumerated, findInterfaceModeByMacIn_eq,
    find?_congr fun i hi => macModeMatch_eq parent mac (mem_of_mem_enumerated hi)]

/-- The name `open_callback` reads back from the index of the twin. -/
theorem twin_ifIndextoname (parent : String) (mac : MacAddr) :
    (if findInterfaceModeByMac w (some parent) linuxWlextMonitor mac ≥ 0 then
        w.ifIndextoname (findInterfaceModeByMac w (some parent) linuxWlextMonitor mac).toNat
      else none) = (w.enumerated.find? (IsMonitorTwin parent mac ·)).map (·.name) := by
  rw [findInterfaceModeByMac_eq]
  cases hf : w.enumerated.find? (IsMonitorTwin parent mac ·) with
  | none => simp
  | some i =>
    have hex : w.Exists i.name := ⟨i, mem_of_mem_enumerated (List.mem_of_find?_eq_some hf), rfl⟩
    simp [ifIndextoname_ifNametoindex hex]

/-- The names `find_next_ifnum` tries have at most eight characters. -/
theorem kismon_length_le {n : Nat} (hn : n < 100) : ("kismon" ++ formatNat n).length ≤ 8 := by
  have : (formatNat n).length ≤ 2 := Nat.repr_length n 2 (by decide) (by simpa using hn)
  rw [String.length_append, show "kismon".length = 6 from rfl]
  omega

/-- The names `find_next_ifnum` tries fit in `IFNAMSIZ`. -/
theorem kismon_length_lt {n : Nat} (hn : n < 100) :
    ("kismon" ++ formatNat n).length < ifnamsiz :=
  Nat.lt_of_le_of_lt (kismon_length_le hn) (by decide)

/-- `find_next_ifnum ("kismon")` finds the least free `kismon<N>`. -/
theorem findNextIfnum_kismon :
    findNextIfnum w "kismon" =
      ((List.range 100).find? (fun n => ¬ w.Exists ("kismon" ++ formatNat n))).elim (-1)
        fun n => (n : Int) := by
  have hname : ∀ n ∈ List.range 100,
      (w.ifNametoindex (snprintf ifnamsiz ("kismon" ++ formatNat n)) == 0) =
        decide (¬ w.Exists ("kismon" ++ formatNat n)) := fun n hn => by
    rw [snprintf_of_length_lt (kismon_length_lt (List.mem_range.mp hn)), Bool.eq_iff_iff]
    simp [ifNametoindex_eq_zero_iff]
  rw [findNextIfnum, find?_congr hname]
  cases (List.range 100).find? _ <;> rfl

/-- Whether `<parent>mon` exists in another mode is what its mode says. -/
theorem existsNotMonitor_iff_getMode (n : String) :
    w.ExistsNotMonitor n ↔ ∃ m, w.getMode n = .ok m ∧ m ≠ linuxWlextMonitor := by
  constructor
  · rintro ⟨i, hi, rfl, hok, hne⟩
    rw [getMode_name hi]
    cases hm : i.mode with
    | error e => simp [hm, Except.isOk, Except.toBool] at hok
    | ok m => exact ⟨m, rfl, fun h => hne (by rw [hm, h])⟩
  · rintro ⟨m, hm, hne⟩
    unfold getMode at hm
    split at hm
    · next i hf =>
      exact ⟨i, List.mem_of_find?_eq_some hf, by simpa using List.find?_some hf,
        by simp [hm, Except.isOk, Except.toBool], by simp [hm, hne]⟩
    · cases hm

end World

/-! ## The code follows the rule -/

/-- **Naming.**  From a userdata that holds no capture interface, `pickVifName` names the
interface as the rule does, and fails exactly where the rule does. -/
theorem pickVifName_eq_rule (w : World) (definition : Definition) (parent : String)
    (mac : MacAddr) :
    (pickVifName w definition parent mac none).toOption =
      vifNameRule w (definition.foundFlag "vif") parent mac := by
  unfold pickVifName vifNameRule
  cases definition.foundFlag "vif" with
  | some v => rfl
  | none =>
    simp only [World.twin_ifIndextoname]
    cases w.enumerated.find? (IsMonitorTwin parent mac ·) with
    | some i => rfl
    | none =>
      by_cases hlen : parent.length + 3 < ifnamsiz
      · have hfit : (parent ++ "mon").length < ifnamsiz := by simpa using hlen
        simp only [Option.map_none', if_neg (not_le.mpr hlen), if_pos hlen,
          snprintf_of_length_lt hfit]
        by_cases hex : w.ExistsNotMonitor (parent ++ "mon")
        · obtain ⟨m, hm, hne⟩ := World.existsNotMonitor_iff_getMode _ |>.mp hex
          simp [hm, hne, hex, Except.toOption]
        · rw [if_neg hex]
          cases hm : w.getMode (parent ++ "mon") with
          | error e => rfl
          | ok m =>
            have : m = linuxWlextMonitor := by
              by_contra hne
              exact hex (World.existsNotMonitor_iff_getMode _ |>.mpr ⟨m, hm, hne⟩)
            simp [this, Except.toOption]
      · simp only [Option.map_none', if_pos (not_lt.mp hlen), if_neg hlen,
          World.findNextIfnum_kismon]
        cases hf : (List.range 100).find? (fun n => ¬ w.Exists ("kismon" ++ formatNat n)) with
        | none => rfl
        | some n =>
          have hn := List.mem_range.mp (List.mem_of_find?_eq_some hf)
          have hnonneg : ¬ (n : Int) < 0 := by omega
          simp [snprintf_of_length_lt (World.kismon_length_lt hn), hnonneg, Except.toOption]

/-- Every name the rule makes itself is shorter than `IFNAMSIZ`. -/
theorem vifNameRule_length_lt (w : World) (parent : String) (mac : MacAddr)
    (htwin : ∀ i ∈ w.ifaces, ¬ IsMonitorTwin parent mac i) {n : String}
    (h : vifNameRule w none parent mac = some n) : n.length < ifnamsiz := by
  have hf : w.enumerated.find? (IsMonitorTwin parent mac ·) = none :=
    List.find?_eq_none.mpr fun i hi => by simpa using htwin i (World.mem_of_mem_enumerated hi)
  simp only [vifNameRule, hf] at h
  split_ifs at h with hlen
  · cases h
    simpa using hlen
  · obtain ⟨k, hk, rfl⟩ := Option.map_eq_some'.mp h
    exact World.kismon_length_lt (List.mem_range.mp (List.mem_of_find?_eq_some hk))

/-- No name the rule makes is the parent's own: a twin is another interface, `<parent>mon` is
longer, and a parent too long for `mon` is longer than every `kismon<N>`. -/
theorem vifNameRule_ne_parent (w : World) (parent : String) (mac : MacAddr) :
    vifNameRule w none parent mac ≠ some parent := by
  intro h
  simp only [vifNameRule] at h
  split at h
  · next i hi =>
    have htwin : IsMonitorTwin parent mac i := by simpa using List.find?_some hi
    exact htwin.1 (Option.some_injective _ h)
  · split_ifs at h with hlen
    · have : "mon".length = 0 := by simpa using congrArg String.length (Option.some_injective _ h)
      exact absurd this (by decide)
    · obtain ⟨k, hk, hkp⟩ := Option.map_eq_some'.mp h
      have := World.kismon_length_le (List.mem_range.mp (List.mem_of_find?_eq_some hk))
      rw [hkp] at this
      unfold ifnamsiz at hlen
      omega

/-! ## The open follows the rule -/

/-- An open that returns 1, on an interface not in monitor mode, from a userdata that holds no
capture interface, captures on the interface the rule names. -/
theorem capInterface_of_openCallback {env : Env} {definition : Definition} {wifi : LocalWifi}
    (hcap : wifi.capInterface = none) {mac : MacAddr}
    (hmac : env.world.getHwaddr definition.interface = .ok mac) {mode : Int}
    (hmode : env.world.getMode definition.interface = .ok mode)
    (hmon : mode ≠ linuxWlextMonitor) (h : (openCallback env definition wifi).ret = 1) :
    ∃ cap, (openCallback env definition wifi).state.wifi.capInterface = some cap ∧
      vifNameRule env.world (definition.foundFlag "vif") definition.interface mac = some cap := by
  obtain ⟨hw, m, cap, s₁, s₂, hhw, hm, hs₁, -, -, hcapr, hfin⟩ := runs_of_openCallback h
  rw [hmac] at hhw
  rw [hmode] at hm
  cases hhw
  cases hm
  obtain ⟨hpick, -, hs₂, -⟩ := capPhase_runs definition hcapr
  refine ⟨cap, (openFinish_runs_capInterface env definition hfin).trans hs₂, ?_⟩
  rw [← pickVifName_eq_rule, ← hcap, ← hs₁, hpick hmon]
  rfl

/-- When the rule names an interface, an open that gets past its preparation, on an interface
not in monitor mode and from a userdata that holds no capture interface, names that one,
whichever way the open ends. -/
theorem openCallback_capInterface_of_rule {env : Env} {definition : Definition}
    {wifi : LocalWifi} (hcap : wifi.capInterface = none) (hif : definition.interface.length ≠ 0)
    {mac : MacAddr} (hmac : env.world.getHwaddr definition.interface = .ok mac)
    (hhard : env.hardRfkill definition.interface ≠ 1)
    (hsoft : env.softRfkill definition.interface = 1 → env.clearRfkill definition.interface = true)
    {mode : Int} (hmode : env.world.getMode definition.interface = .ok mode)
    (hmon : mode ≠ linuxWlextMonitor) {n : String}
    (hn : vifNameRule env.world (definition.foundFlag "vif") definition.interface mac = some n) :
    (openCallback env definition wifi).state.wifi.capInterface = some n := by
  obtain ⟨s₁, h₁⟩ := openPrepare_next env definition hif hmac hhard hsoft hmode ⟨wifi, none, [], []⟩
  have hc₁ : s₁.wifi.capInterface = none :=
    (openPrepare_keeps (Q := fun w => w.capInterface = none) env definition (fun _ _ h => h)
      (fun _ _ h => h)).runs hcap h₁
  have hpick : pickVifName env.world definition definition.interface mac none = .ok n := by
    have h := (pickVifName_eq_rule env.world definition definition.interface mac).trans hn
    revert h
    cases pickVifName env.world definition definition.interface mac none <;>
      simp [Except.toOption]
  have h₂ : capPhase env.world definition definition.interface mac mode s₁ =
      .next n { s₁ with wifi := { s₁.wifi with capInterface := some n } } := by
    simp [capPhase, getWifi, hc₁, hmon, hpick, orAbort, modifyWifi]
  rw [openCallback_state, openCallbackM_eq]
  simp only [bind_apply, h₁, h₂]
  exact openFinish_keeps (Q := fun w => w.capInterface = some n) env definition
    (fun _ _ _ _ h => h) (fun _ h => h) (fun _ _ h => h) (fun _ _ h => h) _ _ _ rfl

/-- **The capture interface of an open.**  For every machine and definition, from a userdata
that holds no capture interface, when the requested interface is not in monitor mode: an
open that returns 1 captures on the interface the rule names; an open for which the rule
fails returns -1; an open that gets past its preparation (an interface, no hard rfkill, a
soft one that is cleared), when the rule names an interface, names that one; and every name
the rule makes itself is shorter than `IFNAMSIZ`. -/
theorem openCallback_vifName (env : Env) (definition : Definition) (wifi : LocalWifi)
    (hcap : wifi.capInterface = none) (mac : MacAddr)
    (hmac : env.world.getHwaddr definition.interface = .ok mac) (mode : Int)
    (hmode : env.world.getMode definition.interface = .ok mode)
    (hmon : mode ≠ linuxWlextMonitor) :
    ((openCallback env definition wifi).ret = 1 →
        (openCallback env definition wifi).state.wifi.capInterface =
          vifNameRule env.world (definition.foundFlag "vif") definition.interface mac) ∧
      (vifNameRule env.world (definition.foundFlag "vif") definition.interface mac = none →
        (openCallback env definition wifi).ret = -1) ∧
      (definition.interface.length ≠ 0 → env.hardRfkill definition.interface ≠ 1 →
        (env.softRfkill definition.interface = 1 → env.clearRfkill definition.interface = true) →
        ∀ n, vifNameRule env.world (definition.foundFlag "vif") definition.interface mac =
          some n → (openCallback env definition wifi).state.wifi.capInterface = some n) ∧
      (definition.foundFlag "vif" = none →
        (∀ i ∈ env.world.ifaces, ¬ IsMonitorTwin definition.interface mac i) →
        ∀ n, vifNameRule env.world none definition.interface mac = some n →
          n.length < ifnamsiz) := by
  refine ⟨fun h => ?_, fun hnone => ?_,
    fun hif hhard hsoft _ hn =>
      openCallback_capInterface_of_rule hcap hif hmac hhard hsoft hmode hmon hn,
    fun _ htwin _ hn => vifNameRule_length_lt _ _ _ htwin hn⟩
  · obtain ⟨cap, hc, hrule⟩ := capInterface_of_openCallback hcap hmac hmode hmon h
    rw [hc, hrule]
  · refine (openCallback_ret env definition wifi).resolve_left fun h => ?_
    obtain ⟨cap, -, hrule⟩ := capInterface_of_openCallback hcap hmac hmode hmon h
    rw [hnone] at hrule
    cases hrule

/-- `wlan0` in managed mode, on a machine where everything succeeds: the open returns 1 and
captures on `wlan0mon`. -/
theorem openCallback_vifName_wlan0 :
    (openCallback (quietEnv managedWorld) ⟨"wlan0", []⟩ mainLocalWifi).ret = 1 ∧
      (openCallback (quietEnv managedWorld) ⟨"wlan0", []⟩ mainLocalWifi).state.wifi.capInterface =
        some "wlan0mon" :=
  have h := openCallback_vifName (quietEnv managedWorld) ⟨"wlan0", []⟩ mainLocalWifi rfl
    sampleMac rfl 2 rfl (by decide)
  ⟨by decide, (h.1 (by decide)).trans (by decide)⟩

end LinuxWifiCapture
