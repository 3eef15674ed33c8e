import LinuxWifiCapture.Open.Naming
import LinuxWifiCapture.Channel.Control

/-!
# Monitor mode and the backend the channel sets use

After the name, `open_callback` reads the mode of the requested interface again, connects to
netlink, and then makes a monitor vif (netlink and a vif name), or sets the interface's own
mode with the legacy call (no netlink, or the vif creation failed), or does nothing (the
interface is already in monitor mode).  Three things follow from the code as it stands.

* `openCallback_useMac80211`: no path of the callback sets `use_mac80211` to 0.  From
  `main`'s userdata it stays 1 whatever the machine answers, so every later channel set
  takes the netlink branch, with a netlink session or without one
  (`openCallback_monitor_without_netlink`).
* After the legacy set-mode, `cap_interface` still names the vif: the callback then brings
  the parent down, brings the vif name up and captures on it, not on the interface it put
  in monitor mode (`openCallback_setMode_captures_elsewhere`).
* The mode read again is the requested interface's, not the capture interface's.  An
  interface chosen by name or by hardware address that is already in monitor mode is
  therefore not taken as it is: with netlink the callback asks for a new vif of that name,
  and when that fails it sets the parent's mode (`openCallback_existing_monitor_recreated`).

The requested interface itself, when it is in monitor mode, is taken as it is
(`openCallback_of_monitor`): the open makes no vif and no mode change on any path, and
captures on that interface.  Without a `vif` flag that is the only way an open captures on
the requested interface (`openCallback_capInterface_iff_monitor`), since no name the rule
picks is the parent's (`vifNameRule_ne_parent`).  The callback is first rewritten so that
every phase sees the definition's interface (`openCallbackM_eq`), since the mode it reads
again is that interface's.

Only that second read takes a failure as "not monitor".  The first, before the name, is
fatal (`openCallback_of_getMode_error`): an interface with an address and no wireless mode,
such as a wired one, makes the open return -1.
-/

namespace LinuxWifiCapture

/-- `wlan0`, already in monitor mode. -/
def monitorWorld : World :=
  ⟨[⟨"wlan0", .ok sampleMac, .ok 6⟩], "No such device", false, by decide⟩

/-- `wlan0` in managed mode, and `wlan0mon`, a monitor vif of it left by an earlier run. -/
def twinWorld : World :=
  ⟨[⟨"wlan0", .ok sampleMac, .ok 2⟩, ⟨"wlan0mon", .ok sampleMac, .ok 6⟩],
    "No such device", false,
    by decide⟩

/-- `eth0`, a wired interface: it has a hardware address and no wireless mode. -/
def wiredWorld : World :=
  ⟨[⟨"eth0", .ok sampleMac, .error "Operation not supported"⟩], "No such device", false,
    by decide⟩

/-- The machine without nl80211: `mac80211_connect` fails. -/
def noNetlink (env : Env) : Env :=
  { env with mac80211Connect := fun _ => .error "Failed to connect to generic netlink" }

/-- The machine whose kernel refuses a vif under a name an interface already has. -/
def vifNameTaken (env : Env) : Env :=
  { env with
    mac80211CreateMonitorVif := fun _ n _ =>
      if env.world.Exists n then .error "File exists" else .ok () }

/-- **The backend marker never falls back.**  For every machine and every definition, an
open from a userdata with `use_mac80211 = 1` leaves `use_mac80211 = 1`, whether it returns 1
or -1 and whether or not it holds a netlink session. -/
theorem openCallback_useMac80211 (env : Env) (definition : Definition) (wifi : LocalWifi)
    (h : wifi.useMac80211 = 1) : (openCallback env definition wifi).state.wifi.useMac80211 = 1 := by
  rw [openCallback_state]
  exact openCallbackM_keeps (Q := fun w => w.useMac80211 = 1) env definition
    (fun _ _ h => h) (fun _ _ h => h) (fun _ _ h => h) (fun _ _ _ _ h => h) (fun _ _ => rfl)
    (fun _ _ h => h) (fun _ _ h => h) _ h

/-- `main`'s userdata has `use_mac80211 = 1`, and `wlan0` already in monitor mode. -/
theorem openCallback_useMac80211_main :
    mainLocalWifi.useMac80211 = 1 ∧
      (openCallback (quietEnv monitorWorld) ⟨"wlan0", []⟩
        mainLocalWifi).state.wifi.useMac80211 = 1 :=
  ⟨rfl, openCallback_useMac80211 _ _ mainLocalWifi rfl⟩

/-- `wlan0` already in monitor mode on a machine without nl80211: the open returns 1 with
`use_mac80211 = 1` and no netlink session, so the next channel set is a netlink call
without a handle or a family. -/
theorem openCallback_monitor_without_netlink :
    (openCallback (noNetlink (quietEnv monitorWorld)) ⟨"wlan0", []⟩ mainLocalWifi).ret = 1 ∧
      (openCallback (noNetlink (quietEnv monitorWorld)) ⟨"wlan0", []⟩
        mainLocalWifi).state.wifi.useMac80211 = 1 ∧
      (openCallback (noNetlink (quietEnv monitorWorld)) ⟨"wlan0", []⟩
        mainLocalWifi).state.wifi.mac80211Handle = none ∧
      setCall (openCallback (noNetlink (quietEnv monitorWorld)) ⟨"wlan0", []⟩
        mainLocalWifi).state.wifi (.ofControlFreq 6) =
        .mac80211SetChannelCache (some "wlan0") none none 6 0 := by
  decide

/-- `wlan0` in managed mode on a machine without nl80211, with `wlan0mon` in monitor mode:
the callback sets `wlan0` to monitor mode, then brings `wlan0` down and captures on
`wlan0mon`. -/
theorem openCallback_setMode_captures_elsewhere :
    (openCallback (noNetlink (quietEnv twinWorld)) ⟨"wlan0", []⟩ mainLocalWifi).ret = 1 ∧
      (openCallback (noNetlink (quietEnv twinWorld)) ⟨"wlan0", []⟩
        mainLocalWifi).state.wifi.capInterface = some "wlan0mon" ∧
      (openCallback (noNetlink (quietEnv twinWorld)) ⟨"wlan0", []⟩ mainLocalWifi).state.calls =
        [.mac80211Connect "wlan0", .setMode "wlan0" linuxWlextMonitor,
          .report (.message ("Configured 'wlan0' as monitor mode interface instead of " ++
            "using a monitor vif") .info),
          .report (.message "Bringing down parent interface 'wlan0'" .info),
          .interfaceDown "wlan0", .interfaceUp "wlan0mon", .pcapOpenLive "wlan0mon"] := by
  decide

/-- `wlan0` in managed mode with netlink, and `wlan0mon`, its monitor vif, already there: the
callback asks for a new vif named `wlan0mon`, and when the kernel refuses it, sets `wlan0`
to monitor mode, brings it down and captures on `wlan0mon`. -/
theorem openCallback_existing_monitor_recreated :
    (openCallback (vifNameTaken (quietEnv twinWorld)) ⟨"wlan0", []⟩ mainLocalWifi).ret = 1 ∧
      (openCallback (vifNameTaken (quietEnv twinWorld)) ⟨"wlan0", []⟩
        mainLocalWifi).state.wifi.capInterface = some "wlan0mon" ∧
      (openCallback (vifNameTaken (quietEnv twinWorld)) ⟨"wlan0", []⟩
        mainLocalWifi).state.calls =
        [.mac80211Connect "wlan0",
          .createMonitorVif "wlan0" "wlan0mon" [nl80211MntrFlagControl, nl80211MntrFlagOtherBss],
          .report (.message ("Failed to create monitor vif interface 'wlan0mon' for " ++
            "interface 'wlan0': File exists") .error),
          .setMode "wlan0" linuxWlextMonitor,
          .report (.message ("Configured 'wlan0' as monitor mode interface instead of " ++
            "using a monitor vif; will continue using this interface as the capture " ++
            "source.") .info),
          .mac80211Disconnect,
          .report (.message "Bringing down parent interface 'wlan0'" .info),
          .interfaceDown "wlan0", .interfaceUp "wlan0mon", .pcapOpenLive "wlan0mon"] := by
  decide

/-! ## The first read of the mode -/

/-- **A mode that cannot be read is fatal.**  For every machine, definition and userdata:
when the requested interface has a hardware address, no hard rfkill, and a soft rfkill only
if it can be cleared, but `iwconfig_get_mode` fails on it, the open returns -1 with the
error, before a vif name is picked.  Only the second read of the mode, after the name,
takes a failure as "not monitor". -/
theorem openCallback_of_getMode_error (env : Env) (definition : Definition) (wifi : LocalWifi)
    (hif : definition.interface.length ≠ 0) {mac : MacAddr}
    (hmac : env.world.getHwaddr definition.interface = .ok mac)
    (hhard : env.hardRfkill definition.interface ≠ 1)
    (hsoft : env.softRfkill definition.interface = 1 →
      env.clearRfkill definition.interface = true)
    {e : String} (hmode : env.world.getMode definition.interface = .error e) :
    (openCallback env definition wifi).ret = -1 ∧
      (openCallback env definition wifi).msg =
        "Unable to get current wireless mode of interface '" ++ definition.interface ++ "': " ++
          e := by
  obtain ⟨s', hs'⟩ := openPrepare_of_getMode_error env definition hif hmac hhard hsoft hmode
    ⟨wifi, none, [], []⟩
  simp [openCallback, openCallbackM, hs']

/-- The wired `eth0`: the open stops at its mode. -/
example :
    (openCallback (quietEnv wiredWorld) ⟨"eth0", []⟩ mainLocalWifi).ret = -1 ∧
      (openCallback (quietEnv wiredWorld) ⟨"eth0", []⟩ mainLocalWifi).msg =
        "Unable to get current wireless mode of interface 'eth0': Operation not supported" :=
  openCallback_of_getMode_error (quietEnv wiredWorld) ⟨"eth0", []⟩ mainLocalWifi (by decide) rfl
    (by decide) (fun h => absurd h (by decide)) rfl

/-! ## An interface already in monitor mode -/

/-- Whether a call puts an interface in monitor mode: a new vif, or the legacy set-mode. -/
def OpenCall.setsMonitor : OpenCall → Bool
  | .createMonitorVif .. => true
  | .setMode .. => true
  | _ => false

/-- No call so far has put an interface in monitor mode. -/
def NoMonitorCall (s : OpenState) : Prop := ∀ c ∈ s.calls, c.setsMonitor = false

section NoMonitor

open OpenM

theorem Keeps.call_noMonitor {c : OpenCall} (hc : c.setsMonitor = false) :
    Keeps NoMonitorCall (call c) := by
  intro s hs c' hc'
  rcases List.mem_append.mp hc' with h | h
  · exact hs c' h
  · rw [List.mem_singleton.mp h]
    exact hc

theorem Keeps.modifyWifi_noMonitor (f : LocalWifi → LocalWifi) :
    Keeps NoMonitorCall (modifyWifi f) := fun _ hs => hs

variable (env : Env) (definition : Definition)

theorem openPrepare_noMonitor : Keeps NoMonitorCall (openPrepare env definition) :=
  openPrepare_keeps_of env definition (fun _ => Keeps.call_noMonitor rfl)
    (fun _ => Keeps.call_noMonitor rfl) (fun _ => Keeps.call_noMonitor rfl)
    (fun _ => Keeps.modifyWifi_noMonitor _) (fun _ => Keeps.modifyWifi_noMonitor _)
    fun _ _ hs => hs

theorem capPhase_noMonitor (interface : String) (hwaddr : MacAddr) (mode : Int) :
    Keeps NoMonitorCall (capPhase env.world definition interface hwaddr mode) :=
  capPhase_keeps_of env definition (fun _ => Keeps.modifyWifi_noMonitor _) _ _ _

/-- On an interface in monitor mode, the phases after the name make no monitor call. -/
theorem openFinish_noMonitor {interface : String}
    (hmode : env.world.getMode interface = .ok linuxWlextMonitor) (cap : String) :
    Keeps NoMonitorCall (openFinish env definition interface cap) :=
  (monitorPhase_keeps_of env definition (fun _ => Keeps.call_noMonitor rfl)
    (fun _ _ _ => Keeps.modifyWifi_noMonitor _) (Keeps.call_noMonitor rfl)
    fun h => absurd hmode h).bind fun _ =>
  (bringUpPhase_keeps_of env definition (fun _ => Keeps.call_noMonitor rfl)
    (Keeps.call_noMonitor rfl) (Keeps.call_noMonitor rfl)).bind fun _ =>
  capturePhase_keeps_of env (fun _ _ hs => hs) (Keeps.call_noMonitor rfl)
    (fun _ => Keeps.modifyWifi_noMonitor _) fun _ => Keeps.modifyWifi_noMonitor _

end NoMonitor

/-- An open that returns 1 on an interface in monitor mode captures on that interface. -/
theorem capInterface_of_monitor {env : Env} {definition : Definition} {wifi : LocalWifi}
    (hmode : env.world.getMode definition.interface = .ok linuxWlextMonitor)
    (h : (openCallback env definition wifi).ret = 1) :
    (openCallback env definition wifi).state.wifi.capInterface = some definition.interface := by
  obtain ⟨_, mode, cap, _, s₂, -, hm, -, -, -, hcapr, hfin⟩ := runs_of_openCallback h
  rw [hmode] at hm
  cases hm
  obtain ⟨-, hcap, hs₂, -⟩ := capPhase_runs definition hcapr
  cases hcap rfl
  exact (openFinish_runs_capInterface env definition hfin).trans hs₂

/-- **An interface already in monitor mode is taken as it is.**  For every machine,
definition and userdata in which the requested interface is in monitor mode: whichever way
the open ends it asks for no vif and no mode change, and when it returns 1 it captures on
the requested interface. -/
theorem openCallback_of_monitor (env : Env) (definition : Definition) (wifi : LocalWifi)
    (hmode : env.world.getMode definition.interface = .ok linuxWlextMonitor) :
    (∀ c ∈ (openCallback env definition wifi).state.calls, c.setsMonitor = false) ∧
      ((openCallback env definition wifi).ret = 1 →
        (openCallback env definition wifi).state.wifi.capInterface =
          some definition.interface) := by
  refine ⟨?_, capInterface_of_monitor hmode⟩
  rw [openCallback_state, openCallbackM_eq]
  exact ((openPrepare_noMonitor env definition).bind fun _ =>
    (capPhase_noMonitor env definition _ _ _).bind fun cap =>
      openFinish_noMonitor env definition hmode cap) _ fun _ h => nomatch h

/-- `wlan0` already in monitor mode, on a machine where everything succeeds. -/
theorem openCallback_of_monitor_wlan0 :
    monitorWorld.getMode "wlan0" = .ok linuxWlextMonitor ∧
      (openCallback (quietEnv monitorWorld) ⟨"wlan0", []⟩
        mainLocalWifi).state.wifi.capInterface = some "wlan0" :=
  ⟨rfl, (openCallback_of_monitor (quietEnv monitorWorld) ⟨"wlan0", []⟩ mainLocalWifi rfl).2
    (by decide)⟩

/-- **Where the open captures.**  For every machine and every definition without a `vif` flag,
an open that returns 1 from a userdata holding no capture interface captures on the requested
interface exactly when that interface was already in monitor mode.  Whether a vif was made
plays no part: after the legacy set-mode no vif exists, and the open still captures on the
name it picked for one. -/
theorem openCallback_capInterface_iff_monitor (env : Env) (definition : Definition)
    (wifi : LocalWifi) (hcap : wifi.capInterface = none)
    (hvif : definition.foundFlag "vif" = none) (h : (openCallback env definition wifi).ret = 1) :
    (openCallback env definition wifi).state.wifi.capInterface = some definition.interface ↔
      env.world.getMode definition.interface = .ok linuxWlextMonitor := by
  obtain ⟨mac, mode, -, -, -, hmac, hmode, -⟩ := runs_of_openCallback h
  by_cases hmon : mode = linuxWlextMonitor
  · rw [hmon] at hmode
    exact iff_of_true (capInterface_of_monitor hmode h) hmode
  · obtain ⟨cap, hc, hrule⟩ := capInterface_of_openCallback hcap hmac hmode hmon h
    rw [hvif] at hrule
    apply iff_of_false
    · rw [hc]
      exact fun heq => vifNameRule_ne_parent _ _ _ (hrule.trans heq)
    · rw [hmode]
      exact fun he => hmon (Except.ok.inj he)

/-- `wlan0` in managed mode on a machine without nl80211, beside its old monitor vif: the open
makes no vif and does not capture on `wlan0`. -/
theorem openCallback_capInterface_iff_monitor_twin :
    (openCallback (noNetlink (quietEnv twinWorld)) ⟨"wlan0", []⟩
      mainLocalWifi).state.wifi.capInterface ≠ some "wlan0" :=
  fun h => absurd ((openCallback_capInterface_iff_monitor (noNetlink (quietEnv twinWorld))
    ⟨"wlan0", []⟩ mainLocalWifi rfl rfl (by decide)).mp h) (by decide)

end LinuxWifiCapture
