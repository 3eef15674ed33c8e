import LinuxWifiCapture.Session
import LinuxWifiCapture.Open.Naming

/-!
# `main`'s session

`main` gives the framework its userdata and four callbacks, `open_callback`,
`probe_callback`, `chantranslate_callback` and `chancontrol_callback`, then runs the
framework's loop, which calls them in whatever order the server's commands and the channel
hopper ask; the capture thread runs beside them (`Session`).  `list_callback` is never
registered.  When the loop ends, `main` hands the interface back to NetworkManager.

A session is the list of commands the loop hands to the callbacks, and `mainRun` runs it on
the userdata, one `mainStep` per command.  Nothing here assumes an order: an open may come
after channel sets, and may come more than once.

## Results

* `mainRun_chancontrol`: every userdata a session of `main` reaches keeps
  `use_mac80211 = 1` and `seq_channel_failure = 0` (`MainInvariant`).  So every channel set,
  after any session, takes the netlink branch: it never calls `iwconfig_set_channel`, never
  answers a configure command with `cf_send_configresp_channel`, and, as a hop, returns 0
  without a terminal error.
* `mainRun_nmReset_single_open`: in a session with one open, anywhere in it, the hand-back
  at the end of `main` returns exactly what that open took from NetworkManager.
* `mainRun_nmReset_last_open`: with more than one, it goes wrong.  The userdata keeps the
  interface of the last open that named one, even a failing one, so the hand-back can only
  name that interface.  An interface an earlier open told NetworkManager to let go of is not
  handed back once a later open names another.
* `openCallback_capInterface_of_held`: an open from a userdata that already names a capture
  interface never makes a name of its own.  Without a `vif` flag or a monitor twin it
  captures on the interface an earlier open named, whatever interface it is asked for.
-/

namespace LinuxWifiCapture

open OpenM

/-- A command of the framework's loop, for a callback `main` registers. -/
inductive Command
  /-- `open_callback (caph, seqno, definition, ..)`, on the machine as it answers. -/
  | openDevice (env : Env) (definition : Definition)
  /-- `probe_callback (caph, seqno, definition, ..)`. -/
  | probeDevice (env : Env) (definition : Definition)
  /-- `chantranslate_callback (caph, chanstr)`. -/
  | chantranslate (chanstr : String)
  /-- `chancontrol_callback (caph, seqno, privchan, msg)`, with the driver's answer. -/
  | chancontrol (r : ChanRequest)

/-- What a callback hands back to the framework. -/
inductive Reply
  | opened (res : OpenResult)
  | probed (res : ProbeResult)
  | translated (res : Option LocalChannel × List Report)
  | controlled (res : ControlResult)

/-- One command on the userdata; `ht` is the channel table compiled into the binary.  The
probe and the translation do not read the userdata, and leave it as it is. -/
def mainStep (ht : HtTable) (wifi : LocalWifi) : Command → LocalWifi × Reply
  | .openDevice env definition =>
    let res := openCallback env definition wifi
    (res.state.wifi, .opened res)
  | .probeDevice env definition => (wifi, .probed (probeCallback env definition))
  | .chantranslate chanstr => (wifi, .translated (chantranslateCallback ht chanstr))
  | .chancontrol r =>
    let res := chancontrolCallback r.driver wifi r.seqno r.privchan
    (res.wifi, .controlled res)

/-- A session: the userdata it leaves and the replies, in order. -/
def mainRun (ht : HtTable) : LocalWifi → List Command → LocalWifi × List Reply
  | wifi, [] => (wifi, [])
  | wifi, c :: cs =>
    let (wifi', reply) := mainStep ht wifi c
    let (wifi'', replies) := mainRun ht wifi' cs
    (wifi'', reply :: replies)

@[simp] theorem mainRun_nil (ht : HtTable) (wifi : LocalWifi) : (mainRun ht wifi []).1 = wifi :=
  rfl

@[simp] theorem mainRun_cons (ht : HtTable) (wifi : LocalWifi) (c : Command) (cs : List Command) :
    (mainRun ht wifi (c :: cs)).1 = (mainRun ht (mainStep ht wifi c).1 cs).1 :=
  rfl

theorem mainRun_append (ht : HtTable) (wifi : LocalWifi) (cs cs' : List Command) :
    (mainRun ht wifi (cs ++ cs')).1 = (mainRun ht (mainRun ht wifi cs).1 cs').1 := by
  induction cs generalizing wifi with
  | nil => rfl
  | cons c cs ih => exact ih _

/-- A fact of the userdata that every command keeps holds after every session. -/
theorem mainRun_induction (ht : HtTable) {Q : LocalWifi → Prop}
    (hstep : ∀ wifi c, Q wifi → Q (mainStep ht wifi c).1) :
    ∀ (wifi : LocalWifi) (cs : List Command), Q wifi → Q (mainRun ht wifi cs).1
  | _, [], h => h
  | wifi, c :: cs, h => mainRun_induction ht hstep _ cs (hstep wifi c h)

/-! ## The backend and the failure counter -/

/-- What `main`'s userdata has and every command keeps: the netlink backend, and no failure
counted. -/
def MainInvariant (wifi : LocalWifi) : Prop :=
  wifi.useMac80211 = 1 ∧ wifi.seqChannelFailure = 0

theorem mainInvariant_openCallback (env : Env) (definition : Definition) {wifi : LocalWifi}
    (h : MainInvariant wifi) : MainInvariant (openCallback env definition wifi).state.wifi := by
  rw [openCallback_state]
  exact openCallbackM_keeps (Q := MainInvariant) env definition (fun _ _ h => h) (fun _ _ h => h)
    (fun _ _ h => h) (fun _ _ _ _ h => h) (fun _ h => ⟨rfl, h.2⟩) (fun _ _ h => h)
    (fun _ _ h => h) _ h

theorem mainInvariant_step (ht : HtTable) {wifi : LocalWifi} (c : Command)
    (h : MainInvariant wifi) : MainInvariant (mainStep ht wifi c).1 := by
  cases c with
  | openDevice env definition => exact mainInvariant_openCallback env definition h
  | probeDevice => exact h
  | chantranslate => exact h
  | chancontrol r =>
    rcases wifi_of_chancontrol r.driver wifi r.seqno r.privchan with he | he <;>
      simp only [mainStep, he]
    exacts [h, ⟨h.1, rfl⟩]

/-- On the netlink backend the call is a netlink call. -/
theorem setCall_ne_iwconfig {wifi : LocalWifi} (h : wifi.useMac80211 ≠ 0) (channel : LocalChannel)
    (interface : Option String) (controlFreq : UInt32) :
    setCall wifi channel ≠ .iwconfigSetChannel interface controlFreq := by
  unfold setCall
  rw [if_neg h]
  split <;> exact SetCall.noConfusion

/-- The netlink branch never sends a configure response. -/
theorem configresp_not_mem_of_mac80211 (driver : SetCall → Except String Unit)
    {wifi : LocalWifi} (h : wifi.useMac80211 ≠ 0) (seqno : UInt32)
    (privchan : Option LocalChannel) (s : UInt32) (success : Int) (msg : Option String)
    (chanstr : String) :
    Report.configrespChannel s success msg chanstr ∉
      (chancontrolCallback driver wifi seqno privchan).reports := by
  unfold chancontrolCallback
  split
  · simp
  · rw [if_neg h]
    cases driver _ with
    | ok => simp [mac80211SetChannel]
    | error e =>
      simp only [mac80211SetChannel, setChannelFailed]
      split <;> simp

/-- **The netlink backend, for good.**  After every session of `main`, whatever it opened,
probed, translated and set, and however the machine and the driver answered, a channel set
takes the netlink branch: its call is never `iwconfig_set_channel`, it never answers a
configure command with `cf_send_configresp_channel`, and a hop returns 0 and sends no
terminal error. -/
theorem mainRun_chancontrol (ht : HtTable) (cs : List Command) (r : ChanRequest) :
    (∀ channel interface controlFreq,
      setCall (mainRun ht mainLocalWifi cs).1 channel ≠ .iwconfigSetChannel interface controlFreq) ∧
    (∀ s success msg chanstr, Report.configrespChannel s success msg chanstr ∉
      (chancontrolCallback r.driver (mainRun ht mainLocalWifi cs).1 r.seqno r.privchan).reports) ∧
    (r.seqno = 0 →
      (chancontrolCallback r.driver (mainRun ht mainLocalWifi cs).1 r.seqno r.privchan).ret = 0 ∧
      ∀ t, Report.error t ∉
        (chancontrolCallback r.driver (mainRun ht mainLocalWifi cs).1 r.seqno
          r.privchan).reports) := by
  have hinv : MainInvariant (mainRun ht mainLocalWifi cs).1 :=
    mainRun_induction ht (fun _ c h => mainInvariant_step ht c h) _ cs ⟨rfl, rfl⟩
  have hnl : (mainRun ht mainLocalWifi cs).1.useMac80211 ≠ 0 := by rw [hinv.1]; decide
  refine ⟨setCall_ne_iwconfig hnl, configresp_not_mem_of_mac80211 r.driver hnl r.seqno r.privchan,
    fun hseq => ?_⟩
  rw [hseq]
  exact chancontrol_hop_of_lt r.driver (by rw [hinv.2]; decide) r.privchan

/-- An open of `wlan0`, then a configure to channel 6 that the driver accepts: no configure
response. -/
theorem mainRun_chancontrol_configure :
    (chancontrolCallback (fun _ => .ok ())
        (mainRun sampleHtTable mainLocalWifi [.openDevice (quietEnv managedWorld) ⟨"wlan0", []⟩]).1
        1 (some (.ofControlFreq 6))).reports = [] ∧
      ∀ s success msg chanstr, Report.configrespChannel s success msg chanstr ∉
        (chancontrolCallback (fun _ => .ok ())
          (mainRun sampleHtTable mainLocalWifi
            [.openDevice (quietEnv managedWorld) ⟨"wlan0", []⟩]).1 1
          (some (.ofControlFreq 6))).reports :=
  ⟨by decide, (mainRun_chancontrol sampleHtTable [.openDevice (quietEnv managedWorld) ⟨"wlan0", []⟩]
    ⟨1, some (.ofControlFreq 6), fun _ => .ok ()⟩).2.1⟩

/-! ## The interface handed back -/

section Interface

variable (env : Env) (definition : Definition)

/-- Past the check for a name, `openPrepare` writes the definition's interface first and
nothing after it writes another, so it ends with that interface whichever way it ends. -/
theorem openPrepare_interface (hif : definition.interface.length ≠ 0) :
    Triple (fun _ => True) (openPrepare env definition)
      (fun s => s.wifi.interface = some definition.interface)
      (fun s => s.wifi.interface = some definition.interface) := by
  unfold openPrepare
  rw [if_neg hif]
  refine Triple.bind (Q := fun s => s.wifi.interface = some definition.interface)
    (fun _ _ => rfl) fun _ => Triple.of_keeps ?_ fun _ h => h
  have hcall : ∀ c, Keeps (fun s => s.wifi.interface = some definition.interface) (call c) :=
    Keeps.call (Q := fun w => w.interface = some definition.interface)
  exact (Keeps.orAbort _ _).bind fun _ =>
    (rfkillPhase_keeps_of env (fun _ => hcall _) (hcall _)).bind fun _ =>
    (Keeps.setUuid (Q := fun w => w.interface = some definition.interface) _).bind fun _ =>
    (Keeps.orAbort _ _).bind fun _ =>
    (nmPhase_keeps_of env (fun _ => hcall _) (fun _ _ h => h) (hcall _)).bind fun _ =>
      Keeps.pure _

/-- An open of a definition that names an interface leaves that interface in the userdata,
whether it returns 1 or -1. -/
theorem openCallback_interface (wifi : LocalWifi) (hif : definition.interface.length ≠ 0) :
    (openCallback env definition wifi).state.wifi.interface = some definition.interface := by
  rw [openCallback_state]
  refine Triple.state ((openPrepare_interface env definition hif).bind fun x => ?_) trivial
  obtain ⟨interface, hwaddr, mode⟩ := x
  refine Triple.of_keeps (Keeps.bind ?_ fun _ => ?_) fun _ h => h
  · exact capPhase_keeps (Q := fun w => w.interface = some definition.interface) env definition
      (fun _ _ h => h) _ _ _
  · exact openFinish_keeps (Q := fun w => w.interface = some definition.interface) env definition
      (fun _ _ _ _ h => h) (fun _ h => h) (fun _ _ h => h) (fun _ _ h => h) _ _

end Interface

/-- A command other than an open leaves the userdata as it was, or only resets the failure
counter. -/
theorem mainStep_of_not_open (ht : HtTable) (wifi : LocalWifi) {c : Command}
    (hc : ∀ env definition, c ≠ .openDevice env definition) :
    (mainStep ht wifi c).1 = wifi ∨
      (mainStep ht wifi c).1 = { wifi with seqChannelFailure := 0 } := by
  cases c with
  | openDevice env definition => exact absurd rfl (hc env definition)
  | probeDevice => exact .inl rfl
  | chantranslate => exact .inl rfl
  | chancontrol r => exact wifi_of_chancontrol r.driver wifi r.seqno r.privchan

/-- So does a session without an open. -/
theorem mainRun_of_no_open (ht : HtTable) :
    ∀ (wifi : LocalWifi) (cs : List Command), (∀ env definition, .openDevice env definition ∉ cs) →
      (mainRun ht wifi cs).1 = wifi ∨ (mainRun ht wifi cs).1 = { wifi with seqChannelFailure := 0 }
  | _, [], _ => .inl rfl
  | wifi, c :: cs, hno => by
    rw [mainRun_cons]
    rcases mainStep_of_not_open ht wifi (c := c) fun e d h => hno e d (h ▸ List.mem_cons_self _ _)
      with h | h <;>
    rcases mainRun_of_no_open ht _ cs fun e d h => hno e d (List.mem_cons_of_mem c h)
      with h' | h' <;>
    rw [h', h] <;> first | exact .inl rfl | exact .inr rfl

/-- A session without an open keeps the userdata's interface and NetworkManager flag. -/
theorem mainRun_nmFields_of_no_open (ht : HtTable) (wifi : LocalWifi) {cs : List Command}
    (hno : ∀ env definition, .openDevice env definition ∉ cs) :
    (mainRun ht wifi cs).1.interface = wifi.interface ∧
      (mainRun ht wifi cs).1.resetNmManagement = wifi.resetNmManagement := by
  rcases mainRun_of_no_open ht wifi cs hno with h | h <;> rw [h] <;> exact ⟨rfl, rfl⟩

/-- What `main` hands back names the userdata's interface. -/
theorem mainNmReset_eq_some {nm : Option NmAnswer} {wifi : LocalWifi} {i : String}
    (h : mainNmReset nm wifi = some i) : wifi.interface = some i := by
  unfold mainNmReset at h
  split at h
  · exact nomatch h
  · split_ifs at h <;> split at h <;> first | exact Option.noConfusion h | skip
    obtain ⟨d, hd, rfl⟩ := Option.map_eq_some'.mp h
    exact (by simpa using List.find?_some hd : some d.1 = wifi.interface).symm

/-- **Only the last open's interface is handed back.**  For every session of `main` and
every open in it that names an interface, after which no other open comes: the userdata
ends with that interface, and whatever NetworkManager answers when the loop ends, `main`
hands back no other interface.  An interface an earlier open told NetworkManager to let go
of is never handed back once a later open names another. -/
theorem mainRun_nmReset_last_open (ht : HtTable) (cs : List Command) (env : Env)
    (definition : Definition) (cs' : List Command) (hif : definition.interface.length ≠ 0)
    (hlast : ∀ env' definition', .openDevice env' definition' ∉ cs') :
    (mainRun ht mainLocalWifi (cs ++ .openDevice env definition :: cs')).1.interface =
        some definition.interface ∧
      ∀ nm i,
        mainNmReset nm (mainRun ht mainLocalWifi (cs ++ .openDevice env definition :: cs')).1 =
        some i → i = definition.interface := by
  have hif' : (mainRun ht mainLocalWifi (cs ++ .openDevice env definition :: cs')).1.interface =
      some definition.interface := by
    rw [mainRun_append, mainRun_cons, (mainRun_nmFields_of_no_open ht _ hlast).1]
    exact openCallback_interface env definition _ hif
  exact ⟨hif', fun _ _ h => Option.some_injective _ ((mainNmReset_eq_some h).symm.trans hif')⟩

/-- NetworkManager manages `wlan0` and lists `wlan1` when `main` ends: an open of `wlan0`
lets go of it, a later open of `wlan1` (which this machine does not have) fails, and `main`
hands back `wlan1`, not `wlan0`. -/
theorem mainRun_nmReset_last_open_wlan1 :
    mainNmReset (some ⟨.ok (), true, some [("wlan0", false), ("wlan1", false)]⟩)
        (mainRun sampleHtTable mainLocalWifi
          ([.openDevice nmManagedEnv ⟨"wlan0", []⟩] ++
            [.openDevice nmManagedEnv ⟨"wlan1", []⟩])).1 =
      some "wlan1" ∧
    (mainRun sampleHtTable mainLocalWifi
        ([.openDevice nmManagedEnv ⟨"wlan0", []⟩] ++
          [.openDevice nmManagedEnv ⟨"wlan1", []⟩])).1.interface =
      some "wlan1" :=
  ⟨by decide, (mainRun_nmReset_last_open sampleHtTable [.openDevice nmManagedEnv ⟨"wlan0", []⟩]
    nmManagedEnv ⟨"wlan1", []⟩ [] (by decide) (fun _ _ h => nomatch h)).1⟩

/-- **With one open, NetworkManager gets back what it gave.**  For every session of `main`
with exactly one open, whatever comes before and after it, and every NetworkManager that
connects and runs when the loop ends: `main` hands back an interface exactly when that open
told NetworkManager to let go of it and NetworkManager still lists it. -/
theorem mainRun_nmReset_single_open (ht : HtTable) (cs : List Command) (env : Env)
    (definition : Definition) (cs' : List Command)
    (hbefore : ∀ env' definition', .openDevice env' definition' ∉ cs)
    (hafter : ∀ env' definition', .openDevice env' definition' ∉ cs') (nm : NmAnswer)
    (hclient : nm.client = .ok ()) (hrunning : nm.running = true) (i : String) :
    mainNmReset (some nm) (mainRun ht mainLocalWifi (cs ++ .openDevice env definition :: cs')).1 =
        some i ↔
      .nmSetUnmanaged i ∈
          (openCallback env definition (mainRun ht mainLocalWifi cs).1).state.calls ∧
        ((nm.devices.getD []).find? (·.1 == i)).isSome := by
  obtain ⟨hif, hflag⟩ := mainRun_nmFields_of_no_open ht
    (openCallback env definition (mainRun ht mainLocalWifi cs).1).state.wifi hafter
  rw [mainRun_append, mainRun_cons]
  exact mainNmReset_of_open_fields env definition
    (mainRun_nmFields_of_no_open ht mainLocalWifi hbefore).2 hif hflag hclient hrunning i

/-- A hop, the open of `wlan0` that NetworkManager manages, then a probe: `main` hands `wlan0`
back. -/
theorem mainRun_nmReset_single_open_wlan0 :
    mainNmReset (some ⟨.ok (), true, some [("wlan0", false)]⟩)
        (mainRun sampleHtTable mainLocalWifi
          ([.chancontrol ⟨0, some (.ofControlFreq 6), fun _ => .error "Device or resource busy"⟩] ++
            .openDevice nmManagedEnv ⟨"wlan0", []⟩ ::
              [.probeDevice nmManagedEnv ⟨"wlan0", []⟩])).1 =
      some "wlan0" :=
  (mainRun_nmReset_single_open sampleHtTable
    [.chancontrol ⟨0, some (.ofControlFreq 6), fun _ => .error "Device or resource busy"⟩]
    nmManagedEnv ⟨"wlan0", []⟩ [.probeDevice nmManagedEnv ⟨"wlan0", []⟩] (by simp) (by simp)
    ⟨.ok (), true, some [("wlan0", false)]⟩ rfl rfl "wlan0").mpr ⟨by decide, rfl⟩

/-! ## A capture interface held from an earlier open -/

/-- With a capture interface held, `pickVifName` takes the `vif` flag, else the first monitor
twin `getifaddrs` enumerates, else the name held: it never makes a name, and never fails. -/
theorem pickVifName_of_held (w : World) (definition : Definition) (parent : String)
    (mac : MacAddr) (c : String) :
    pickVifName w definition parent mac (some c) =
      .ok ((definition.foundFlag "vif").getD
        (((w.enumerated.find? (IsMonitorTwin parent mac ·)).map (·.name)).getD c)) := by
  unfold pickVifName
  cases definition.foundFlag "vif" with
  | some v => rfl
  | none =>
    simp only [World.twin_ifIndextoname]
    cases w.enumerated.find? (IsMonitorTwin parent mac ·) <;> rfl

/-- **A held capture interface is taken again.**  For every machine, definition and userdata
that already names a capture interface `c`, as it does after every open that got as far as
naming one: when the requested interface is not in monitor mode, an open that returns 1
captures on the `vif` flag's value, else on the first monitor twin of the interface that
`getifaddrs` enumerates, else on `c`.  It never names `<interface>mon` or `kismon<N>`: asked
for another interface with no flag and no twin, it captures under the name an earlier open
chose. -/
theorem openCallback_capInterface_of_held (env : Env) (definition : Definition)
    (wifi : LocalWifi) (c : String) (hcap : wifi.capInterface = some c) (mac : MacAddr)
    (hmac : env.world.getHwaddr definition.interface = .ok mac) (mode : Int)
    (hmode : env.world.getMode definition.interface = .ok mode)
    (hmon : mode ≠ linuxWlextMonitor) (h : (openCallback env definition wifi).ret = 1) :
    (openCallback env definition wifi).state.wifi.capInterface =
      some ((definition.foundFlag "vif").getD
        (((env.world.enumerated.find? (IsMonitorTwin definition.interface mac ·)).map
          (·.name)).getD c)) := by
  obtain ⟨hw, m, cap, s₁, s₂, hhw, hm, hs₁, -, -, hcapr, hfin⟩ := runs_of_openCallback h
  rw [hmac] at hhw
  rw [hmode] at hm
  cases hhw
  cases hm
  obtain ⟨hpick, -, hs₂, -⟩ := capPhase_runs definition hcapr
  have hpick := hpick hmon
  rw [hs₁, hcap, pickVifName_of_held] at hpick
  cases hpick
  exact (openFinish_runs_capInterface env definition hfin).trans hs₂

/-- A hardware address other than `sampleMac`. -/
def otherMac : MacAddr := ⟨[0x00, 0x11, 0x22, 0x33, 0x44, 0x66], rfl⟩

/-- Two radios in managed mode: `wlan0` and `wlan1`. -/
def twoRadioWorld : World :=
  ⟨[⟨"wlan0", .ok sampleMac, .ok 2⟩, ⟨"wlan1", .ok otherMac, .ok 2⟩], "No such device", false,
    by decide⟩

/-- An open of `wlan0`, then one of `wlan1`: the second captures on `wlan0mon`, the name the
first chose. -/
theorem openCallback_capInterface_of_held_wlan1 :
    (openCallback (quietEnv twoRadioWorld) ⟨"wlan1", []⟩
        (openCallback (quietEnv twoRadioWorld) ⟨"wlan0", []⟩ mainLocalWifi).state.wifi).ret = 1 ∧
      (openCallback (quietEnv twoRadioWorld) ⟨"wlan1", []⟩
        (openCallback (quietEnv twoRadioWorld) ⟨"wlan0", []⟩
          mainLocalWifi).state.wifi).state.wifi.capInterface = some "wlan0mon" :=
  ⟨by decide, (openCallback_capInterface_of_held (quietEnv twoRadioWorld) ⟨"wlan1", []⟩ _
    "wlan0mon" (by decide) otherMac rfl 2 rfl (by decide) (by decide)).trans (by decide)⟩

example : (openCallback (quietEnv twoRadioWorld) ⟨"wlan1", []⟩
    (openCallback (quietEnv twoRadioWorld) ⟨"wlan0", []⟩ mainLocalWifi).state.wifi).state.calls =
      [.mac80211Connect "wlan1", .createMonitorVif "wlan1" "wlan0mon" [3, 4],
        .report (.message "Bringing down parent interface 'wlan1'" .info),
        .interfaceDown "wlan1", .interfaceUp "wlan0mon", .pcapOpenLive "wlan0mon"] := by
  decide

end LinuxWifiCapture
