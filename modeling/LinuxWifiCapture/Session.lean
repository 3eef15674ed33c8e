import LinuxWifiCapture.Open.NetworkManager
import LinuxWifiCapture.Channel.Control
import LinuxWifiCapture.Capture

/-!
# The running source: channel sets beside the capture thread

Once `open_callback` has returned 1, the framework starts `capture_thread` on a thread of its
own and goes on calling `chancontrol_callback` from the main thread, for every hop and every
configure command.  The two share the userdata and take no lock.  What makes that safe is
that they touch disjoint parts of it: a channel set writes only the failure counter
(`chancontrolRun_wifi`), and the capture thread reads only the handle, the link type and the
capture interface (`captureThread_congr`).

* `captureThread_after_hops`: the capture thread does the same on the userdata as it stands
  after any of the channel sets as on the userdata before them.  However its reads fall
  between the channel sets, it hands the framework the same calls.
* `openCallback_captureThread_datalink`: after a successful open, every packet the framework
  takes is carried with the link type of the handle the open got from `pcap_open_live`.
* `mainNmReset_after_open`: when the framework's loop ends, before the channel sets or after
  any of them, `main` hands NetworkManager back exactly the interface the open took from it.
  What matters after the open is only the interface and the flag the userdata keeps
  (`mainNmReset_of_open_fields`), which the channel sets do not touch.
-/

namespace LinuxWifiCapture

/-- A run of channel sets changes nothing of the userdata but the failure counter. -/
theorem chancontrolRun_wifi :
    ∀ (wifi : LocalWifi) (rs : List ChanRequest), ∀ res ∈ chancontrolRun wifi rs,
      res.wifi = { wifi with seqChannelFailure := res.wifi.seqChannelFailure }
  | _, [] => by simp [chancontrolRun]
  | wifi, r :: rs => by
    have hstep : (chancontrolCallback r.driver wifi r.seqno r.privchan).wifi =
        { wifi with
          seqChannelFailure :=
            (chancontrolCallback r.driver wifi r.seqno r.privchan).wifi.seqChannelFailure } := by
      rcases wifi_of_chancontrol r.driver wifi r.seqno r.privchan with h | h <;> rw [h]
    simp only [chancontrolRun, List.mem_cons, forall_eq_or_imp]
    refine ⟨hstep, fun res hres => ?_⟩
    rw [chancontrolRun_wifi _ rs res hres, hstep]

/-- **Channel sets never disturb the capture.**  For every userdata and every run of channel
sets from it, the capture thread started on the userdata as it stands after any call of the
run makes the same calls, on every stream and every answer, as on the userdata before the
run: the hops and the configure commands write nothing the capture thread reads. -/
theorem captureThread_after_hops (wifi : LocalWifi) (rs : List ChanRequest) :
    ∀ res ∈ chancontrolRun wifi rs, ∀ (packets : List Packet) (rets : List Int)
      (pcapErrstr : String) (ifflags : Except String Nat),
      captureThread res.wifi packets rets pcapErrstr ifflags =
        captureThread wifi packets rets pcapErrstr ifflags := by
  intro res hres
  have h := chancontrolRun_wifi wifi rs res hres
  exact captureThread_congr (by rw [h]) (by rw [h]) (by rw [h])

/-- A hop to channel 6 that the driver refuses, then a packet the framework takes at once. -/
theorem captureThread_after_hops_busy :
    chancontrolCallback (fun _ => .error "Device or resource busy") capturingWifi 0
        (some (.ofControlFreq 6)) ∈
      chancontrolRun capturingWifi
        [⟨0, some (.ofControlFreq 6), fun _ => .error "Device or resource busy"⟩] ∧
    captureThread (chancontrolCallback (fun _ => .error "Device or resource busy") capturingWifi 0
        (some (.ofControlFreq 6))).wifi [⟨⟨(0, 0), 1⟩, [7]⟩] [1] "" (.ok 1) =
      captureThread capturingWifi [⟨⟨(0, 0), 1⟩, [7]⟩] [1] "" (.ok 1) :=
  ⟨List.mem_singleton_self _, captureThread_after_hops capturingWifi
    [⟨0, some (.ofControlFreq 6), fun _ => .error "Device or resource busy"⟩] _
    (List.mem_singleton_self _) _ _ _ _⟩

/-- **The capture carries the link type of the open's handle.**  For every machine,
definition and userdata: when `open_callback` returns 1, the capture interface has a handle
from `pcap_open_live`, and on every stream and every answer each packet the framework takes
from the capture thread is a captured packet, carried with the link type `pcap_datalink`
gives for that handle. -/
theorem openCallback_captureThread_datalink (env : Env) (definition : Definition)
    (wifi : LocalWifi) (h : (openCallback env definition wifi).ret = 1) :
    ∃ cap pd, (openCallback env definition wifi).state.wifi.capInterface = some cap ∧
      (env.pcapOpenLive cap).1 = some pd ∧
      ∀ (packets : List Packet) (rets : List Int) (pcapErrstr : String)
        (ifflags : Except String Nat),
        ∀ c ∈ taken (captureThread (openCallback env definition wifi).state.wifi packets rets
            pcapErrstr ifflags).calls rets,
          ∃ p ∈ packets,
            c = .sendData p.header.ts (env.pcapDatalink pd) p.header.caplen p.data := by
  obtain ⟨cap, pd, hcap, hpd, -, hdlt⟩ := capture_of_openCallback h
  refine ⟨cap, pd, hcap, hpd, fun packets rets pcapErrstr ifflags c hc => ?_⟩
  rw [taken_captureThread] at hc
  obtain ⟨p, hp, rfl⟩ := List.mem_map.mp ((taken_pcapLoop_in_order _ packets rets).subset hc)
  exact ⟨p, hp, by rw [sendDataCall, hdlt]⟩

/-- `wlan0` in managed mode, on a machine where everything succeeds: the capture runs on the
vif, with the handle pcap gave for it. -/
theorem openCallback_captureThread_datalink_wlan0 :
    (openCallback (quietEnv managedWorld) ⟨"wlan0", []⟩ mainLocalWifi).ret = 1 ∧
      ∃ cap pd,
        (openCallback (quietEnv managedWorld) ⟨"wlan0", []⟩
            mainLocalWifi).state.wifi.capInterface = some cap ∧
          ((quietEnv managedWorld).pcapOpenLive cap).1 = some pd :=
  have h := openCallback_captureThread_datalink (quietEnv managedWorld) ⟨"wlan0", []⟩
    mainLocalWifi (by decide)
  ⟨by decide, h.imp fun _ ⟨pd, hcap, hpd, _⟩ => ⟨pd, hcap, hpd⟩⟩

/-! ## The end of the process -/

/-- After an open from a userdata whose NetworkManager flag is clear, every userdata with the
interface and the flag the open left hands back exactly what the open let go of. -/
theorem mainNmReset_of_open_fields (env : Env) (definition : Definition) {wifi : LocalWifi}
    (h₀ : wifi.resetNmManagement = 0) {w : LocalWifi}
    (hif : w.interface = (openCallback env definition wifi).state.wifi.interface)
    (hflag : w.resetNmManagement =
      (openCallback env definition wifi).state.wifi.resetNmManagement)
    {nm : NmAnswer} (hclient : nm.client = .ok ()) (hrunning : nm.running = true) (i : String) :
    mainNmReset (some nm) w = some i ↔
      .nmSetUnmanaged i ∈ (openCallback env definition wifi).state.calls ∧
        ((nm.devices.getD []).find? (·.1 == i)).isSome :=
  mainNmReset_of_nmConsistent (s := { (openCallback env definition wifi).state with wifi := w })
    ((nmConsistent_openCallback env definition wifi h₀).of_nmView
      (by simp only [nmView, hif, hflag])) hclient hrunning i

/-- **NetworkManager gets back what the open took.**  For every machine, definition and run of
channel sets after an open from `main`'s userdata, and every NetworkManager that runs when
`main` ends: whenever the framework's loop ends, before the channel sets or after any of
them, `main` hands back an interface exactly when the open told NetworkManager to let go of
it and NetworkManager still lists it. -/
theorem mainNmReset_after_open (env : Env) (definition : Definition) (rs : List ChanRequest)
    (nm : NmAnswer) (hclient : nm.client = .ok ()) (hrunning : nm.running = true) :
    ∀ w ∈ (openCallback env definition mainLocalWifi).state.wifi ::
        (chancontrolRun (openCallback env definition mainLocalWifi).state.wifi rs).map (·.wifi),
      ∀ i, mainNmReset (some nm) w = some i ↔
        .nmSetUnmanaged i ∈ (openCallback env definition mainLocalWifi).state.calls ∧
          ((nm.devices.getD []).find? (·.1 == i)).isSome := by
  intro w hw
  have hfields : w.interface = (openCallback env definition mainLocalWifi).state.wifi.interface ∧
      w.resetNmManagement =
        (openCallback env definition mainLocalWifi).state.wifi.resetNmManagement := by
    rcases List.mem_cons.mp hw with rfl | hw
    · exact ⟨rfl, rfl⟩
    · obtain ⟨res, hres, rfl⟩ := List.mem_map.mp hw
      rw [chancontrolRun_wifi _ rs res hres]
      exact ⟨rfl, rfl⟩
  exact mainNmReset_of_open_fields env definition rfl hfields.1 hfields.2 hclient hrunning

/-- A machine where NetworkManager manages `wlan0`. -/
def nmManagedEnv : Env :=
  { quietEnv managedWorld with nm := some ⟨.ok (), true, some [("wlan0", true)]⟩ }

/-- The open lets go of `wlan0`, and `main` hands it back at the end. -/
theorem mainNmReset_after_open_wlan0 :
    mainNmReset (some ⟨.ok (), true, some [("wlan0", true)]⟩)
        (openCallback nmManagedEnv ⟨"wlan0", []⟩ mainLocalWifi).state.wifi =
      some "wlan0" :=
  (mainNmReset_after_open nmManagedEnv ⟨"wlan0", []⟩ [] ⟨.ok (), true, some [("wlan0", true)]⟩
    rfl rfl _ (List.mem_cons_self _ _) "wlan0").mpr ⟨by decide, rfl⟩

end LinuxWifiCapture
