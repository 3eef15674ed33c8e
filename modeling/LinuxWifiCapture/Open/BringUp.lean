import LinuxWifiCapture.Open.Callback

/-!
# Down, up, capture: what the open does to the interfaces' state

Of the calls `open_callback` makes, three change what runs on an interface:
`ifconfig_interface_down`, `ifconfig_interface_up` and `pcap_open_live`
(`OpenCall.isLinkCall`).  All of them are made in the last two phases, `bringUpPhase` and
`capturePhase`.  The parent is brought down when the capture interface is another one,
whether or not a vif was made, unless the definition says `ignoreprimary=true`.

* `openPrepare_linkCalls`, `capPhase_linkCalls`, `monitorPhase_linkCalls`: the phases before
  make none of the three calls.
* `bringUpPhase_runs`: the down of the parent, when there is one, then the up of the capture
  interface.
* `openCallback_linkCalls`: every open that returns 1 makes exactly these calls, then opens
  the capture on the capture interface.
-/

namespace LinuxWifiCapture

open OpenM

/-- Whether a call brings an interface down or up, or opens a capture on it. -/
def OpenCall.isLinkCall : OpenCall → Bool
  | .interfaceDown _ => true
  | .interfaceUp _ => true
  | .pcapOpenLive _ => true
  | _ => false

/-! ## The phases before the bring-up -/

section Before

variable {l : List OpenCall}

theorem Keeps.call_linkCalls {c : OpenCall} (hc : c.isLinkCall = false) :
    Keeps (fun s => s.calls.filter OpenCall.isLinkCall = l) (OpenM.call c) := by
  intro s hs
  simp [OpenM.call, Outcome.state, List.filter_append, hc, hs]

theorem Keeps.modifyWifi_linkCalls (f : LocalWifi → LocalWifi) :
    Keeps (fun s => s.calls.filter OpenCall.isLinkCall = l) (OpenM.modifyWifi f) :=
  fun _ hs => hs

variable (env : Env) (definition : Definition)

theorem openPrepare_linkCalls :
    Keeps (fun s => s.calls.filter OpenCall.isLinkCall = l) (openPrepare env definition) :=
  openPrepare_keeps_of env definition (fun _ => Keeps.call_linkCalls rfl)
    (fun _ => Keeps.call_linkCalls rfl) (fun _ => Keeps.call_linkCalls rfl)
    (fun _ => Keeps.modifyWifi_linkCalls _) (fun _ => Keeps.modifyWifi_linkCalls _)
    fun _ _ hs => hs

theorem capPhase_linkCalls (interface : String) (hwaddr : MacAddr) (mode : Int) :
    Keeps (fun s => s.calls.filter OpenCall.isLinkCall = l)
      (capPhase env.world definition interface hwaddr mode) :=
  capPhase_keeps_of env definition (fun _ => Keeps.modifyWifi_linkCalls _) _ _ _

theorem monitorPhase_linkCalls (interface cap : String) :
    Keeps (fun s => s.calls.filter OpenCall.isLinkCall = l)
      (monitorPhase env definition interface cap) :=
  monitorPhase_keeps_of env definition (fun _ => Keeps.call_linkCalls rfl)
    (fun _ _ _ => Keeps.modifyWifi_linkCalls _) (Keeps.call_linkCalls rfl) fun _ =>
    ⟨vifPhase_keeps_of env definition (fun _ => Keeps.call_linkCalls rfl)
      (fun _ _ _ => Keeps.modifyWifi_linkCalls _) (Keeps.call_linkCalls rfl)
      (fun _ => Keeps.call_linkCalls rfl) (Keeps.call_linkCalls rfl)
      (Keeps.modifyWifi_linkCalls _),
      setModePhase_keeps_of env (fun _ => Keeps.call_linkCalls rfl) (Keeps.call_linkCalls rfl)⟩

end Before

/-! ## The bring-up -/

/-- What `bringUpPhase` adds when it goes on: the down of the parent when the capture
interface is another one and `ignoreprimary` is not set, then the up of the capture
interface. -/
theorem bringUpPhase_runs (env : Env) (definition : Definition) {interface cap : String}
    {s s' : OpenState} {u : Unit} (h : Runs (bringUpPhase env definition interface cap) s u s') :
    s'.calls.filter OpenCall.isLinkCall = s.calls.filter OpenCall.isLinkCall ++
      ((if interface ≠ cap ∧ definition.flagTrue "ignoreprimary" = false then
          [.interfaceDown interface] else []) ++ [.interfaceUp cap]) := by
  simp only [bringUpPhase] at h
  by_cases hne : interface ≠ cap
  · cases hig : definition.flagTrue "ignoreprimary"
    · simp only [if_pos hne, hig, Bool.false_eq_true, if_false, runs_message_bind,
        runs_call_bind, runs_orAbort_bind, runs_orAbort] at h
      obtain ⟨_, -, -, rfl⟩ := h
      simp [List.filter_append, OpenCall.isLinkCall, hne]
    · simp only [if_pos hne, hig, if_true, runs_message_bind, runs_call_bind, runs_orAbort] at h
      obtain ⟨-, rfl⟩ := h
      simp [List.filter_append, OpenCall.isLinkCall]
  · simp only [if_neg hne, runs_pure_bind, runs_call_bind, runs_orAbort] at h
    obtain ⟨-, rfl⟩ := h
    simp [List.filter_append, OpenCall.isLinkCall, hne]

/-- **Down, up, capture.**  For every machine, definition and userdata, an open that returns
1 brings the requested interface down exactly when it captures on another interface and the
definition does not set `ignoreprimary`, then brings the capture interface up and opens the
capture on it; it brings nothing else down or up and opens no other capture. -/
theorem openCallback_linkCalls (env : Env) (definition : Definition) (wifi : LocalWifi)
    (h : (openCallback env definition wifi).ret = 1) :
    ∃ cap, (openCallback env definition wifi).state.wifi.capInterface = some cap ∧
      (openCallback env definition wifi).state.calls.filter OpenCall.isLinkCall =
        (if definition.interface ≠ cap ∧ definition.flagTrue "ignoreprimary" = false then
          [.interfaceDown definition.interface] else []) ++
          [.interfaceUp cap, .pcapOpenLive cap] := by
  obtain ⟨_, _, cap, s₁, s₂, -, -, -, -, hprep, hcapr, hfin⟩ := runs_of_openCallback h
  obtain ⟨-, -, hs₂, -⟩ := capPhase_runs definition hcapr
  have hcap := (openFinish_runs_capInterface env definition hfin).trans hs₂
  have h₁ := (openPrepare_linkCalls (l := []) env definition).runs (by rfl) hprep
  have h₂ := (capPhase_linkCalls env definition _ _ _).runs h₁ hcapr
  obtain ⟨_, s₃, hmon, hfin⟩ := runs_bind.mp hfin
  obtain ⟨_, s₄, hup, hfin⟩ := runs_bind.mp hfin
  have h₃ := (monitorPhase_linkCalls env definition _ _).runs h₂ hmon
  obtain ⟨-, -, -, -, -, -, -, hcalls⟩ := capturePhase_runs env hfin
  refine ⟨cap, hcap, ?_⟩
  rw [hcalls, List.filter_append, bringUpPhase_runs env definition hup, h₃]
  simp [OpenCall.isLinkCall]

/-- `wlan0` in managed mode, on a machine where everything succeeds: `wlan0` goes down,
`wlan0mon` comes up and is captured on. -/
theorem openCallback_linkCalls_wlan0 :
    (openCallback (quietEnv managedWorld) ⟨"wlan0", []⟩ mainLocalWifi).state.calls.filter
        OpenCall.isLinkCall =
      [.interfaceDown "wlan0", .interfaceUp "wlan0mon", .pcapOpenLive "wlan0mon"] := by
  obtain ⟨cap, hcap, hcalls⟩ :=
    openCallback_linkCalls (quietEnv managedWorld) ⟨"wlan0", []⟩ mainLocalWifi (by decide)
  have : cap = "wlan0mon" := Option.some_injective _ (hcap.symm.trans (by decide))
  subst this
  exact hcalls.trans (by decide)

end LinuxWifiCapture
