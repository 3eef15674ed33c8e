import LinuxWifiCapture.Open.World

/-!
# `open_callback`

`open_callback` turns a source definition into a running capture.  It finds the interface,
clears a soft rfkill, makes the uuid, reads the interface's mode and tells NetworkManager to
let go of it.  It then picks the interface to capture on and puts that interface in monitor
mode: a new vif when netlink works, the interface itself through the legacy call otherwise.
Last, it brings the interfaces down and up, reads the channels and opens the capture.  It
returns 1, or -1 with the reason in `msg`, and every step can fail.

## The model

A step of the callback is an `OpenM`.  From the state so far (the userdata, the uuid, the
channels, and the calls made, in order) it either goes on with a value or stops, returning
-1 with the text of `msg`.  Either way it leaves a state.  `OpenM` is a monad, so the model
reads as the source does, one phase of the source per definition:

| source | model |
|---|---|
| interface, MAC, rfkill, uuid, mode, NetworkManager | `openPrepare`, `rfkillPhase`, `nmPhase` |
| the vif name (`mode != LINUX_WLEXT_MONITOR`) | `pickVifName`, `capPhase` |
| netlink connect, vif creation, set mode | `monitorPhase`, `vifPhase`, `setModePhase` |
| bring down the parent, bring up the capture interface | `bringUpPhase` |
| channels, pcap and the text of `msg` | `capturePhase`, `capturingMsg` |

`openFinish` is the three phases after the name is chosen.

Every phase after `capPhase` reads `local_wifi->cap_interface`, which nothing writes after
`capPhase`; the model hands them the name `capPhase` chose.  The check of
`populate_chanlist`'s value for a negative one is left out: that function returns only 0
or 1 (`populateChanlist_fst_nonneg`).  For the same reason `probe_callback`, which lists the
channels of the interface it is given, answers 1 for every definition that names an
interface, and 0 for one that names none (`probeCallback_ret`); the channel-list calls
write their errors into its `msg` (`probeCallback_msg_eq_none_iff`).

## Running a phase

`OpenM.Keeps P m` says that every state `m` can leave, from a state with `P`, has `P`,
whether `m` goes on or stops.  `Keeps` goes through `bind`, `if` and `match`.  Each phase has
one lemma (`openPrepare_keeps_of`, `monitorPhase_keeps_of`, ...) saying that it keeps every
`P` that each write it makes keeps, so an invariant of the whole callback is proved by
giving one fact per kind of write, and no proof walks a phase again.  `OpenM.Triple P m Q F` is the general form: from a state with `P`, `m` leaves one
with `Q` when it goes on and one with `F` when it stops.  A fact that holds after a phase
but not between its steps is a triple of the phase.  `OpenM.Runs m s a s'` says that `m`
goes on from `s` with `a`, leaving `s'`, and `runs_bind` takes a run of a `bind` apart into
its two halves; the simp lemmas `runs_call_bind`, `runs_orAbort_bind` and their kind step a
run over one primitive at a time.
-/

namespace LinuxWifiCapture

/-- A call of `open_callback` that acts on the machine or reports to the parent. -/
inductive OpenCall
  /-- `cf_send_message`. -/
  | report (r : Report)
  /-- `linux_sys_clear_rfkill (interface)`. -/
  | clearRfkill (interface : String)
  /-- `nm_device_set_managed (device, 0)`. -/
  | nmSetUnmanaged (interface : String)
  /-- `mac80211_connect (interface, ..)`. -/
  | mac80211Connect (interface : String)
  /-- `mac80211_create_monitor_vif (interface, cap_interface, flags, ..)`. -/
  | createMonitorVif (interface capInterface : String) (flags : List UInt32)
  /-- `iwconfig_set_mode (interface, errstr, mode)`. -/
  | setMode (interface : String) (mode : Int)
  /-- `mac80211_disconnect (handle, cache)`. -/
  | mac80211Disconnect
  /-- `ifconfig_interface_down (interface, errstr)`. -/
  | interfaceDown (interface : String)
  /-- `ifconfig_interface_up (interface, errstr)`. -/
  | interfaceUp (interface : String)
  /-- `pcap_open_live (interface, ..)`. -/
  | pcapOpenLive (interface : String)
  deriving DecidableEq, Repr

/-- What `open_callback` builds besides its return value. -/
structure OpenState where
  wifi : LocalWifi
  uuid : Option String
  chanlist : List String
  calls : List OpenCall
  deriving DecidableEq, Repr

/-- Where a step of `open_callback` leaves it: going on with a value, or returning -1 with
the text of `msg`; either way with the state reached. -/
inductive Outcome (α : Type) where
  | next (a : α) (s : OpenState)
  | fail (msg : String) (s : OpenState)

/-- The state an outcome leaves. -/
def Outcome.state {α : Type} : Outcome α → OpenState
  | .next _ s => s
  | .fail _ s => s

/-- A step of `open_callback`. -/
def OpenM (α : Type) : Type := OpenState → Outcome α

namespace OpenM

instance : Monad OpenM where
  pure a s := .next a s
  bind m f s :=
    match m s with
    | .next a s' => f a s'
    | .fail msg s' => .fail msg s'

/-- Return -1 with `msg`. -/
def abort {α : Type} (msg : String) : OpenM α := fun s => .fail msg s

/-- Make a call. -/
def call (c : OpenCall) : OpenM Unit := fun s => .next () { s with calls := s.calls ++ [c] }

/-- `cf_send_message (caph, text, flag)`. -/
def message (text : String) (flag : MsgFlag) : OpenM Unit := call (.report (.message text flag))

/-- Change the userdata. -/
def modifyWifi (f : LocalWifi → LocalWifi) : OpenM Unit :=
  fun s => .next () { s with wifi := f s.wifi }

/-- Read the userdata. -/
def getWifi : OpenM LocalWifi := fun s => .next s.wifi s

/-- `*uuid = strdup (..)`. -/
def setUuid (u : String) : OpenM Unit := fun s => .next () { s with uuid := some u }

/-- `*chanlist = ..`. -/
def setChanlist (cs : List String) : OpenM Unit := fun s => .next () { s with chanlist := cs }

section Laws

variable {α β : Type}

@[simp] theorem pure_apply (a : α) (s : OpenState) : (pure a : OpenM α) s = .next a s := rfl

@[simp] theorem bind_apply (m : OpenM α) (f : α → OpenM β) (s : OpenState) :
    (m >>= f) s = match m s with
      | .next a s' => f a s'
      | .fail msg s' => .fail msg s' := rfl

@[simp] theorem abort_apply (msg : String) (s : OpenState) :
    (abort msg : OpenM α) s = .fail msg s := rfl

end Laws

/-! ### Invariants -/

section Keeps

variable {α β : Type} {P : OpenState → Prop}

/-- Every state `m` can leave, from a state with `P`, has `P`. -/
def Keeps (P : OpenState → Prop) (m : OpenM α) : Prop := ∀ s, P s → P (m s).state

theorem Keeps.pure (a : α) : Keeps P (pure a : OpenM α) := fun _ hs => hs

theorem Keeps.abort (msg : String) : Keeps P (abort msg : OpenM α) := fun _ hs => hs

theorem Keeps.bind {m : OpenM α} {f : α → OpenM β} (hm : Keeps P m)
    (hf : ∀ a, Keeps P (f a)) :
    Keeps P (m >>= f) := by
  intro s hs
  have := hm s hs
  simp only [bind_apply]
  cases h : m s with
  | next a s' => rw [h] at this; exact hf a s' this
  | fail msg s' => rw [h] at this; exact this

theorem Keeps.ite {c : Prop} {_ : Decidable c} {m₁ m₂ : OpenM α} (h₁ : Keeps P m₁)
    (h₂ : Keeps P m₂) : Keeps P (if c then m₁ else m₂) := by
  split <;> assumption

/-- A fact about the userdata alone survives every call and every message. -/
theorem Keeps.call {Q : LocalWifi → Prop} (c : OpenCall) :
    Keeps (fun s => Q s.wifi) (call c) := fun _ hs => hs

theorem Keeps.message {Q : LocalWifi → Prop} (text : String) (flag : MsgFlag) :
    Keeps (fun s => Q s.wifi) (message text flag) := fun _ hs => hs

theorem Keeps.modifyWifi {Q : LocalWifi → Prop} {f : LocalWifi → LocalWifi}
    (hf : ∀ w, Q w → Q (f w)) : Keeps (fun s => Q s.wifi) (modifyWifi f) := fun _ hs => hf _ hs

theorem Keeps.getWifi : Keeps P getWifi := fun _ hs => hs

theorem Keeps.setUuid {Q : LocalWifi → Prop} (u : String) :
    Keeps (fun s => Q s.wifi) (setUuid u) := fun _ hs => hs

theorem Keeps.setChanlist {Q : LocalWifi → Prop} (cs : List String) :
    Keeps (fun s => Q s.wifi) (setChanlist cs) := fun _ hs => hs

/-- Only `setUuid` writes the uuid. -/
theorem Keeps.call_uuid {u : Option String} (c : OpenCall) :
    Keeps (fun s => s.uuid = u) (OpenM.call c) := fun _ hs => hs

theorem Keeps.message_uuid {u : Option String} (text : String) (flag : MsgFlag) :
    Keeps (fun s => s.uuid = u) (OpenM.message text flag) := fun _ hs => hs

theorem Keeps.modifyWifi_uuid {u : Option String} (f : LocalWifi → LocalWifi) :
    Keeps (fun s => s.uuid = u) (OpenM.modifyWifi f) := fun _ hs => hs

theorem Keeps.setChanlist_uuid {u : Option String} (cs : List String) :
    Keeps (fun s => s.uuid = u) (OpenM.setChanlist cs) := fun _ hs => hs

end Keeps

/-! ### Triples -/

section Triple

variable {α β : Type} {P Q R F : OpenState → Prop}

/-- From a state with `P`, `m` leaves a state with `Q` when it goes on, and one with `F` when
it stops.  A fact that holds only between two steps of a phase is a triple of the phase,
not a `Keeps`. -/
def Triple (P : OpenState → Prop) (m : OpenM α) (Q F : OpenState → Prop) : Prop :=
  ∀ s, P s → match m s with
    | .next _ s' => Q s'
    | .fail _ s' => F s'

theorem Triple.of_keeps {m : OpenM α} (h : Keeps P m) (hF : ∀ s, P s → F s) :
    Triple P m P F := fun s hs => by
  have h' := h s hs
  revert h'
  cases m s with
  | next _ s' => exact id
  | fail _ s' => exact hF s'

theorem Triple.pure (a : α) : Triple P (pure a : OpenM α) P F := fun _ hs => hs

theorem Triple.abort (hF : ∀ s, P s → F s) (msg : String) : Triple P (abort msg : OpenM α) Q F :=
  fun s hs => hF s hs

theorem Triple.bind {m : OpenM α} {f : α → OpenM β} (hm : Triple P m Q F)
    (hf : ∀ a, Triple Q (f a) R F) : Triple P (m >>= f) R F := by
  intro s hs
  have := hm s hs
  simp only [bind_apply]
  cases h : m s with
  | next a s' => rw [h] at this; exact hf a s' this
  | fail msg s' => rw [h] at this; exact this

theorem Triple.ite {c : Prop} {_ : Decidable c} {m₁ m₂ : OpenM α} (h₁ : Triple P m₁ Q F)
    (h₂ : Triple P m₂ Q F) : Triple P (if c then m₁ else m₂) Q F := by
  split <;> assumption

/-- A fact of the state left, whichever way `m` ends, is a triple with one postcondition. -/
theorem Triple.of_state {m : OpenM α} (h : ∀ s, P s → Q (m s).state) : Triple P m Q Q :=
  fun s hs => by
    have := h s hs
    revert this
    cases m s <;> exact id

/-- What a triple promises for the state left, whichever way `m` ends. -/
theorem Triple.state {m : OpenM α} (h : Triple P m Q Q) {s : OpenState} (hs : P s) :
    Q (m s).state := by
  have := h s hs
  revert this
  cases m s <;> exact id

end Triple

/-! ### Runs -/

section Runs

variable {α β : Type}

/-- `m` goes on from `s` with `a`, leaving `s'`. -/
def Runs (m : OpenM α) (s : OpenState) (a : α) (s' : OpenState) : Prop := m s = .next a s'

theorem runs_bind {m : OpenM α} {f : α → OpenM β} {s s' : OpenState} {b : β} :
    Runs (m >>= f) s b s' ↔ ∃ a s₁, Runs m s a s₁ ∧ Runs (f a) s₁ b s' := by
  simp only [Runs, bind_apply]
  cases m s with
  | next a s₁ =>
    exact ⟨fun h => ⟨a, s₁, rfl, h⟩,
      fun ⟨_, _, h₁, h₂⟩ => by cases h₁; exact h₂⟩
  | fail msg s₁ => exact ⟨fun h => (by cases h), fun ⟨_, _, h₁, _⟩ => (by cases h₁)⟩

section Primitives

variable {s s' : OpenState} {b : β} {f : Unit → OpenM β}

/-! A run that starts with a primitive is a run of the rest from the state the primitive
leaves. -/

@[simp] theorem runs_pure {a a' : α} : Runs (pure a : OpenM α) s a' s' ↔ a = a' ∧ s = s' := by
  simp [Runs]

@[simp] theorem runs_pure_bind {a : α} {g : α → OpenM β} :
    Runs (pure a >>= g) s b s' ↔ Runs (g a) s b s' :=
  Iff.rfl

@[simp] theorem runs_call_bind {c : OpenCall} :
    Runs (call c >>= f) s b s' ↔ Runs (f ()) { s with calls := s.calls ++ [c] } b s' :=
  Iff.rfl

@[simp] theorem runs_message_bind {text : String} {flag : MsgFlag} :
    Runs (message text flag >>= f) s b s' ↔
      Runs (f ()) { s with calls := s.calls ++ [.report (.message text flag)] } b s' :=
  Iff.rfl

@[simp] theorem runs_modifyWifi_bind {g : LocalWifi → LocalWifi} :
    Runs (modifyWifi g >>= f) s b s' ↔ Runs (f ()) { s with wifi := g s.wifi } b s' :=
  Iff.rfl

@[simp] theorem runs_setChanlist_bind {cs : List String} :
    Runs (setChanlist cs >>= f) s b s' ↔ Runs (f ()) { s with chanlist := cs } b s' :=
  Iff.rfl

end Primitives

/-- What a step keeps holds of every state it goes on from. -/
theorem Keeps.runs {P : OpenState → Prop} {m : OpenM α} (hm : Keeps P m) {s s' : OpenState}
    {a : α} (hs : P s) (h : Runs m s a s') : P s' := by
  have := hm s hs
  rwa [h] at this

/-- Two continuations that agree on every value `m` can go on with make the same `bind`. -/
theorem bind_congr_runs {m : OpenM α} {f g : α → OpenM β}
    (h : ∀ s a s', Runs m s a s' → f a s' = g a s') : m >>= f = m >>= g := by
  funext s
  simp only [bind_apply]
  cases hm : m s with
  | next a s' => exact h s a s' hm
  | fail msg s' => rfl

end Runs

end OpenM

open OpenM

/-! ## The phases -/

/-- The answer of an adapter call: its value, or -1 with the message made from its
`errstr`. -/
def orAbort {α : Type} (r : Except String α) (msg : String → String) : OpenM α :=
  match r with
  | .ok a => pure a
  | .error e => abort (msg e)

theorem OpenM.Keeps.orAbort {α : Type} {P : OpenState → Prop} (r : Except String α)
    (msg : String → String) : Keeps P (orAbort r msg) := by
  unfold LinuxWifiCapture.orAbort
  split
  · exact Keeps.pure _
  · exact Keeps.abort _

theorem runs_orAbort {α : Type} {r : Except String α} {msg : String → String}
    {s s' : OpenState} {a : α} : Runs (orAbort r msg) s a s' ↔ r = .ok a ∧ s' = s := by
  unfold orAbort Runs
  cases r <;> simp [eq_comm]

@[simp] theorem runs_orAbort_bind {α β : Type} {r : Except String α} {msg : String → String}
    {f : α → OpenM β} {s s' : OpenState} {b : β} :
    Runs (orAbort r msg >>= f) s b s' ↔ ∃ a, r = .ok a ∧ Runs (f a) s b s' := by
  cases r <;> simp [orAbort, Runs]

/-- The rfkill checks: a hard rfkill stops the callback, a soft one is cleared. -/
def rfkillPhase (env : Env) (interface : String) : OpenM Unit :=
  if env.hardRfkill interface = 1 then
    abort ("Interface '" ++ interface ++ "' is set to hard rfkill; check your " ++
      "wireless switch if you have one.")
  else if env.softRfkill interface = 1 then do
    call (.clearRfkill interface)
    if !env.clearRfkill interface then
      abort ("Unable to activate interface '" ++ interface ++ "' set to soft rfkill")
    else
      message ("Removed soft-rfkill and enabled interface '" ++ interface ++ "'") .info
  else pure ()

/-- The NetworkManager block (`HAVE_LIBNM`): a managed device of the interface is told to let
go, and `reset_nm_management` remembers whether it was managed. -/
def nmPhase (env : Env) (interface : String) : OpenM Unit :=
  match env.nm with
  | none => pure ()
  | some nm =>
    match nm.client with
    | .error (some e) =>
      message ("Could not connect to NetworkManager, cannot automatically prevent " ++
        "interface '" ++ interface ++ "' from being modified if NetworkManager is " ++
        "running: " ++ e) .info
    | .error none =>
      message ("Could not connect to NetworkManager, cannot automatically prevent " ++
        "interface '" ++ interface ++ "' from being modified if NetworkManager is " ++
        "running.") .info
    | .ok () =>
      match (if nm.running then (nm.devices.getD []).find? (·.1 == interface) else none) with
      | none => pure ()
      | some (_, managed) => do
        modifyWifi fun w => { w with resetNmManagement := if managed then 1 else 0 }
        if managed then do
          message ("Telling NetworkManager not to control interface '" ++ interface ++
            "': you may need to re-initialize this interface later or tell " ++
            "NetworkManager to control it again via 'nmcli'") .info
          call (.nmSetUnmanaged interface)
        else pure ()

/-- Everything before the vif name: the interface, its hardware address, rfkill, the uuid,
its mode and NetworkManager. -/
def openPrepare (env : Env) (definition : Definition) : OpenM (String × MacAddr × Int) :=
  if definition.interface.length = 0 then abort "Unable to find interface in definition"
  else do
    let interface := definition.interface
    modifyWifi fun w => { w with interface := some interface }
    let hwaddr ← orAbort (env.world.getHwaddr interface) fun e =>
      "Could not fetch interface address from '" ++ interface ++ "': " ++ e
    rfkillPhase env interface
    setUuid (uuidString env.uuidCsum hwaddr)
    let mode ← orAbort (env.world.getMode interface) fun e =>
      "Unable to get current wireless mode of interface '" ++ interface ++ "': " ++ e
    nmPhase env interface
    pure (interface, hwaddr, mode)

/-- The vif name for an interface that is not in monitor mode, from the `cap_interface` the
userdata already holds: the `vif=` flag; else an interface with the same hardware address in
monitor mode; else, when none was found and none was held, `<interface>mon` if it fits in
`IFNAMSIZ` and `kismon<N>` otherwise. -/
def pickVifName (w : World) (definition : Definition) (interface : String) (hwaddr : MacAddr)
    (capInterface : Option String) : Except String String :=
  let chosen : Option String :=
    match definition.foundFlag "vif" with
    | some v => some v
    | none =>
      let existingIfnum := findInterfaceModeByMac w (some interface) linuxWlextMonitor hwaddr
      match (if existingIfnum ≥ 0 then w.ifIndextoname existingIfnum.toNat else none) with
      | some ifnam => some ifnam
      | none => capInterface
  match chosen with
  | some c => .ok c
  | none =>
    if interface.length + 3 ≥ ifnamsiz then
      let ifnum := findNextIfnum w "kismon"
      if ifnum < 0 then
        .error ("Could not append 'mon' extension to existing interface (" ++ interface ++
          ") and could not find a kismonX within 100 tries")
      else .ok (snprintf ifnamsiz ("kismon" ++ formatNat ifnum.toNat))
    else
      let ifnam := snprintf ifnamsiz (interface ++ "mon")
      match w.getMode ifnam with
      | .ok mode =>
        if mode ≠ linuxWlextMonitor then
          .error ("A monitor vif already exists for interface '" ++ interface ++ "' (" ++
            ifnam ++ ") but isn't in monitor mode, check that NetworkManager isn't " ++
            "hijacking the interface, delete the false monitor vif, and try again.")
        else .ok ifnam
      | .error _ => .ok ifnam

/-- The capture interface: the interface itself when it is in monitor mode, the vif name
otherwise; written to `cap_interface`. -/
def capPhase (w : World) (definition : Definition) (interface : String) (hwaddr : MacAddr)
    (mode : Int) : OpenM String := do
  let wifi ← getWifi
  let cap ← (if mode ≠ linuxWlextMonitor then
      orAbort (pickVifName w definition interface hwaddr wifi.capInterface) id
    else pure interface)
  modifyWifi fun w => { w with capInterface := some cap }
  pure cap

/-- The flags of the monitor vif: control frames and other BSSes always, frames failing the
FCS or PLCP check when the definition asks for them, with a message for each. -/
def vifFlags (definition : Definition) (interface : String) : OpenM (List UInt32) := do
  let fcs := definition.flagTrue "fcsfail"
  if fcs then
    message ("Source '" ++ interface ++ "' configuring monitor interface to pass packets " ++
      "which fail FCS checksum") .info
  let plcp := definition.flagTrue "plcpfail"
  if plcp then
    message ("Source '" ++ interface ++ "' configuring monitor interface to pass packets " ++
      "which fail PLCP checksum") .info
  pure ([nl80211MntrFlagControl, nl80211MntrFlagOtherBss] ++
    (if fcs then [nl80211MntrFlagFcsfail] else []) ++
    (if plcp then [nl80211MntrFlagPlcpfail] else []))

/-- A new monitor vif through netlink, and the legacy set-mode of the interface itself when
that fails.  After the fallback the netlink session is dropped; `cap_interface` is left as
it was. -/
def vifPhase (env : Env) (definition : Definition) (interface cap : String) : OpenM Unit := do
  let flags ← vifFlags definition interface
  call (.createMonitorVif interface cap flags)
  match env.mac80211CreateMonitorVif interface cap flags with
  | .error e =>
    message ("Failed to create monitor vif interface '" ++ cap ++ "' for interface '" ++
      interface ++ "': " ++ e) .error
    call (.setMode interface linuxWlextMonitor)
    match env.iwconfigSetMode interface linuxWlextMonitor with
    | .error e =>
      message ("Failed to put interface '" ++ interface ++ "' in monitor mode: " ++ e) .error
      abort ("Failed to create a monitor vif and could not set mode of existing interface, " ++
        "unable to put '" ++ interface ++ "' into monitor mode.")
    | .ok () =>
      message ("Configured '" ++ interface ++ "' as monitor mode interface instead of using " ++
        "a monitor vif; will continue using this interface as the capture source.") .info
      call .mac80211Disconnect
      modifyWifi fun w =>
        { w with mac80211Cache := none, mac80211Family := none, mac80211Handle := none }
  | .ok () => modifyWifi fun w => { w with useMac80211 := 1 }

/-- The legacy set-mode of the interface, when there is no netlink session or the capture
interface is the interface itself. -/
def setModePhase (env : Env) (interface : String) : OpenM Unit := do
  call (.setMode interface linuxWlextMonitor)
  match env.iwconfigSetMode interface linuxWlextMonitor with
  | .error e =>
    message ("Failed to put interface '" ++ interface ++ "' in monitor mode: " ++ e) .error
    abort ("Could not create a monitor vif and could not set mode of existing interface, " ++
      "unable to put '" ++ interface ++ "' into monitor mode.")
  | .ok () =>
    message ("Configured '" ++ interface ++ "' as monitor mode interface instead of using " ++
      "a monitor vif") .info

/-- Monitor mode.  The mode of the interface is read again (-1 when that fails) and netlink
is connected.  Then a vif is made, or the interface's mode is set, or, when the interface
is already in monitor mode, nothing is done. -/
def monitorPhase (env : Env) (definition : Definition) (interface cap : String) :
    OpenM Unit := do
  let mode : Int := match env.world.getMode interface with
    | .ok m => m
    | .error _ => -1
  modifyWifi fun w =>
    { w with mac80211Handle := none, mac80211Cache := none, mac80211Family := none }
  call (.mac80211Connect interface)
  match env.mac80211Connect interface with
  | .ok (h, c, f) => modifyWifi fun w =>
      { w with mac80211Handle := some h, mac80211Cache := some c, mac80211Family := some f }
  | .error _ => pure ()
  let wifi ← getWifi
  if mode ≠ linuxWlextMonitor ∧ wifi.mac80211Handle.isSome ∧ interface ≠ cap then
    vifPhase env definition interface cap
  else if mode ≠ linuxWlextMonitor then
    setModePhase env interface
  else
    message ("Monitor interface '" ++ interface ++ "' already exists for capture interface '" ++
      cap ++ "', we'll use that.") .info

/-- With a vif, the parent is brought down unless the definition says to leave it; the
capture interface is brought up in every case. -/
def bringUpPhase (env : Env) (definition : Definition) (interface cap : String) :
    OpenM Unit := do
  if interface ≠ cap then
    if definition.flagTrue "ignoreprimary" then
      message ("Source '" ++ interface ++ "' ignoring state of primary interface and " ++
        "leaving it in an 'up' state; this may cause problems with channel hopping.") .info
    else
      message ("Bringing down parent interface '" ++ interface ++ "'") .info
      call (.interfaceDown interface)
      orAbort (env.ifconfigInterfaceDown interface) fun e =>
        "Could not bring down parent interface '" ++ interface ++ "' to capture using '" ++
          cap ++ "': " ++ e
  call (.interfaceUp cap)
  orAbort (env.ifconfigInterfaceUp cap) fun e =>
    "Could not bring up capture interface '" ++ cap ++ "', check 'dmesg' for errors " ++
      "loading firmware: " ++ e

/-- The text of `msg` after a successful open: the vif and its parent, or the interface. -/
def capturingMsg (interface cap : String) : String :=
  if interface ≠ cap then
    "Linux Wi-Fi capturing from monitor vif '" ++ cap ++ "' on interface '" ++ interface ++ "'"
  else "Linux Wi-Fi capturing from interface '" ++ interface ++ "'"

/-- The channels, and the capture: a handle with an empty error buffer, whose link type is
kept.  Returns the text of `msg` on success. -/
def capturePhase (env : Env) (interface cap : String) : OpenM String := do
  setChanlist (populateChanlist env cap).2
  call (.pcapOpenLive cap)
  let (pd, pcapErrstr) := env.pcapOpenLive cap
  modifyWifi fun w => { w with pd := pd }
  match pd with
  | some p =>
    if pcapErrstr.length = 0 then do
      modifyWifi fun w => { w with datalinkType := env.pcapDatalink p }
      pure (capturingMsg interface cap)
    else
      abort ("Could not open capture interface '" ++ cap ++ "' on '" ++ interface ++
        "' as a pcap capture: " ++ pcapErrstr)
  | none =>
    abort ("Could not open capture interface '" ++ cap ++ "' on '" ++ interface ++
      "' as a pcap capture: " ++ pcapErrstr)

/-- The phases after the capture interface is chosen. -/
def openFinish (env : Env) (definition : Definition) (interface cap : String) :
    OpenM String := do
  monitorPhase env definition interface cap
  bringUpPhase env definition interface cap
  capturePhase env interface cap

/-- The body of `open_callback`. -/
def openCallbackM (env : Env) (definition : Definition) : OpenM String := do
  let (interface, hwaddr, mode) ← openPrepare env definition
  let cap ← capPhase env.world definition interface hwaddr mode
  openFinish env definition interface cap

/-! ## What the phases keep and return

A phase keeps every fact of the state that each write it makes keeps.  Each phase has one
lemma that says so, with one hypothesis per kind of write (a call, a change of the userdata,
the uuid, the channels); every invariant of the callback is then proved by giving those
facts. -/

section KeepsOf

variable {P : OpenState → Prop} (env : Env) (definition : Definition)

theorem Keeps.message_of (hreport : ∀ r, Keeps P (call (.report r))) (text : String)
    (flag : MsgFlag) : Keeps P (message text flag) :=
  hreport _

theorem rfkillPhase_keeps_of {interface : String} (hreport : ∀ r, Keeps P (call (.report r)))
    (hclear : Keeps P (call (.clearRfkill interface))) : Keeps P (rfkillPhase env interface) :=
  Keeps.ite (Keeps.abort _) (Keeps.ite (hclear.bind fun _ =>
    Keeps.ite (Keeps.abort _) (Keeps.message_of hreport _ _)) (Keeps.pure _))

theorem nmPhase_keeps_of {interface : String} (hreport : ∀ r, Keeps P (call (.report r)))
    (hreset : ∀ r, Keeps P (modifyWifi fun w => { w with resetNmManagement := r }))
    (hunmanage : Keeps P (call (.nmSetUnmanaged interface))) : Keeps P (nmPhase env interface) := by
  unfold nmPhase
  repeat' with_reducible first
    | refine Keeps.bind ?_ fun _ => ?_ | refine Keeps.ite ?_ ?_ | exact Keeps.pure _
    | exact Keeps.message_of hreport _ _ | exact hunmanage | exact hreset _ | split

theorem openPrepare_keeps_of (hreport : ∀ r, Keeps P (call (.report r)))
    (hclear : ∀ i, Keeps P (call (.clearRfkill i)))
    (hunmanage : ∀ i, Keeps P (call (.nmSetUnmanaged i)))
    (hif : ∀ i, Keeps P (modifyWifi fun w => { w with interface := i }))
    (hreset : ∀ r, Keeps P (modifyWifi fun w => { w with resetNmManagement := r }))
    (huuid : ∀ u, Keeps P (setUuid u)) : Keeps P (openPrepare env definition) :=
  Keeps.ite (Keeps.abort _) ((hif _).bind fun _ => (Keeps.orAbort _ _).bind fun _ =>
    (rfkillPhase_keeps_of env hreport (hclear _)).bind fun _ => (huuid _).bind fun _ =>
      (Keeps.orAbort _ _).bind fun _ =>
        (nmPhase_keeps_of env hreport hreset (hunmanage _)).bind fun _ => Keeps.pure _)

theorem capPhase_keeps_of
    (hcap : ∀ c, Keeps P (modifyWifi fun w => { w with capInterface := c }))
    (interface : String) (hwaddr : MacAddr) (mode : Int) :
    Keeps P (capPhase env.world definition interface hwaddr mode) :=
  Keeps.getWifi.bind fun _ => (Keeps.ite (Keeps.orAbort _ _) (Keeps.pure _)).bind fun _ =>
    (hcap _).bind fun _ => Keeps.pure _

variable {interface cap : String}

theorem vifPhase_keeps_of (hreport : ∀ r, Keeps P (call (.report r)))
    (hnl : ∀ h c f, Keeps P (modifyWifi fun w =>
      { w with mac80211Handle := h, mac80211Cache := c, mac80211Family := f }))
    (hsetMode : Keeps P (call (.setMode interface linuxWlextMonitor)))
    (hcreate : ∀ flags, Keeps P (call (.createMonitorVif interface cap flags)))
    (hdisconnect : Keeps P (call .mac80211Disconnect))
    (huse : Keeps P (modifyWifi fun w => { w with useMac80211 := 1 })) :
    Keeps P (vifPhase env definition interface cap) := by
  simp only [vifPhase, vifFlags]
  repeat' with_reducible first
    | refine Keeps.bind ?_ fun _ => ?_ | refine Keeps.ite ?_ ?_ | exact Keeps.pure _
    | exact Keeps.abort _ | exact Keeps.message_of hreport _ _ | exact hcreate _
    | exact hsetMode | exact hdisconnect | exact hnl _ _ _ | exact huse | split

theorem setModePhase_keeps_of (hreport : ∀ r, Keeps P (call (.report r)))
    (hsetMode : Keeps P (call (.setMode interface linuxWlextMonitor))) :
    Keeps P (setModePhase env interface) := by
  unfold setModePhase
  refine hsetMode.bind fun _ => ?_
  split
  · exact (Keeps.message_of hreport _ _).bind fun _ => Keeps.abort _
  · exact Keeps.message_of hreport _ _

/-- Monitor mode, where the two ways of making it are taken only for an interface that is not
already in monitor mode. -/
theorem monitorPhase_keeps_of (hreport : ∀ r, Keeps P (call (.report r)))
    (hnl : ∀ h c f, Keeps P (modifyWifi fun w =>
      { w with mac80211Handle := h, mac80211Cache := c, mac80211Family := f }))
    (hconnect : Keeps P (call (.mac80211Connect interface)))
    (hmake : env.world.getMode interface ≠ .ok linuxWlextMonitor →
      Keeps P (vifPhase env definition interface cap) ∧ Keeps P (setModePhase env interface)) :
    Keeps P (monitorPhase env definition interface cap) := by
  simp only [monitorPhase]
  refine (hnl _ _ _).bind fun _ => hconnect.bind fun _ => ?_
  by_cases hm : env.world.getMode interface = .ok linuxWlextMonitor
  · simp only [hm, ne_eq, not_true_eq_false, false_and, if_false]
    repeat' with_reducible first
      | refine Keeps.bind ?_ fun _ => ?_ | exact Keeps.pure _ | exact Keeps.getWifi
      | exact hnl _ _ _ | exact Keeps.message_of hreport _ _ | split
  · repeat' with_reducible first
      | refine Keeps.bind ?_ fun _ => ?_ | refine Keeps.ite ?_ ?_ | exact Keeps.pure _
      | exact Keeps.getWifi | exact hnl _ _ _ | exact (hmake hm).1 | exact (hmake hm).2
      | exact Keeps.message_of hreport _ _ | split

theorem bringUpPhase_keeps_of (hreport : ∀ r, Keeps P (call (.report r)))
    (hdown : Keeps P (call (.interfaceDown interface)))
    (hup : Keeps P (call (.interfaceUp cap))) :
    Keeps P (bringUpPhase env definition interface cap) := by
  unfold bringUpPhase
  repeat' with_reducible first
    | refine Keeps.bind ?_ fun _ => ?_ | refine Keeps.ite ?_ ?_ | exact Keeps.pure _
    | exact Keeps.orAbort _ _ | exact Keeps.message_of hreport _ _ | exact hdown | exact hup

theorem capturePhase_keeps_of (hchanlist : ∀ cs, Keeps P (setChanlist cs))
    (hopen : Keeps P (call (.pcapOpenLive cap)))
    (hpd : ∀ p, Keeps P (modifyWifi fun w => { w with pd := p }))
    (hdlt : ∀ d, Keeps P (modifyWifi fun w => { w with datalinkType := d })) :
    Keeps P (capturePhase env interface cap) := by
  unfold capturePhase
  repeat' with_reducible first
    | refine Keeps.bind ?_ fun _ => ?_ | refine Keeps.ite ?_ ?_ | exact Keeps.pure _
    | exact Keeps.abort _ | exact hchanlist _ | exact hopen | exact hpd _ | exact hdlt _ | split

end KeepsOf

section Phases

variable {Q : LocalWifi → Prop} (env : Env) (definition : Definition)

theorem openPrepare_keeps (hif : ∀ w i, Q w → Q { w with interface := i })
    (hnm : ∀ w r, Q w → Q { w with resetNmManagement := r }) :
    Keeps (fun s => Q s.wifi) (openPrepare env definition) :=
  openPrepare_keeps_of env definition (fun _ => Keeps.call _) (fun _ => Keeps.call _)
    (fun _ => Keeps.call _) (fun _ => Keeps.modifyWifi (hif · _))
    (fun _ => Keeps.modifyWifi (hnm · _)) fun _ => Keeps.setUuid _

theorem capPhase_keeps (hcap : ∀ w c, Q w → Q { w with capInterface := c })
    (interface : String) (hwaddr : MacAddr) (mode : Int) :
    Keeps (fun s => Q s.wifi) (capPhase env.world definition interface hwaddr mode) :=
  capPhase_keeps_of env definition (fun _ => Keeps.modifyWifi (hcap · _)) interface hwaddr mode

theorem openFinish_keeps
    (hnl : ∀ w h c f, Q w →
      Q { w with mac80211Handle := h, mac80211Cache := c, mac80211Family := f })
    (huse : ∀ w, Q w → Q { w with useMac80211 := 1 })
    (hpd : ∀ w p, Q w → Q { w with pd := p })
    (hdlt : ∀ w d, Q w → Q { w with datalinkType := d }) (interface cap : String) :
    Keeps (fun s => Q s.wifi) (openFinish env definition interface cap) :=
  have hnl' : ∀ h c f, Keeps (fun s => Q s.wifi) (modifyWifi fun w =>
      { w with mac80211Handle := h, mac80211Cache := c, mac80211Family := f }) :=
    fun _ _ _ => Keeps.modifyWifi (hnl · _ _ _)
  (monitorPhase_keeps_of env definition (fun _ => Keeps.call _) hnl' (Keeps.call _) fun _ =>
    ⟨vifPhase_keeps_of env definition (fun _ => Keeps.call _) hnl' (Keeps.call _)
      (fun _ => Keeps.call _) (Keeps.call _) (Keeps.modifyWifi huse),
      setModePhase_keeps_of env (fun _ => Keeps.call _) (Keeps.call _)⟩).bind fun _ =>
  (bringUpPhase_keeps_of env definition (fun _ => Keeps.call _) (Keeps.call _)
    (Keeps.call _)).bind fun _ =>
  capturePhase_keeps_of env (fun _ => Keeps.setChanlist _) (Keeps.call _)
    (fun _ => Keeps.modifyWifi (hpd · _)) fun _ => Keeps.modifyWifi (hdlt · _)

theorem nmPhase_uuid {u : Option String} (interface : String) :
    Keeps (fun s => s.uuid = u) (nmPhase env interface) :=
  nmPhase_keeps_of env (fun _ => Keeps.call_uuid _) (fun _ => Keeps.modifyWifi_uuid _)
    (Keeps.call_uuid _)

theorem openFinish_uuid {u : Option String} (interface cap : String) :
    Keeps (fun s => s.uuid = u) (openFinish env definition interface cap) :=
  (monitorPhase_keeps_of env definition (fun _ => Keeps.call_uuid _)
    (fun _ _ _ => Keeps.modifyWifi_uuid _) (Keeps.call_uuid _) fun _ =>
    ⟨vifPhase_keeps_of env definition (fun _ => Keeps.call_uuid _)
      (fun _ _ _ => Keeps.modifyWifi_uuid _) (Keeps.call_uuid _) (fun _ => Keeps.call_uuid _)
      (Keeps.call_uuid _) (Keeps.modifyWifi_uuid _),
      setModePhase_keeps_of env (fun _ => Keeps.call_uuid _) (Keeps.call_uuid _)⟩).bind fun _ =>
  (bringUpPhase_keeps_of env definition (fun _ => Keeps.call_uuid _) (Keeps.call_uuid _)
    (Keeps.call_uuid _)).bind fun _ =>
  capturePhase_keeps_of env (fun _ => Keeps.setChanlist_uuid _) (Keeps.call_uuid _)
    (fun _ => Keeps.modifyWifi_uuid _) fun _ => Keeps.modifyWifi_uuid _

/-- `openFinish` leaves `cap_interface` as it found it. -/
theorem openFinish_runs_capInterface {interface cap : String} {s s' : OpenState} {msg : String}
    (h : Runs (openFinish env definition interface cap) s msg s') :
    s'.wifi.capInterface = s.wifi.capInterface :=
  (openFinish_keeps (Q := fun w => w.capInterface = s.wifi.capInterface) env definition
    (fun _ _ _ _ h => h) (fun _ h => h) (fun _ _ h => h) (fun _ _ h => h) interface cap).runs rfl h

/-- With no hard rfkill, and a soft one that is cleared, the rfkill checks go on. -/
theorem rfkillPhase_next {interface : String} (hhard : env.hardRfkill interface ≠ 1)
    (hsoft : env.softRfkill interface = 1 → env.clearRfkill interface = true) (s : OpenState) :
    ∃ s', rfkillPhase env interface s = .next () s' := by
  unfold rfkillPhase
  rw [if_neg hhard]
  by_cases hs : env.softRfkill interface = 1
  · simp [hs, hsoft hs, call, message]
  · exact ⟨s, by simp [hs]⟩

/-- The NetworkManager block never stops the callback. -/
theorem nmPhase_next (interface : String) (s : OpenState) :
    ∃ s', nmPhase env interface s = .next () s' := by
  unfold nmPhase
  cases env.nm with
  | none => exact ⟨s, rfl⟩
  | some nm =>
    dsimp only
    cases nm.client with
    | error e => cases e <;> exact ⟨_, rfl⟩
    | ok u =>
      dsimp only
      cases (if nm.running then (nm.devices.getD []).find? (·.1 == interface) else none) with
      | none => exact ⟨s, rfl⟩
      | some p => obtain ⟨_, managed⟩ := p; cases managed <;> exact ⟨_, rfl⟩

/-- With an address, no hard rfkill, a soft one that is cleared, and a mode, `openPrepare`
goes on with the definition's interface, its address and its mode. -/
theorem openPrepare_next (hif : definition.interface.length ≠ 0) {mac : MacAddr}
    (hmac : env.world.getHwaddr definition.interface = .ok mac)
    (hhard : env.hardRfkill definition.interface ≠ 1)
    (hsoft : env.softRfkill definition.interface = 1 → env.clearRfkill definition.interface = true)
    {mode : Int} (hmode : env.world.getMode definition.interface = .ok mode) (s : OpenState) :
    ∃ s', openPrepare env definition s = .next (definition.interface, mac, mode) s' := by
  simp only [openPrepare, if_neg hif, bind_apply, orAbort, hmac, hmode, pure_apply, modifyWifi]
  obtain ⟨_, h₁⟩ := rfkillPhase_next env hhard hsoft _
  rw [h₁]
  simp only [setUuid]
  obtain ⟨_, h₂⟩ := nmPhase_next env definition.interface
    ⟨_, some (uuidString env.uuidCsum mac), _, _⟩
  rw [h₂]
  exact ⟨_, rfl⟩

/-- Past the address and rfkill, a mode that cannot be read stops `openPrepare`. -/
theorem openPrepare_of_getMode_error (hif : definition.interface.length ≠ 0) {mac : MacAddr}
    (hmac : env.world.getHwaddr definition.interface = .ok mac)
    (hhard : env.hardRfkill definition.interface ≠ 1)
    (hsoft : env.softRfkill definition.interface = 1 → env.clearRfkill definition.interface = true)
    {e : String} (hmode : env.world.getMode definition.interface = .error e) (s : OpenState) :
    ∃ s', openPrepare env definition s =
      .fail ("Unable to get current wireless mode of interface '" ++ definition.interface ++
        "': " ++ e) s' := by
  simp only [openPrepare, if_neg hif, bind_apply, orAbort, hmac, hmode, pure_apply, abort_apply,
    modifyWifi]
  split
  · simp [setUuid]
  · next heq =>
    obtain ⟨_, h⟩ := rfkillPhase_next env hhard hsoft _
    rw [h] at heq
    cases heq

/-- What `openPrepare` goes on with: the definition's interface, and the hardware address
and the mode the world gives it. -/
theorem openPrepare_runs {s s' : OpenState} {interface : String} {hwaddr : MacAddr}
    {mode : Int} (h : Runs (openPrepare env definition) s (interface, hwaddr, mode) s') :
    interface = definition.interface ∧ env.world.getHwaddr interface = .ok hwaddr ∧
      env.world.getMode interface = .ok mode ∧ s'.uuid = some (uuidString env.uuidCsum hwaddr) := by
  simp only [openPrepare] at h
  split at h
  · cases h
  · obtain ⟨_, _, -, h⟩ := runs_bind.mp h
    obtain ⟨hw, _, hhw, h⟩ := runs_bind.mp h
    obtain ⟨_, _, -, h⟩ := runs_bind.mp h
    obtain ⟨_, _, hu, h⟩ := runs_bind.mp h
    obtain ⟨m, _, hm, h⟩ := runs_bind.mp h
    obtain ⟨_, _, hnm, h⟩ := runs_bind.mp h
    cases h
    obtain ⟨hwok, rfl⟩ := runs_orAbort.mp hhw
    obtain ⟨hmok, rfl⟩ := runs_orAbort.mp hm
    cases hu
    exact ⟨rfl, hwok, hmok, (nmPhase_uuid env _).runs rfl hnm⟩

/-- The callback with the interface `openPrepare` goes on with, which is always the
definition's, written in. -/
theorem openCallbackM_eq :
    openCallbackM env definition = openPrepare env definition >>= fun x =>
      capPhase env.world definition definition.interface x.2.1 x.2.2 >>= fun cap =>
        openFinish env definition definition.interface cap := by
  unfold openCallbackM
  refine bind_congr_runs fun s x s' h => ?_
  obtain ⟨interface, hwaddr, mode⟩ := x
  obtain ⟨rfl, -, -⟩ := openPrepare_runs env definition h
  rfl

/-- What `capPhase` goes on with: the name `pickVifName` picks, or the interface itself when
it is in monitor mode; `cap_interface` holds it afterwards. -/
theorem capPhase_runs {w : World} {interface : String} {hwaddr : MacAddr} {mode : Int}
    {s s' : OpenState} {cap : String}
    (h : Runs (capPhase w definition interface hwaddr mode) s cap s') :
    (mode ≠ linuxWlextMonitor →
        pickVifName w definition interface hwaddr s.wifi.capInterface = .ok cap) ∧
      (mode = linuxWlextMonitor → cap = interface) ∧ s'.wifi.capInterface = some cap ∧
      s'.uuid = s.uuid := by
  obtain ⟨_, _, hw, h⟩ := runs_bind.mp h
  obtain ⟨c, _, hc, h⟩ := runs_bind.mp h
  obtain ⟨_, _, hm, h⟩ := runs_bind.mp h
  cases hw; cases hm; cases h
  by_cases hmon : mode = linuxWlextMonitor
  · rw [if_neg (not_not.mpr hmon)] at hc
    cases hc
    exact ⟨fun hne => absurd hmon hne, fun _ => rfl, rfl, rfl⟩
  · rw [if_pos hmon] at hc
    obtain ⟨hpick, rfl⟩ := runs_orAbort.mp hc
    exact ⟨fun _ => hpick, fun h => absurd h hmon, rfl, rfl⟩

/-- What `capturePhase` leaves when it goes on: the handle `pcap_open_live` gave for the
capture interface, that handle's link type, the channels of the capture interface, and the
text of `msg`; its one call opens the capture.  `cap_interface` is not touched. -/
theorem capturePhase_runs {interface cap : String} {s s' : OpenState} {msg : String}
    (h : Runs (capturePhase env interface cap) s msg s') :
    ∃ pd, (env.pcapOpenLive cap).1 = some pd ∧ s'.wifi.pd = some pd ∧
      s'.wifi.datalinkType = env.pcapDatalink pd ∧ s'.wifi.capInterface = s.wifi.capInterface ∧
      s'.chanlist = (populateChanlist env cap).2 ∧ msg = capturingMsg interface cap ∧
      s'.calls = s.calls ++ [.pcapOpenLive cap] := by
  simp only [capturePhase, runs_setChanlist_bind, runs_call_bind, runs_modifyWifi_bind] at h
  revert h
  cases hpd : (env.pcapOpenLive cap).1 with
  | none => intro h; cases h
  | some p =>
    by_cases he : (env.pcapOpenLive cap).2.length = 0
    · simp only [if_pos he, runs_modifyWifi_bind, runs_pure]
      rintro ⟨rfl, rfl⟩
      exact ⟨p, rfl, rfl, rfl, rfl, rfl, rfl, rfl⟩
    · simp only [if_neg he]
      intro h
      cases h

end Phases

/-- A fact about the userdata that every update of the callback keeps holds when it returns. -/
theorem openCallbackM_keeps {Q : LocalWifi → Prop} (env : Env) (definition : Definition)
    (hif : ∀ w i, Q w → Q { w with interface := i })
    (hnm : ∀ w r, Q w → Q { w with resetNmManagement := r })
    (hcap : ∀ w c, Q w → Q { w with capInterface := c })
    (hnl : ∀ w h c f, Q w →
      Q { w with mac80211Handle := h, mac80211Cache := c, mac80211Family := f })
    (huse : ∀ w, Q w → Q { w with useMac80211 := 1 })
    (hpd : ∀ w p, Q w → Q { w with pd := p })
    (hdlt : ∀ w d, Q w → Q { w with datalinkType := d }) :
    Keeps (fun s => Q s.wifi) (openCallbackM env definition) :=
  (openPrepare_keeps env definition hif hnm).bind fun _ =>
    (capPhase_keeps env definition hcap _ _ _).bind fun _ =>
      openFinish_keeps env definition hnl huse hpd hdlt _ _

/-- What `open_callback` returns, with the text of `msg` and the state it leaves. -/
structure OpenResult where
  ret : Int
  msg : String
  state : OpenState
  deriving DecidableEq, Repr

/-- `open_callback`, on the userdata it is given: `*uuid`, `*chanset` and `*chanlist` start
empty. -/
def openCallback (env : Env) (definition : Definition) (wifi : LocalWifi) : OpenResult :=
  match openCallbackM env definition ⟨wifi, none, [], []⟩ with
  | .next msg s => ⟨1, msg, s⟩
  | .fail msg s => ⟨-1, msg, s⟩

theorem openCallback_state (env : Env) (definition : Definition) (wifi : LocalWifi) :
    (openCallback env definition wifi).state =
      (openCallbackM env definition ⟨wifi, none, [], []⟩).state := by
  unfold openCallback
  split <;> next heq => rw [heq]; rfl

/-- `open_callback` returns 1 or -1. -/
theorem openCallback_ret (env : Env) (definition : Definition) (wifi : LocalWifi) :
    (openCallback env definition wifi).ret = 1 ∨ (openCallback env definition wifi).ret = -1 := by
  unfold openCallback
  split
  · exact .inl rfl
  · exact .inr rfl

/-- **A successful open, phase by phase.**  When `open_callback` returns 1, `openPrepare` went
on with the definition's interface and the hardware address and mode the world gives it,
leaving `cap_interface` as it was and the uuid of that address; `capPhase` went on with a
name; and `openFinish` ran on that name to the end. -/
theorem runs_of_openCallback {env : Env} {definition : Definition} {wifi : LocalWifi}
    (h : (openCallback env definition wifi).ret = 1) :
    ∃ hwaddr mode cap s₁ s₂,
      env.world.getHwaddr definition.interface = .ok hwaddr ∧
      env.world.getMode definition.interface = .ok mode ∧
      s₁.wifi.capInterface = wifi.capInterface ∧
      s₁.uuid = some (uuidString env.uuidCsum hwaddr) ∧
      Runs (openPrepare env definition) ⟨wifi, none, [], []⟩
        (definition.interface, hwaddr, mode) s₁ ∧
      Runs (capPhase env.world definition definition.interface hwaddr mode) s₁ cap s₂ ∧
      Runs (openFinish env definition definition.interface cap) s₂
        (openCallback env definition wifi).msg (openCallback env definition wifi).state := by
  have hrun : Runs (openCallbackM env definition) ⟨wifi, none, [], []⟩
      (openCallback env definition wifi).msg (openCallback env definition wifi).state := by
    unfold openCallback at h ⊢
    split
    · next heq => exact heq
    · next heq => rw [heq] at h; cases h
  obtain ⟨⟨interface, hwaddr, mode⟩, s₁, hprep, h⟩ := runs_bind.mp hrun
  obtain ⟨cap, s₂, hcap, hfin⟩ := runs_bind.mp h
  obtain ⟨rfl, hhw, hmode, huuid⟩ := openPrepare_runs env definition hprep
  have hkeep := (openPrepare_keeps (Q := fun w' => w'.capInterface = wifi.capInterface) env
    definition (fun _ _ h => h) (fun _ _ h => h)).runs rfl hprep
  exact ⟨hwaddr, mode, cap, s₁, s₂, hhw, hmode, hkeep, huuid, hprep, hcap, hfin⟩

/-- A successful open ends with `capturePhase` on the interface `cap_interface` names. -/
theorem capturePhase_of_openCallback {env : Env} {definition : Definition} {wifi : LocalWifi}
    (h : (openCallback env definition wifi).ret = 1) :
    ∃ cap s, (openCallback env definition wifi).state.wifi.capInterface = some cap ∧
      Runs (capturePhase env definition.interface cap) s (openCallback env definition wifi).msg
        (openCallback env definition wifi).state := by
  obtain ⟨_, _, cap, _, s₂, -, -, -, -, -, hcapr, hfin⟩ := runs_of_openCallback h
  obtain ⟨-, -, hs₂, -⟩ := capPhase_runs definition hcapr
  have hcap := (openFinish_runs_capInterface env definition hfin).trans hs₂
  obtain ⟨_, _, -, hfin⟩ := runs_bind.mp hfin
  obtain ⟨_, s, -, hfin⟩ := runs_bind.mp hfin
  exact ⟨cap, s, hcap, hfin⟩

/-- **What a successful open leaves for the capture.**  When `open_callback` returns 1, the
userdata names a capture interface, holds the handle `pcap_open_live` gave for it, and holds
that handle's link type. -/
theorem capture_of_openCallback {env : Env} {definition : Definition} {wifi : LocalWifi}
    (h : (openCallback env definition wifi).ret = 1) :
    ∃ cap pd, (openCallback env definition wifi).state.wifi.capInterface = some cap ∧
      (env.pcapOpenLive cap).1 = some pd ∧
      (openCallback env definition wifi).state.wifi.pd = some pd ∧
      (openCallback env definition wifi).state.wifi.datalinkType = env.pcapDatalink pd := by
  obtain ⟨cap, _, hcap, hfin⟩ := capturePhase_of_openCallback h
  obtain ⟨pd, hpd, hwpd, hdlt, -⟩ := capturePhase_runs env hfin
  exact ⟨cap, pd, hcap, hpd, hwpd, hdlt⟩

/-- A machine on which every call that acts succeeds: netlink connects, the vif is made, modes
are set, interfaces go down and up, the channels are 1, 6 and 11, and pcap opens a radiotap
capture. -/
def quietEnv (w : World) : Env where
  world := w
  hardRfkill _ := 0
  softRfkill _ := 0
  clearRfkill _ := true
  nm := none
  uuidCsum := 0
  mac80211Connect _ := .ok (1, 2, 3)
  mac80211CreateMonitorVif _ _ _ := .ok ()
  iwconfigSetMode _ _ := .ok ()
  ifconfigInterfaceDown _ := .ok ()
  ifconfigInterfaceUp _ := .ok ()
  mac80211GetChanlist _ := .ok ["1", "6", "11"]
  iwconfigGetChanlist _ := .ok [1, 6, 11]
  pcapOpenLive _ := (some 4, "")
  pcapDatalink _ := 127

/-- The hardware address of the sample interfaces. -/
def sampleMac : MacAddr := ⟨[0x00, 0x11, 0x22, 0x33, 0x44, 0x55], rfl⟩

/-- A machine with one wireless interface, `wlan0`, in managed mode (2). -/
def managedWorld : World :=
  ⟨[⟨"wlan0", .ok sampleMac, .ok 2⟩], "No such device", false, by decide⟩

example : openCallback (quietEnv managedWorld) ⟨"wlan0", []⟩ mainLocalWifi =
    ⟨1, "Linux Wi-Fi capturing from monitor vif 'wlan0mon' on interface 'wlan0'",
      ⟨{ mainLocalWifi with
          interface := some "wlan0", capInterface := some "wlan0mon",
          mac80211Handle := some 1, mac80211Cache := some 2, mac80211Family := some 3,
          pd := some 4, datalinkType := 127 },
        some "00000000-0000-0000-0000-001122334455", ["1", "6", "11"],
        [.mac80211Connect "wlan0", .createMonitorVif "wlan0" "wlan0mon" [3, 4],
          .report (.message "Bringing down parent interface 'wlan0'" .info),
          .interfaceDown "wlan0", .interfaceUp "wlan0mon", .pcapOpenLive "wlan0mon"]⟩⟩ := by
  decide

/-- `populate_chanlist` never returns a negative value, so `open_callback`'s check for one
never fires. -/
theorem populateChanlist_fst_nonneg (env : Env) (interface : String) :
    0 ≤ (populateChanlist env interface).1 := by
  unfold populateChanlist
  split
  · simp
  · split
    · split <;> simp
    · simp

/-! ## `probe_callback` -/

/-- What `probe_callback` hands back: its value, the text left in `msg` (`none` when nothing
writes it), and the channels. -/
structure ProbeResult where
  ret : Int
  msg : Option String
  chanlist : List String
  deriving DecidableEq, Repr

/-- `probe_callback`: the channels of the interface the definition names; `msg` is the error
buffer of the channel-list calls. -/
def probeCallback (env : Env) (definition : Definition) : ProbeResult :=
  if definition.interface.length = 0 then ⟨0, some "Unable to find interface in definition", []⟩
  else
    let populated := populateChanlist env definition.interface
    let msg := populateChanlistMsg env definition.interface
    if populated.1 < 0 then ⟨-1, msg, populated.2⟩ else ⟨1, msg, populated.2⟩

/-- **A probe accepts every interface it is given.**  For every machine and every
definition, `probe_callback` answers 0 when the definition names no interface and 1
otherwise: it never answers -1, and it answers 1 whether or not the machine has the
interface or can list its channels. -/
theorem probeCallback_ret (env : Env) (definition : Definition) :
    (probeCallback env definition).ret = if definition.interface.length = 0 then 0 else 1 := by
  unfold probeCallback
  split
  · rfl
  · rw [if_neg (not_lt.mpr (populateChanlist_fst_nonneg env definition.interface))]

theorem populateChanlistMsg_eq_none_iff (env : Env) (interface : String) :
    populateChanlistMsg env interface = none ↔ (env.mac80211GetChanlist interface).isOk := by
  unfold populateChanlistMsg
  cases env.mac80211GetChanlist interface with
  | ok _ => simp [Except.isOk, Except.toBool]
  | error e => cases env.iwconfigGetChanlist interface <;> simp [Except.isOk, Except.toBool]

/-- A probe leaves `msg` empty exactly when the definition names an interface whose channels
netlink lists; otherwise `msg` says why: no interface, or the error of the last channel-list
call that failed. -/
theorem probeCallback_msg_eq_none_iff (env : Env) (definition : Definition) :
    (probeCallback env definition).msg = none ↔
      definition.interface.length ≠ 0 ∧ (env.mac80211GetChanlist definition.interface).isOk := by
  unfold probeCallback
  split
  · simp_all
  · next hif =>
    rw [← populateChanlistMsg_eq_none_iff]
    dsimp only
    split <;> simp [hif]

/-- An interface the machine does not have, for which neither channel-list call answers. -/
example : probeCallback { quietEnv managedWorld with
      mac80211GetChanlist := fun _ => .error "No such device",
      iwconfigGetChanlist := fun _ => .error "No such device" } ⟨"wlan9", []⟩ =
    ⟨1, some "No such device", []⟩ := by
  decide

end LinuxWifiCapture
