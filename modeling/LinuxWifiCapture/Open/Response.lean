import Mathlib.Data.String.Basic
import LinuxWifiCapture.Open.Backend

/-!
# What a successful open hands the framework

`open_callback` answers the framework's open command with its return value, the text of
`msg`, the uuid and the channel list; `*chanset` stays `NULL`.  When it returns 1, all three
are fixed by the machine.

* The uuid is written once, right after rfkill, from the hardware address of the requested
  interface and the checksum of the literal `kismet_cap_linux_wifi`: nothing the open does
  later writes it again (`openFinish_uuid`), so it depends on neither the interface's name
  nor the capture interface.  It always has the 36 characters of
  `AAAAAAAA-0000-0000-0000-MMMMMMMMMMMM` (`uuidString_length`), and its last twelve digits
  give the address back (`uuidString_inj`).
* The channels are those `populate_chanlist` finds for the capture interface, not for the
  requested one.
* The text names the vif and its parent, or the interface alone when the open captures on
  it (`capturingMsg`).

`openCallback_response` states the three together; `openCallback_uuid_eq_iff` compares the
uuids of two opens.

A failed open answers with the text of `msg` alone.  `openCallback_failText`: every such text
names the requested interface, but one, for a capture interface that does not come up, which
names the capture interface alone.  `OpenM.StopsWith` says what every text a step can stop
with satisfies; it goes through `bind` like `OpenM.Keeps`, one lemma per phase.
-/

namespace LinuxWifiCapture

open OpenM

/-! ## The uuid as a text -/

theorem formatHex_byte_length (b : UInt8) : (formatHex 2 b.toNat).data.length = 2 :=
  formatHex_length (by decide) (by simpa using b.toNat_lt_size)

/-- Every uuid the open makes has 36 characters: eight hexadecimal digits of the checksum,
`-0000-0000-0000-`, and two digits for each of the six bytes of the address. -/
theorem uuidString_length (csum : UInt32) (hwaddr : MacAddr) :
    (uuidString csum hwaddr).length = 36 := by
  have hcsum : (formatHex 8 csum.toNat).length = 8 :=
    formatHex_length (by decide) (by simpa using csum.toNat_lt_size)
  have hbytes : (String.join (hwaddr.bytes.map fun b => formatHex 2 b.toNat)).length = 12 := by
    have hbyte := formatHex_byte_length
    simp [String.join_eq, String.length, List.length_flatten, Function.comp_def, hbyte,
      hwaddr.length_eq]
  simp only [uuidString, String.length_append, hcsum, hbytes]
  rfl

/-- Two digits per byte: the digits of a run of bytes give the bytes back. -/
theorem bytes_eq_of_formatHex_flatten : ∀ {l l' : List UInt8}, l.length = l'.length →
    ((l.map fun b => formatHex 2 b.toNat).map String.data).flatten =
      ((l'.map fun b => formatHex 2 b.toNat).map String.data).flatten → l = l'
  | [], [], _, _ => rfl
  | b :: l, b' :: l', hlen, h => by
    simp only [List.map_cons, List.flatten_cons] at h
    obtain ⟨hb, hl⟩ := List.append_inj h
      ((formatHex_byte_length b).trans (formatHex_byte_length b').symm)
    have hval := congrArg hexDigitsValue hb
    simp only [hexDigitsValue_formatHex] at hval
    rw [UInt8.toNat.inj hval, bytes_eq_of_formatHex_flatten (Nat.succ.inj hlen) hl]

/-- The uuid gives the hardware address back. -/
theorem uuidString_inj {csum : UInt32} {a b : MacAddr}
    (h : uuidString csum a = uuidString csum b) : a = b := by
  have hd := congrArg String.data h
  simp only [uuidString, String.data_append, String.join_eq, List.append_cancel_left_eq] at hd
  obtain ⟨bytes, hlen⟩ := a
  obtain ⟨bytes', hlen'⟩ := b
  cases bytes_eq_of_formatHex_flatten (hlen.trans hlen'.symm) hd
  rfl

/-! ## The answer of an open -/

/-- A successful open reports the uuid of the requested interface's hardware address. -/
theorem uuid_of_openCallback {env : Env} {definition : Definition} {wifi : LocalWifi}
    (h : (openCallback env definition wifi).ret = 1) :
    ∃ hwaddr, env.world.getHwaddr definition.interface = .ok hwaddr ∧
      (openCallback env definition wifi).state.uuid = some (uuidString env.uuidCsum hwaddr) := by
  obtain ⟨hwaddr, _, _, _, _, hhw, -, -, huuid, -, hcapr, hfin⟩ := runs_of_openCallback h
  exact ⟨hwaddr, hhw, (openFinish_uuid env definition _ _).runs
    ((capPhase_runs definition hcapr).2.2.2.trans huuid) hfin⟩

/-- **The open's answer.**  For every machine, definition and userdata, when `open_callback`
returns 1: the uuid is the 36-character uuid of the requested interface's hardware address,
the channel list is what `populate_chanlist` gives for the capture interface, and `msg`
names the capture interface and, when it is a vif, its parent. -/
theorem openCallback_response (env : Env) (definition : Definition) (wifi : LocalWifi)
    (h : (openCallback env definition wifi).ret = 1) :
    ∃ hwaddr cap, env.world.getHwaddr definition.interface = .ok hwaddr ∧
      (openCallback env definition wifi).state.wifi.capInterface = some cap ∧
      (openCallback env definition wifi).state.uuid = some (uuidString env.uuidCsum hwaddr) ∧
      (uuidString env.uuidCsum hwaddr).length = 36 ∧
      (openCallback env definition wifi).state.chanlist = (populateChanlist env cap).2 ∧
      (openCallback env definition wifi).msg = capturingMsg definition.interface cap := by
  obtain ⟨hwaddr, hhw, hu⟩ := uuid_of_openCallback h
  obtain ⟨cap, _, hcap, hfin⟩ := capturePhase_of_openCallback h
  obtain ⟨-, -, -, -, -, hchan, hmsg, -⟩ := capturePhase_runs env hfin
  exact ⟨hwaddr, cap, hhw, hcap, hu, uuidString_length _ _, hchan, hmsg⟩

/-- `wlan0` in managed mode, on a machine where everything succeeds and the checksum is 0:
the uuid of `wlan0`'s address. -/
theorem openCallback_response_wlan0 :
    (openCallback (quietEnv managedWorld) ⟨"wlan0", []⟩ mainLocalWifi).state.uuid =
      some "00000000-0000-0000-0000-001122334455" := by
  obtain ⟨hwaddr, -, hhw, -, hu, -⟩ :=
    openCallback_response (quietEnv managedWorld) ⟨"wlan0", []⟩ mainLocalWifi (by decide)
  cases hhw
  exact hu.trans (by decide)

/-- **The uuid tells the hardware apart.**  For every two machines with the same checksum and
every two opens on them that return 1, whatever the definitions and the userdata: the two
uuids are equal exactly when the two requested interfaces have the same hardware address. -/
theorem openCallback_uuid_eq_iff (env env' : Env) (definition definition' : Definition)
    (wifi wifi' : LocalWifi) (hcsum : env.uuidCsum = env'.uuidCsum)
    (h : (openCallback env definition wifi).ret = 1)
    (h' : (openCallback env' definition' wifi').ret = 1) :
    (openCallback env definition wifi).state.uuid =
        (openCallback env' definition' wifi').state.uuid ↔
      env.world.getHwaddr definition.interface = env'.world.getHwaddr definition'.interface := by
  obtain ⟨a, ha, hu⟩ := uuid_of_openCallback h
  obtain ⟨b, hb, hu'⟩ := uuid_of_openCallback h'
  rw [hu, hu', ha, hb, hcsum, Option.some_inj, Except.ok.injEq]
  exact ⟨uuidString_inj, congrArg _⟩

/-- `wlan0` in managed mode, captured on the vif `wlan0mon`, and `wlan0` already in monitor
mode, captured as it is: the same address, so the same uuid. -/
theorem openCallback_uuid_eq_iff_wlan0 :
    (openCallback (quietEnv managedWorld) ⟨"wlan0", []⟩ mainLocalWifi).state.uuid =
      (openCallback (quietEnv monitorWorld) ⟨"wlan0", []⟩ mainLocalWifi).state.uuid :=
  (openCallback_uuid_eq_iff _ _ ⟨"wlan0", []⟩ ⟨"wlan0", []⟩ mainLocalWifi mainLocalWifi rfl
    (by decide) (by decide)).mpr rfl

/-! ## The text of a failed open -/

/-- `interface` occurs in the text. -/
def NamesIn (interface msg : String) : Prop := interface.data <:+: msg.data

theorem namesIn_mid (interface pre post : String) :
    NamesIn interface (pre ++ interface ++ post) := by
  simp only [NamesIn, String.data_append]
  exact List.infix_append _ _ _

theorem NamesIn.append_right {interface msg : String} (h : NamesIn interface msg)
    (post : String) : NamesIn interface (msg ++ post) := by
  simp only [NamesIn, String.data_append]
  exact h.trans (List.prefix_append _ _).isInfix

/-- The empty name occurs in every text. -/
theorem namesIn_of_length_eq_zero {interface : String} (h : interface.length = 0) (msg : String) :
    NamesIn interface msg := by
  have : interface.data = [] := List.length_eq_zero.mp h
  rw [NamesIn, this]
  exact List.nil_infix

/-- What an open can stop with: a text that names the requested interface, or the one text
that names the capture interface alone, for a capture interface that does not come up. -/
def FailText (interface msg : String) : Prop :=
  NamesIn interface msg ∨ ∃ cap e, msg = "Could not bring up capture interface '" ++ cap ++
    "', check 'dmesg' for errors " ++ "loading firmware: " ++ e

namespace OpenM

variable {α β : Type} {R : String → Prop}

/-- Every text `m` can stop with has `R`. -/
def StopsWith (R : String → Prop) (m : OpenM α) : Prop :=
  ∀ s, match m s with
    | .next _ _ => True
    | .fail msg _ => R msg

theorem StopsWith.pure (a : α) : StopsWith R (pure a : OpenM α) := fun _ => trivial

theorem StopsWith.abort {msg : String} (h : R msg) : StopsWith R (abort msg : OpenM α) :=
  fun _ => h

theorem StopsWith.bind {m : OpenM α} {f : α → OpenM β} (hm : StopsWith R m)
    (hf : ∀ a, StopsWith R (f a)) : StopsWith R (m >>= f) := by
  intro s
  have := hm s
  simp only [bind_apply]
  cases h : m s with
  | next a s' => exact hf a s'
  | fail msg s' => rw [h] at this; exact this

theorem StopsWith.call (c : OpenCall) : StopsWith R (call c) := fun _ => trivial

theorem StopsWith.message (text : String) (flag : MsgFlag) : StopsWith R (message text flag) :=
  fun _ => trivial

theorem StopsWith.modifyWifi (f : LocalWifi → LocalWifi) : StopsWith R (modifyWifi f) :=
  fun _ => trivial

theorem StopsWith.getWifi : StopsWith R getWifi := fun _ => trivial

theorem StopsWith.setUuid (u : String) : StopsWith R (setUuid u) := fun _ => trivial

theorem StopsWith.setChanlist (cs : List String) : StopsWith R (setChanlist cs) :=
  fun _ => trivial

theorem StopsWith.mono {R' : String → Prop} {m : OpenM α} (h : StopsWith R m)
    (hR : ∀ msg, R msg → R' msg) : StopsWith R' m := fun s => by
  have := h s
  revert this
  cases m s with
  | next => exact id
  | fail msg _ => exact hR msg

end OpenM

open OpenM

theorem OpenM.StopsWith.orAbort {α : Type} {R : String → Prop} {r : Except String α}
    {msg : String → String} (h : ∀ e, r = .error e → R (msg e)) : StopsWith R (orAbort r msg) := by
  cases r with
  | ok a => exact StopsWith.pure a
  | error e => exact StopsWith.abort (h e rfl)

/-- The naming rule fails only with a text that names the interface. -/
theorem pickVifName_error {w : World} {definition : Definition} {interface : String}
    {hwaddr : MacAddr} {capInterface : Option String} {e : String}
    (h : pickVifName w definition interface hwaddr capInterface = .error e) :
    NamesIn interface e := by
  unfold pickVifName at h
  dsimp only at h
  repeat' split at h
  all_goals cases h
  all_goals repeat' with_reducible first
    | exact namesIn_mid _ _ _ | refine NamesIn.append_right ?_ _

section FailText

variable (env : Env) (definition : Definition)

/-- Before the name, every text names the definition's interface; a definition without one
stops with a text that names the empty name, trivially. -/
theorem openPrepare_stopsWith :
    StopsWith (FailText definition.interface) (openPrepare env definition) := by
  unfold openPrepare rfkillPhase nmPhase
  repeat' with_reducible first
    | refine StopsWith.bind ?_ fun _ => ?_ | exact StopsWith.pure _ | exact StopsWith.call _
    | exact StopsWith.message _ _ | exact StopsWith.modifyWifi _ | exact StopsWith.setUuid _
    | refine StopsWith.orAbort fun _ _ => ?_ | refine StopsWith.abort ?_ | split
  all_goals refine .inl ?_
  · exact namesIn_of_length_eq_zero (by assumption) _
  all_goals repeat' with_reducible first
    | exact namesIn_mid _ _ _ | refine NamesIn.append_right ?_ _

section Phases

variable (interface cap : String)

theorem vifPhase_stopsWith :
    StopsWith (NamesIn interface) (vifPhase env definition interface cap) := by
  simp only [vifPhase, vifFlags]
  repeat' with_reducible first
    | refine StopsWith.bind ?_ fun _ => ?_ | exact StopsWith.pure _ | exact StopsWith.call _
    | exact StopsWith.message _ _ | exact StopsWith.modifyWifi _ | refine StopsWith.abort ?_
    | split
  all_goals exact namesIn_mid _ _ _

theorem setModePhase_stopsWith : StopsWith (NamesIn interface) (setModePhase env interface) := by
  unfold setModePhase
  refine (StopsWith.call _).bind fun _ => ?_
  split
  · exact (StopsWith.message _ _).bind fun _ => StopsWith.abort (namesIn_mid _ _ _)
  · exact StopsWith.message _ _

theorem monitorPhase_stopsWith :
    StopsWith (NamesIn interface) (monitorPhase env definition interface cap) := by
  simp only [monitorPhase]
  repeat' with_reducible first
    | refine StopsWith.bind ?_ fun _ => ?_ | exact StopsWith.pure _ | exact StopsWith.call _
    | exact StopsWith.message _ _ | exact StopsWith.modifyWifi _ | exact StopsWith.getWifi
    | exact vifPhase_stopsWith env definition interface cap
    | exact setModePhase_stopsWith env interface | split

/-- The parent going down is named with the capture interface; the capture interface coming
up is named alone. -/
theorem bringUpPhase_stopsWith :
    StopsWith (FailText interface) (bringUpPhase env definition interface cap) := by
  simp only [bringUpPhase]
  repeat' with_reducible first
    | refine StopsWith.bind ?_ fun _ => ?_ | exact StopsWith.pure _ | exact StopsWith.call _
    | exact StopsWith.message _ _ | refine StopsWith.orAbort fun _ _ => ?_ | split
  all_goals unfold FailText; first
    | (left; (repeat' with_reducible first
        | exact namesIn_mid _ _ _ | refine NamesIn.append_right ?_ _); done)
    | exact .inr ⟨_, _, rfl⟩

theorem capturePhase_stopsWith :
    StopsWith (NamesIn interface) (capturePhase env interface cap) := by
  unfold capturePhase
  repeat' with_reducible first
    | refine StopsWith.bind ?_ fun _ => ?_ | exact StopsWith.pure _ | exact StopsWith.call _
    | exact StopsWith.modifyWifi _ | exact StopsWith.setChanlist _ | refine StopsWith.abort ?_
    | split
  all_goals exact (namesIn_mid _ _ _).append_right _

end Phases

theorem openFinish_stopsWith (cap : String) :
    StopsWith (FailText definition.interface)
      (openFinish env definition definition.interface cap) :=
  ((monitorPhase_stopsWith env definition _ cap).mono fun _ => .inl).bind fun _ =>
    (bringUpPhase_stopsWith env definition _ cap).bind fun _ =>
      (capturePhase_stopsWith env _ cap).mono fun _ => .inl

theorem capPhase_stopsWith (hwaddr : MacAddr) (mode : Int) :
    StopsWith (FailText definition.interface)
      (capPhase env.world definition definition.interface hwaddr mode) := by
  unfold capPhase
  refine StopsWith.getWifi.bind fun _ => StopsWith.bind ?_ fun _ =>
    (StopsWith.modifyWifi _).bind fun _ => StopsWith.pure _
  split
  · exact StopsWith.orAbort fun _ he => .inl (pickVifName_error he)
  · exact StopsWith.pure _

/-- **A failed open names the interface asked for.**  For every machine, definition and
userdata, when `open_callback` returns -1 its `msg` names the requested interface, but for
one text: a capture interface that does not come up is named alone. -/
theorem openCallback_failText (wifi : LocalWifi)
    (h : (openCallback env definition wifi).ret = -1) :
    FailText definition.interface (openCallback env definition wifi).msg := by
  have hstop : StopsWith (FailText definition.interface) (openCallbackM env definition) := by
    rw [openCallbackM_eq]
    refine (openPrepare_stopsWith env definition).bind fun x => StopsWith.bind ?_ fun cap =>
      openFinish_stopsWith env definition cap
    exact capPhase_stopsWith env definition _ _
  have := hstop ⟨wifi, none, [], []⟩
  unfold openCallback at h ⊢
  split at h
  · cases h
  · next msg s heq => rw [heq] at this; exact this

end FailText

/-- A wired `eth0` has no wireless mode: the open stops, and its text names `eth0`. -/
example :
    (openCallback (quietEnv wiredWorld) ⟨"eth0", []⟩ mainLocalWifi).ret = -1 ∧
      FailText "eth0" (openCallback (quietEnv wiredWorld) ⟨"eth0", []⟩ mainLocalWifi).msg :=
  ⟨by decide, openCallback_failText (quietEnv wiredWorld) ⟨"eth0", []⟩ mainLocalWifi (by decide)⟩

end LinuxWifiCapture
