import LinuxWifiCapture.Channel.Translate

/-!
# `chancontrol_callback`: tuning the radio

The framework calls `chancontrol_callback` on every tick of the channel hopper, with
`seqno = 0`, and on every configure command, with the command's non-zero `seqno`.  The
callback asks the driver to tune, through the legacy wireless-extensions call when
`use_mac80211` is 0 and through the netlink calls otherwise, and handles the answer.

## The model

The driver is an oracle `driver : SetCall → Except String Unit`: it answers the call the
callback makes, with the `errstr` of a failure.  `chancontrolCallback` returns a
`ControlResult`: the value returned, the userdata afterwards, the text left in `msg`, and
the reports sent.  The two backends are `legacySetChannel` and `mac80211SetChannel`.  Their
failure handling is the same code in the source, `setChannelFailed` here; what they do on
success differs.

## What the code does

* `wifi_of_chancontrol`: a call either leaves the userdata as it was or only resets
  `seq_channel_failure` to 0.  Nothing increments the counter.
* `chancontrolRun_seqChannelFailure`: so, over every run from `main`'s userdata, the counter
  stays 0, and `chancontrolRun_hop_never_fails`: every hop returns 0 and sends no terminal
  error.  The hopper never gives up, however many failures follow each other
  (`chancontrol_eleven_hop_failures`).
* `legacy_eq_mac80211_but_configresp`: the two backends return the same value, leave the
  same userdata, write the same `msg` and send the same reports, except that a successful
  configure on the legacy backend also sends the configure response, which the netlink
  backend never sends (`chancontrol_configure_backends_differ`).
-/

namespace LinuxWifiCapture

/-- The driver call `chancontrol_callback` makes. -/
inductive SetCall
  /-- `iwconfig_set_channel (interface, control_freq, errstr)`. -/
  | iwconfigSetChannel (interface : Option String) (controlFreq : UInt32)
  /-- `mac80211_set_frequency_cache (cap_interface, handle, family, control_freq,
  chan_width, center_freq1, center_freq2, errstr)`. -/
  | mac80211SetFrequency (capInterface : Option String) (handle family : Option Nat)
      (controlFreq chanWidth centerFreq1 centerFreq2 : UInt32)
  /-- `mac80211_set_channel_cache (cap_interface, handle, family, control_freq, chan_type,
  errstr)`. -/
  | mac80211SetChannelCache (capInterface : Option String) (handle family : Option Nat)
      (controlFreq chanType : UInt32)
  deriving DecidableEq, Repr

/-- What one call of `chancontrol_callback` returns and leaves. -/
structure ControlResult where
  ret : Int
  wifi : LocalWifi
  /-- The text written into `msg`, if any. -/
  msg : Option String
  reports : List Report

/-- The call made for a channel: the legacy call ignores the type and the width; the
netlink backend sets a frequency when there is a width and a channel otherwise. -/
def setCall (wifi : LocalWifi) (channel : LocalChannel) : SetCall :=
  if wifi.useMac80211 = 0 then .iwconfigSetChannel wifi.interface channel.controlFreq
  else if channel.chanWidth ≠ 0 then
    .mac80211SetFrequency wifi.capInterface wifi.mac80211Handle wifi.mac80211Family
      channel.controlFreq channel.chanWidth channel.centerFreq1 channel.centerFreq2
  else
    .mac80211SetChannelCache wifi.capInterface wifi.mac80211Handle wifi.mac80211Family
      channel.controlFreq channel.chanType

/-- A failed set, on either backend: tolerated, with an error message and 0, while fewer
than ten failures are counted and the hopper asked; otherwise -1, with a terminal error
when the hopper asked.  The counter is left as it is. -/
def setChannelFailed (wifi : LocalWifi) (seqno : UInt32) (channel : LocalChannel)
    (errstr : String) : ControlResult :=
  let chanstr := localChannelToStr channel
  if wifi.seqChannelFailure < 10 ∧ seqno = 0 then
    let msg := "Could not set channel " ++ chanstr ++ "; ignoring error and continuing (" ++
      errstr ++ ")"
    ⟨0, wifi, some msg, [.message msg .error]⟩
  else
    let msg := "failed to set channel " ++ chanstr ++ ": " ++ errstr
    ⟨-1, wifi, some msg, if seqno = 0 then [.error msg] else []⟩

/-- The `use_mac80211 == 0` branch. -/
def legacySetChannel (wifi : LocalWifi) (seqno : UInt32) (channel : LocalChannel) :
    Except String Unit → ControlResult
  | .error errstr => setChannelFailed wifi seqno channel errstr
  | .ok () =>
    ⟨0, { wifi with seqChannelFailure := 0 }, none,
      if seqno ≠ 0 then [.configrespChannel seqno 1 none (localChannelToStr channel)] else []⟩

/-- The netlink branch. -/
def mac80211SetChannel (wifi : LocalWifi) (seqno : UInt32) (channel : LocalChannel) :
    Except String Unit → ControlResult
  | .error errstr => setChannelFailed wifi seqno channel errstr
  | .ok () => ⟨0, { wifi with seqChannelFailure := 0 }, none, []⟩

/-- `chancontrol_callback`. -/
def chancontrolCallback (driver : SetCall → Except String Unit) (wifi : LocalWifi)
    (seqno : UInt32) (privchan : Option LocalChannel) : ControlResult :=
  match privchan with
  | none => ⟨0, wifi, none, []⟩
  | some channel =>
    if wifi.useMac80211 = 0 then legacySetChannel wifi seqno channel (driver (setCall wifi channel))
    else mac80211SetChannel wifi seqno channel (driver (setCall wifi channel))

/-! ## One call -/

section OneCall

variable (wifi : LocalWifi) (seqno : UInt32) (channel : LocalChannel)

@[simp] theorem setChannelFailed_wifi (errstr : String) :
    (setChannelFailed wifi seqno channel errstr).wifi = wifi := by
  unfold setChannelFailed; split <;> rfl

@[simp] theorem legacySetChannel_error (errstr : String) :
    legacySetChannel wifi seqno channel (.error errstr) =
      setChannelFailed wifi seqno channel errstr :=
  rfl

@[simp] theorem mac80211SetChannel_error (errstr : String) :
    mac80211SetChannel wifi seqno channel (.error errstr) =
      setChannelFailed wifi seqno channel errstr :=
  rfl

@[simp] theorem legacySetChannel_ok_wifi (u : Unit) :
    (legacySetChannel wifi seqno channel (.ok u)).wifi = { wifi with seqChannelFailure := 0 } :=
  rfl

@[simp] theorem mac80211SetChannel_ok_wifi (u : Unit) :
    (mac80211SetChannel wifi seqno channel (.ok u)).wifi = { wifi with seqChannelFailure := 0 } :=
  rfl

end OneCall

/-- A call leaves the userdata alone or resets the failure counter, and nothing else. -/
theorem wifi_of_chancontrol (driver : SetCall → Except String Unit) (wifi : LocalWifi)
    (seqno : UInt32) (privchan : Option LocalChannel) :
    (chancontrolCallback driver wifi seqno privchan).wifi = wifi ∨
      (chancontrolCallback driver wifi seqno privchan).wifi =
        { wifi with seqChannelFailure := 0 } := by
  unfold chancontrolCallback
  split
  · exact .inl rfl
  · split <;> cases driver _ <;> simp

/-- Any property of the counter that 0 has survives a call. -/
theorem counter_chancontrol (P : UInt32 → Prop) (h0 : P 0)
    (driver : SetCall → Except String Unit) (wifi : LocalWifi) (seqno : UInt32)
    (privchan : Option LocalChannel) (h : P wifi.seqChannelFailure) :
    P (chancontrolCallback driver wifi seqno privchan).wifi.seqChannelFailure := by
  rcases wifi_of_chancontrol driver wifi seqno privchan with he | he <;> rw [he] <;> assumption

/-- A hop, while fewer than ten failures are counted, never fails: it returns 0 and sends no
terminal error, whatever the driver answers. -/
theorem chancontrol_hop_of_lt (driver : SetCall → Except String Unit) {wifi : LocalWifi}
    (hlt : wifi.seqChannelFailure < 10) (privchan : Option LocalChannel) :
    (chancontrolCallback driver wifi 0 privchan).ret = 0 ∧
      ∀ t, Report.error t ∉ (chancontrolCallback driver wifi 0 privchan).reports := by
  unfold chancontrolCallback
  split
  · simp
  · split <;> cases driver _ <;> simp [legacySetChannel, mac80211SetChannel, setChannelFailed, hlt]

/-! ## Runs -/

/-- A call of `chancontrol_callback` as the framework makes it: the sequence number (0 from
the hopper), the channel, and how the driver answers. -/
structure ChanRequest where
  seqno : UInt32
  privchan : Option LocalChannel
  driver : SetCall → Except String Unit

/-- The results of a run of calls on one userdata, in order. -/
def chancontrolRun : LocalWifi → List ChanRequest → List ControlResult
  | _, [] => []
  | wifi, r :: rs =>
    let res := chancontrolCallback r.driver wifi r.seqno r.privchan
    res :: chancontrolRun res.wifi rs

/-- Every property of the counter that 0 has and the first userdata has holds after every
call of a run. -/
theorem chancontrolRun_counter (P : UInt32 → Prop) (h0 : P 0) :
    ∀ (wifi : LocalWifi) (rs : List ChanRequest), P wifi.seqChannelFailure →
      ∀ res ∈ chancontrolRun wifi rs, P res.wifi.seqChannelFailure
  | _, [], _ => by simp [chancontrolRun]
  | wifi, r :: rs, h => by
    have hstep := counter_chancontrol P h0 r.driver wifi r.seqno r.privchan h
    simp only [chancontrolRun, List.mem_cons, forall_eq_or_imp]
    exact ⟨hstep, chancontrolRun_counter P h0 _ rs hstep⟩

/-- **The failure counter never moves.**  Over every run from `main`'s userdata, every call
leaves `seq_channel_failure` at 0: failures are tolerated without being counted. -/
theorem chancontrolRun_seqChannelFailure (rs : List ChanRequest) :
    ∀ res ∈ chancontrolRun mainLocalWifi rs, res.wifi.seqChannelFailure = 0 :=
  chancontrolRun_counter (· = 0) rfl mainLocalWifi rs rfl

/-- Over every run from a userdata with fewer than ten failures counted, every hop returns 0
and sends no terminal error. -/
theorem chancontrolRun_hop_of_lt :
    ∀ (wifi : LocalWifi) (rs : List ChanRequest), wifi.seqChannelFailure < 10 →
      ∀ p ∈ rs.zip (chancontrolRun wifi rs), p.1.seqno = 0 →
        p.2.ret = 0 ∧ ∀ t, Report.error t ∉ p.2.reports
  | _, [], _ => by simp [chancontrolRun]
  | wifi, r :: rs, h => by
    simp only [chancontrolRun, List.zip_cons_cons, List.mem_cons, forall_eq_or_imp]
    refine ⟨fun hseq => ?_, chancontrolRun_hop_of_lt _ rs
      (counter_chancontrol (· < 10) (by decide) r.driver wifi r.seqno r.privchan h)⟩
    rw [show r.seqno = 0 from hseq]
    exact chancontrol_hop_of_lt r.driver h r.privchan

/-- **The hopper never gives up.**  In every run from `main`'s userdata, every hop returns 0
and sends no terminal error, however many hops fail in a row. -/
theorem chancontrolRun_hop_never_fails (rs : List ChanRequest) :
    ∀ p ∈ rs.zip (chancontrolRun mainLocalWifi rs), p.1.seqno = 0 →
      p.2.ret = 0 ∧ ∀ t, Report.error t ∉ p.2.reports :=
  chancontrolRun_hop_of_lt mainLocalWifi rs (by decide)

/-- A hop the driver refuses, as the first call of a run from `main`'s userdata. -/
theorem chancontrolRun_hop_never_fails_busy :
    (chancontrolCallback (fun _ => .error "Device or resource busy") mainLocalWifi 0
      (some (.ofControlFreq 6))).ret = 0 :=
  (chancontrolRun_hop_never_fails
    [⟨0, some (.ofControlFreq 6), fun _ => .error "Device or resource busy"⟩]
    (⟨0, some (.ofControlFreq 6), fun _ => .error "Device or resource busy"⟩,
      chancontrolCallback (fun _ => .error "Device or resource busy") mainLocalWifi 0
        (some (.ofControlFreq 6))) (List.mem_singleton_self _) rfl).1

/-- Eleven hops in a row to channel 6 that the driver refuses, from `main`'s userdata: every
one is tolerated with the same message and the counter stays 0. -/
theorem chancontrol_eleven_hop_failures :
    (chancontrolRun mainLocalWifi (List.replicate 11
        ⟨0, some (.ofControlFreq 6), fun _ => .error "Device or resource busy"⟩)).map
      (fun res => (res.ret, res.wifi.seqChannelFailure, res.reports)) =
    List.replicate 11 (0, 0, [.message
      ("Could not set channel 6; ignoring error and continuing " ++
        "(Device or resource busy)") .error]) := by
  decide

/-! ## The two backends -/

/-- **The backends differ only in the configure response.**  For every channel, sequence
number, userdata and driver answer, the legacy and the netlink branch return the same value,
leave the same userdata and write the same `msg`; the legacy branch's reports are the
netlink branch's followed by the configure response of a successful configure. -/
theorem legacy_eq_mac80211_but_configresp (wifi : LocalWifi) (seqno : UInt32)
    (channel : LocalChannel) (answer : Except String Unit) :
    (legacySetChannel wifi seqno channel answer).ret =
        (mac80211SetChannel wifi seqno channel answer).ret ∧
      (legacySetChannel wifi seqno channel answer).wifi =
        (mac80211SetChannel wifi seqno channel answer).wifi ∧
      (legacySetChannel wifi seqno channel answer).msg =
        (mac80211SetChannel wifi seqno channel answer).msg ∧
      (legacySetChannel wifi seqno channel answer).reports =
        (mac80211SetChannel wifi seqno channel answer).reports ++
          (if answer.isOk ∧ seqno ≠ 0 then
            [.configrespChannel seqno 1 none (localChannelToStr channel)] else []) := by
  rcases answer with e | ⟨⟩ <;> simp [legacySetChannel, mac80211SetChannel, Except.isOk,
    Except.toBool]

/-- A configure to channel 6 with sequence number 1 that the driver accepts: the legacy
backend answers the configure command, the netlink backend sends nothing. -/
theorem chancontrol_configure_backends_differ :
    (chancontrolCallback (fun _ => .ok ()) { mainLocalWifi with useMac80211 := 0 } 1
        (some (.ofControlFreq 6))).reports = [.configrespChannel 1 1 none "6"] ∧
      (chancontrolCallback (fun _ => .ok ()) mainLocalWifi 1
        (some (.ofControlFreq 6))).reports = [] := by
  decide

end LinuxWifiCapture
