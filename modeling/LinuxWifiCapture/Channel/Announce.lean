import LinuxWifiCapture.Open.Callback
import LinuxWifiCapture.Channel.RoundTrip

/-!
# The channels a source announces, read back

A successful `open_callback` hands the server the channels of the capture interface, and
the server hops over them: every channel string it announced comes back, through the
framework, to `chantranslate_callback`, and the descriptor that returns goes to
`chancontrol_callback`, which names the channel in its messages and in the configure
response with `local_channel_to_str`.

`populate_chanlist` asks netlink first.  When netlink cannot list the channels it falls
back to `iwconfig_get_chanlist`, a list of numbers, and prints each with `"%u"` into a
buffer of 16 bytes.  This file shows that this fallback and the parser agree: a printed
number never fills the buffer (`snprintf_formatUnsigned`), so every announced string is the
decimal text of a number the driver reported, and `chantranslate_callback` reads back
exactly that number as a bare control frequency, with no message, whatever the table.
`local_channel_to_str` prints the descriptor as the string announced, so the strings come
back unchanged through the whole loop.  The netlink list is the library's text and is not
looked into.
-/

namespace LinuxWifiCapture

/-- `"%u"` of an `unsigned int` has at most ten digits. -/
theorem formatUnsigned_length_le (n : UInt32) : (formatUnsigned n).length ≤ 10 :=
  Nat.repr_length n.toNat 10 (by decide) (Nat.lt_of_lt_of_le n.toNat_lt_size (by decide))

/-- `snprintf (chstr, 16, "%u", ..)` never cuts a channel number. -/
theorem snprintf_formatUnsigned (n : UInt32) : snprintf 16 (formatUnsigned n) = formatUnsigned n :=
  snprintf_of_length_lt (Nat.lt_of_le_of_lt (formatUnsigned_length_le n) (by decide))

/-- A bare control frequency prints as its number. -/
@[simp] theorem localChannelToStr_ofControlFreq (n : UInt32) :
    localChannelToStr (.ofControlFreq n) = formatUnsigned n := by
  simp [localChannelToStr]

/-- What the `iwconfig` fallback of `populate_chanlist` lists: the printed channels the driver
reported. -/
theorem mem_populateChanlist_of_error {env : Env} {interface : String}
    (hmac : (env.mac80211GetChanlist interface).isOk = false) {c : String}
    (hc : c ∈ (populateChanlist env interface).2) :
    ∃ ns n, env.iwconfigGetChanlist interface = .ok ns ∧ n ∈ ns ∧ c = formatUnsigned n := by
  unfold populateChanlist at hc
  split at hc
  · next heq => simp [heq, Except.isOk, Except.toBool] at hmac
  · split at hc
    · next ns heq =>
      split at hc
      · simp at hc
      · obtain ⟨n, hn, rfl⟩ := List.mem_map.mp hc
        exact ⟨ns, n, heq, hn, snprintf_formatUnsigned n⟩
    · simp at hc

/-- **The announced channels come back as themselves.**  For every machine, definition and
userdata on which `open_callback` returns 1, the channels it announces are those of the
capture interface.  When netlink could not list them, every announced string is the decimal
text of a channel `iwconfig_get_chanlist` reported; `chantranslate_callback` reads it back,
in every table, as that channel with no message; and `local_channel_to_str` prints that
channel as the very string announced, so `chancontrol_callback` names it as announced. -/
theorem openCallback_chanlist_roundTrip (env : Env) (definition : Definition) (wifi : LocalWifi)
    (h : (openCallback env definition wifi).ret = 1) :
    ∃ cap, (openCallback env definition wifi).state.wifi.capInterface = some cap ∧
      (openCallback env definition wifi).state.chanlist = (populateChanlist env cap).2 ∧
      ((env.mac80211GetChanlist cap).isOk = false →
        ∀ c ∈ (openCallback env definition wifi).state.chanlist, ∃ ns n,
          env.iwconfigGetChanlist cap = .ok ns ∧ n ∈ ns ∧
          ∀ ht, chantranslateCallback ht c = (some (.ofControlFreq n), []) ∧
            localChannelToStr (.ofControlFreq n) = c) := by
  obtain ⟨cap, _, hcap, hfin⟩ := capturePhase_of_openCallback h
  obtain ⟨-, -, -, -, -, hlist, -⟩ := capturePhase_runs env hfin
  refine ⟨cap, hcap, hlist, fun hmac c hc => ?_⟩
  rw [hlist] at hc
  obtain ⟨ns, n, hns, hn, rfl⟩ := mem_populateChanlist_of_error hmac hc
  exact ⟨ns, n, hns, hn, fun _ =>
    ⟨chantranslate_formatUnsigned n, localChannelToStr_ofControlFreq n⟩⟩

/-- A machine where everything succeeds but netlink's channel list: the driver reports
channels 1, 6 and 11 through `iwconfig`. -/
def iwconfigChanlistEnv : Env :=
  { quietEnv managedWorld with mac80211GetChanlist := fun _ => .error "Operation not supported" }

/-- `wlan0` in managed mode on that machine: the open captures on `wlan0mon`, whose channels
come from `iwconfig`. -/
theorem openCallback_chanlist_roundTrip_wlan0 :
    (openCallback iwconfigChanlistEnv ⟨"wlan0", []⟩ mainLocalWifi).ret = 1 ∧
      ∃ cap, (openCallback iwconfigChanlistEnv ⟨"wlan0", []⟩
          mainLocalWifi).state.wifi.capInterface = some cap ∧
        (openCallback iwconfigChanlistEnv ⟨"wlan0", []⟩ mainLocalWifi).state.chanlist =
          (populateChanlist iwconfigChanlistEnv cap).2 :=
  have h := openCallback_chanlist_roundTrip iwconfigChanlistEnv ⟨"wlan0", []⟩ mainLocalWifi
    (by decide)
  ⟨by decide, h.imp fun _ h => ⟨h.1, h.2.1⟩⟩

example : (openCallback iwconfigChanlistEnv ⟨"wlan0", []⟩ mainLocalWifi).state.chanlist =
    ["1", "6", "11"] := by
  decide

end LinuxWifiCapture
