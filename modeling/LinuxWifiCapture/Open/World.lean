import LinuxWifiCapture.Framework

/-!
# The machine `open_callback` works on

`open_callback` asks the system about interfaces (their hardware address, their wireless
mode, their index) and acts on them (creates a vif, sets a mode, brings an interface down
or up, opens a capture).  The libraries behind those calls are not among the sources, so
the model splits what they answer in two.

* A `World` is the interfaces of the machine, in the order `getifaddrs` enumerates them,
  each with what `ifconfig_get_hwaddr` and `iwconfig_get_mode` answer for it, and whether
  `getifaddrs` fails.  The lookups
  the callback makes before it acts on anything (`ifconfig_get_hwaddr`,
  `iwconfig_get_mode`, `if_nametoindex`, `if_indextoname`) are read off the world:
  `if_nametoindex` numbers the interfaces from 1 in that order.
* An `Env` adds an answer for every call that acts: each is a function of the call's
  arguments, so a theorem over every `Env` holds whatever the kernel, the drivers and
  NetworkManager answer.

The source definition reaches the callback already split by the framework
(`cf_parse_interface`, `cf_find_flag`): a `Definition` is its interface and its flags.  The
callback's test `(placeholder_len = cf_find_flag (..)) > 0` is `Definition.foundFlag`, and
its test of a boolean flag with `strncasecmp (placeholder, "true", placeholder_len)` is
`Definition.flagTrue`.

## Dictionary

| source | model |
|---|---|
| `find_interface_mode_by_mac` | `findInterfaceModeByMac` |
| `find_next_ifnum` | `findNextIfnum` |
| `populate_chanlist` | `populateChanlist`, `populateChanlistMsg` |
| `LINUX_WLEXT_MONITOR` | `linuxWlextMonitor` |
| `NL80211_MNTR_FLAG_*` | `nl80211MntrFlag*` |
-/

namespace LinuxWifiCapture

/-- A hardware address: the six bytes `ifconfig_get_hwaddr` writes, compared by `memcmp`. -/
structure MacAddr where
  bytes : List UInt8
  length_eq : bytes.length = 6
  deriving DecidableEq

/-- `LINUX_WLEXT_MONITOR`, the wireless-extensions monitor mode (`IW_MODE_MONITOR`). -/
def linuxWlextMonitor : Int := 6

/-- An interface of the machine. -/
structure NetIf where
  name : String
  /-- What `ifconfig_get_hwaddr` answers for it. -/
  hwaddr : Except String MacAddr
  /-- What `iwconfig_get_mode` answers for it; an error for an interface that is not
  wireless. -/
  mode : Except String Int

/-- The answers of the adapter calls are compared with `=`. -/
instance exceptDecidableEq {ε α : Type} [DecidableEq ε] [DecidableEq α] :
    DecidableEq (Except ε α)
  | .ok a, .ok b => decidable_of_iff (a = b) (by simp)
  | .error a, .error b => decidable_of_iff (a = b) (by simp)
  | .ok _, .error _ => isFalse Except.noConfusion
  | .error _, .ok _ => isFalse Except.noConfusion

/-- The interfaces, in the order `getifaddrs` enumerates them, whether `getifaddrs` fails,
and the error the adapter calls give for a name no interface has.  The kernel keeps
interface names unique. -/
structure World where
  ifaces : List NetIf
  noSuchDevice : String
  /-- `getifaddrs (&ifaddr) == -1`. -/
  getifaddrsFails : Bool
  names_nodup : (ifaces.map (·.name)).Nodup

namespace World

variable (w : World)

/-- The interface of a name: the first one `getifaddrs` lists. -/
def find? (n : String) : Option NetIf := w.ifaces.find? (·.name == n)

/-- `ifconfig_get_hwaddr`. -/
def getHwaddr (n : String) : Except String MacAddr :=
  match w.find? n with
  | some i => i.hwaddr
  | none => .error w.noSuchDevice

/-- `iwconfig_get_mode`. -/
def getMode (n : String) : Except String Int :=
  match w.find? n with
  | some i => i.mode
  | none => .error w.noSuchDevice

/-- `if_nametoindex`: the interface's place in the enumeration, from 1, or 0 when no
interface has the name. -/
def ifNametoindex (n : String) : Nat :=
  match w.ifaces.findIdx? (·.name == n) with
  | some i => i + 1
  | none => 0

/-- `if_indextoname`. -/
def ifIndextoname (i : Nat) : Option String :=
  if i = 0 then none else w.ifaces[i - 1]?.map (·.name)

/-- What `getifaddrs` enumerates: every interface, or nothing when it fails. -/
def enumerated : List NetIf := if w.getifaddrsFails then [] else w.ifaces

/-- Whether an interface has the name. -/
def Exists (n : String) : Prop := ∃ i ∈ w.ifaces, i.name = n

instance (n : String) : Decidable (w.Exists n) :=
  inferInstanceAs (Decidable (∃ i ∈ w.ifaces, i.name = n))

theorem find?_name_of_nodup :
    ∀ {l : List NetIf}, (l.map (·.name)).Nodup → ∀ {i : NetIf}, i ∈ l →
      l.find? (·.name == i.name) = some i
  | [], _, _, hi => absurd hi (List.not_mem_nil _)
  | j :: l, hnd, i, hi => by
    rw [List.map_cons, List.nodup_cons] at hnd
    rcases List.mem_cons.mp hi with rfl | hi
    · simp
    · have hne : j.name ≠ i.name := fun h => hnd.1 (h ▸ List.mem_map_of_mem _ hi)
      simp [List.find?_cons, hne, find?_name_of_nodup hnd.2 hi]

variable {w}

theorem mem_of_mem_enumerated {i : NetIf} (hi : i ∈ w.enumerated) : i ∈ w.ifaces := by
  unfold enumerated at hi
  split at hi
  · exact absurd hi (List.not_mem_nil _)
  · exact hi

/-- An interface is the one its name finds. -/
theorem find?_name {i : NetIf} (hi : i ∈ w.ifaces) : w.find? i.name = some i :=
  find?_name_of_nodup w.names_nodup hi

theorem getHwaddr_name {i : NetIf} (hi : i ∈ w.ifaces) : w.getHwaddr i.name = i.hwaddr := by
  simp [getHwaddr, find?_name hi]

theorem getMode_name {i : NetIf} (hi : i ∈ w.ifaces) : w.getMode i.name = i.mode := by
  simp [getMode, find?_name hi]

theorem ifNametoindex_eq_zero_iff (n : String) : w.ifNametoindex n = 0 ↔ ¬ w.Exists n := by
  unfold ifNametoindex Exists
  split
  · next k hk =>
    obtain ⟨hk, hn, -⟩ := List.findIdx?_eq_some_iff_getElem.mp hk
    simp only [Nat.add_one_ne_zero, false_iff, not_not]
    exact ⟨_, List.getElem_mem hk, by simpa using hn⟩
  · next hk => simpa using List.findIdx?_eq_none_iff.mp hk

/-- `if_indextoname` undoes `if_nametoindex` on a name that exists. -/
theorem ifIndextoname_ifNametoindex {n : String} (h : w.Exists n) :
    w.ifIndextoname (w.ifNametoindex n) = some n := by
  unfold ifNametoindex
  split
  · next k hk =>
    obtain ⟨hk, hn, -⟩ := List.findIdx?_eq_some_iff_getElem.mp hk
    simp [ifIndextoname, List.getElem?_eq_getElem hk, by simpa using hn]
  · next hk =>
    exact absurd ((ifNametoindex_eq_zero_iff n).mp (by simp [ifNametoindex, hk])) (not_not.mpr h)

end World

/-- A source definition, as the framework splits it: the interface (`""` when
`cf_parse_interface` finds none) and the `name=value` flags, in order. -/
structure Definition where
  interface : String
  flags : List (String × String)

namespace Definition

/-- `cf_find_flag (&placeholder, name, definition) > 0`: the flag's value, when it is there
and not empty. -/
def foundFlag (d : Definition) (name : String) : Option String :=
  (d.flags.lookup name).filter (0 < ·.length)

/-- A flag set to true: `strncasecmp (placeholder, "true", placeholder_len) == 0`, which
compares only as many characters as the value has, so `t` and `TR` count as true. -/
def flagTrue (d : Definition) (name : String) : Bool :=
  match d.foundFlag name with
  | some v => strncasecmpEq v.data "true".data v.length
  | none => false

end Definition

/-- What NetworkManager answers, when the binary is built with libnm. -/
structure NmAnswer where
  /-- `nm_client_new`: a client, or none, with the message of the error it set, if any. -/
  client : Except (Option String) Unit
  /-- `nm_client_get_nm_running`. -/
  running : Bool
  /-- `nm_client_get_devices`: each device's interface and whether NetworkManager manages
  it, in order; `none` for `NULL`. -/
  devices : Option (List (String × Bool))

/-- The machine and the answers of every call `open_callback` makes that acts on it. -/
structure Env where
  world : World
  /-- `linux_sys_get_rfkill (interface, LINUX_RFKILL_TYPE_HARD)`. -/
  hardRfkill : String → Int
  /-- `linux_sys_get_rfkill (interface, LINUX_RFKILL_TYPE_SOFT)`. -/
  softRfkill : String → Int
  /-- `linux_sys_clear_rfkill (interface) >= 0`. -/
  clearRfkill : String → Bool
  /-- NetworkManager; `none` when the binary is built without libnm (`HAVE_LIBNM`). -/
  nm : Option NmAnswer
  /-- `adler32_csum ("kismet_cap_linux_wifi", 21)`, a function of the framework. -/
  uuidCsum : UInt32
  /-- `mac80211_connect (interface, ..)`: the handle, the cache and the family. -/
  mac80211Connect : String → Except String (Nat × Nat × Nat)
  /-- `mac80211_create_monitor_vif (interface, newifname, flags, num_flags, errstr)`. -/
  mac80211CreateMonitorVif : String → String → List UInt32 → Except String Unit
  /-- `iwconfig_set_mode (interface, errstr, mode)`. -/
  iwconfigSetMode : String → Int → Except String Unit
  /-- `ifconfig_interface_down (interface, errstr)`. -/
  ifconfigInterfaceDown : String → Except String Unit
  /-- `ifconfig_interface_up (interface, errstr)`. -/
  ifconfigInterfaceUp : String → Except String Unit
  /-- `mac80211_get_chanlist (interface, ..)`. -/
  mac80211GetChanlist : String → Except String (List String)
  /-- `iwconfig_get_chanlist (interface, ..)`. -/
  iwconfigGetChanlist : String → Except String (List UInt32)
  /-- `pcap_open_live (interface, MAX_PACKET_LEN, 1, 1000, errbuf)`: the handle, and what
  it left in `errbuf`. -/
  pcapOpenLive : String → Option Nat × String
  /-- `pcap_datalink (pd)`. -/
  pcapDatalink : Nat → Int

/-! ## The helpers -/

/-- `find_interface_mode_by_mac (ignored_ifname, wlmode, mac)`, on the interfaces left to
look at: the index of the first one, not named `ignored_ifname`, whose hardware address is
`mac` and whose mode is `wlmode`; `-1` when there is none. -/
def findInterfaceModeByMacIn (w : World) (ignoredIfname : Option String) (wlmode : Int)
    (mac : MacAddr) : List NetIf → Int
  | [] => -1
  | ifa :: ifas =>
    if ignoredIfname = some ifa.name then findInterfaceModeByMacIn w ignoredIfname wlmode mac ifas
    else
      match w.getHwaddr ifa.name with
      | .error _ => findInterfaceModeByMacIn w ignoredIfname wlmode mac ifas
      | .ok dmac =>
        if dmac = mac then
          match w.getMode ifa.name with
          | .ok mode =>
            if mode = wlmode then w.ifNametoindex ifa.name
            else findInterfaceModeByMacIn w ignoredIfname wlmode mac ifas
          | .error _ => findInterfaceModeByMacIn w ignoredIfname wlmode mac ifas
        else findInterfaceModeByMacIn w ignoredIfname wlmode mac ifas

/-- The test `find_interface_mode_by_mac` makes of each interface it enumerates. -/
def macModeMatch (w : World) (ignoredIfname : Option String) (wlmode : Int) (mac : MacAddr)
    (ifa : NetIf) : Bool :=
  ignoredIfname ≠ some ifa.name ∧ w.getHwaddr ifa.name = .ok mac ∧
    w.getMode ifa.name = .ok wlmode

/-- The loop of `find_interface_mode_by_mac` returns the index of the first interface that
passes the test. -/
theorem findInterfaceModeByMacIn_eq (w : World) (ignoredIfname : Option String) (wlmode : Int)
    (mac : MacAddr) (ifas : List NetIf) :
    findInterfaceModeByMacIn w ignoredIfname wlmode mac ifas =
      (ifas.find? (macModeMatch w ignoredIfname wlmode mac)).elim (-1)
        fun i => (w.ifNametoindex i.name : Int) := by
  induction ifas with
  | nil => rfl
  | cons ifa ifas ih =>
    rw [List.find?_cons, findInterfaceModeByMacIn, ih]
    by_cases hig : ignoredIfname = some ifa.name
    · simp [macModeMatch, hig]
    · rw [if_neg hig]
      cases hh : w.getHwaddr ifa.name with
      | error e => simp [macModeMatch, hig, hh]
      | ok dmac =>
        by_cases hd : dmac = mac
        · cases hm : w.getMode ifa.name with
          | error e => simp [macModeMatch, hig, hh, hm, hd]
          | ok mode => by_cases hmo : mode = wlmode <;> simp [macModeMatch, hig, hh, hm, hd, hmo]
        · simp [macModeMatch, hig, hh, hd]

/-- `find_interface_mode_by_mac`: `-1` when `getifaddrs` fails, else the loop. -/
def findInterfaceModeByMac (w : World) (ignoredIfname : Option String) (wlmode : Int)
    (mac : MacAddr) : Int :=
  if w.getifaddrsFails then -1 else findInterfaceModeByMacIn w ignoredIfname wlmode mac w.ifaces

/-- The loop of `find_interface_mode_by_mac` runs over what `getifaddrs` enumerates. -/
theorem findInterfaceModeByMac_eq_enumerated (w : World) (ignoredIfname : Option String)
    (wlmode : Int) (mac : MacAddr) :
    findInterfaceModeByMac w ignoredIfname wlmode mac =
      findInterfaceModeByMacIn w ignoredIfname wlmode mac w.enumerated := by
  unfold findInterfaceModeByMac World.enumerated
  split <;> rfl

/-- `find_next_ifnum (basename)`: the first `i < 100` for which no interface is named
`basename` followed by `i`, cut to `IFNAMSIZ`; `-1` when all hundred exist. -/
def findNextIfnum (w : World) (basename : String) : Int :=
  match (List.range 100).find?
      (fun i => w.ifNametoindex (snprintf ifnamsiz (basename ++ formatNat i)) == 0) with
  | some i => i
  | none => -1

/-- `populate_chanlist (interface, ..)`: the value returned and the channels.  The netlink
list is preferred; the legacy list is printed with `%u`; no list at all is not an error. -/
def populateChanlist (env : Env) (interface : String) : Int × List String :=
  match env.mac80211GetChanlist interface with
  | .ok chans => (1, chans)
  | .error _ =>
    match env.iwconfigGetChanlist interface with
    | .ok chans =>
      if chans.length = 0 then (0, []) else (1, chans.map fun c => snprintf 16 (formatUnsigned c))
    | .error _ => (0, [])

/-- The text `populate_chanlist` leaves in its `msg` buffer, which it hands to both
channel-list calls as their `errstr`: the error of the last one that failed, `none` when
netlink lists the channels and nothing is written. -/
def populateChanlistMsg (env : Env) (interface : String) : Option String :=
  match env.mac80211GetChanlist interface with
  | .ok _ => none
  | .error e =>
    match env.iwconfigGetChanlist interface with
    | .ok _ => some e
    | .error e' => some e'

/-- `NL80211_MNTR_FLAG_FCSFAIL` of `<linux/nl80211.h>`. -/
def nl80211MntrFlagFcsfail : UInt32 := 1

/-- `NL80211_MNTR_FLAG_PLCPFAIL`. -/
def nl80211MntrFlagPlcpfail : UInt32 := 2

/-- `NL80211_MNTR_FLAG_CONTROL`. -/
def nl80211MntrFlagControl : UInt32 := 3

/-- `NL80211_MNTR_FLAG_OTHER_BSS`. -/
def nl80211MntrFlagOtherBss : UInt32 := 4

/-- The uuid `open_callback` makes: `%08X-0000-0000-0000-%02X%02X%02X%02X%02X%02X` of the
checksum and the six bytes of the hardware address. -/
def uuidString (csum : UInt32) (hwaddr : MacAddr) : String :=
  formatHex 8 csum.toNat ++ "-0000-0000-0000-" ++
    String.join (hwaddr.bytes.map fun b => formatHex 2 b.toNat)

end LinuxWifiCapture
