import LinuxWifiCapture.CString

/-!
# The binary's state and what it sends to the parent

The capture framework (`capture_framework.h`, not among the sources) carries the protocol
to the Kismet server.  The binary reaches it through a few calls, and every one of them
that sends something is recorded by the model as a `Report`, in the order of the calls:

* `cf_send_message (caph, text, flag)` is `Report.message text flag`;
* `cf_send_error (caph, text)` is `Report.error text`, the terminal error;
* `cf_send_configresp_channel (caph, seqno, success, msg, chanstr)` is
  `Report.configrespChannel`.

The debugging lines written to `stderr` are not protocol output and are left out.

`local_wifi_t`, the userdata every callback receives, is `LocalWifi`, and `mainLocalWifi`
is the value `main` gives it before the framework's loop starts.  A pointer is an
`Option Nat`: `none` is `NULL`, `some a` an address.  The library handles behind the
pointers (the pcap handle, the netlink socket, cache and family) are never looked into.
-/

namespace LinuxWifiCapture

/-- `MSGFLAG_INFO` and `MSGFLAG_ERROR`, the two levels the binary sends messages at. -/
inductive MsgFlag
  | info
  | error
  deriving DecidableEq, Repr

/-- A call into the capture framework that sends something to the parent. -/
inductive Report
  /-- `cf_send_message`. -/
  | message (text : String) (flag : MsgFlag)
  /-- `cf_send_error`: the source is failing. -/
  | error (text : String)
  /-- `cf_send_configresp_channel`: the answer to a configure command. -/
  | configrespChannel (seqno : UInt32) (success : Int) (msg : Option String) (chanstr : String)
  deriving DecidableEq, Repr

/-- `local_wifi_t`. -/
structure LocalWifi where
  pd : Option Nat
  interface : Option String
  capInterface : Option String
  datalinkType : Int
  overrideDlt : Int
  /-- Do we use mac80211 controls or basic ioctls. -/
  useMac80211 : Int
  mac80211Handle : Option Nat
  mac80211Cache : Option Nat
  mac80211Family : Option Nat
  /-- Number of sequential errors setting channel. -/
  seqChannelFailure : UInt32
  resetNmManagement : Int
  deriving DecidableEq, Repr

/-- The `local_wifi` of `main`. -/
def mainLocalWifi : LocalWifi where
  pd := none
  interface := none
  capInterface := none
  datalinkType := -1
  overrideDlt := -1
  useMac80211 := 1
  mac80211Cache := none
  mac80211Handle := none
  mac80211Family := none
  seqChannelFailure := 0
  resetNmManagement := 0

end LinuxWifiCapture
