import LinuxWifiCapture.Channel.Scanf
import LinuxWifiCapture.Framework

/-!
# `chantranslate_callback` and `local_channel_to_str`

The channel grammar: a channel string such as `6`, `36HT40+`, `36VHT80` or
`100VHT160-5250` is parsed once into a `local_channel_t` (`LocalChannel`), and turned back
into a string whenever a message or a configure response names the channel.

## The dictionary

* `chantranslate_callback (caph, chanstr)` is `chantranslateCallback ht chanstr`.  It
  returns the descriptor (`none` for `NULL`) and the messages it sent.
* `local_channel_to_str (chan, chanstr)` is `localChannelToStr chan`.
* `wifi_ht_channels.h` is not among the sources.  What the parser takes from it (the
  table `wifi_ht_channels`, its flag bits `WIFI_HT_*` and `MAX_WIFI_HT_CHANNEL`) is the
  parameter `ht : HtTable`, so every result here holds for every table.
* The `NL80211_CHAN_*` constants are the enumerators of the kernel's `nl80211.h`.

## Two loops over the table

The HT40- search runs `ci < MAX_WIFI_HT_CHANNEL`, the HT40+ and VHT searches run over
`sizeof (wifi_ht_channels) / sizeof (wifi_channel)`, the whole array.  An `HtTable` carries
`MAX_WIFI_HT_CHANNEL ≤ |wifi_ht_channels|`, which keeps the first loop inside the array, and
the model reads the first loop as a search of `ht.channels.take ht.maxChannel`.

The VHT80 and VHT160 branches differ only in their constants, collected in `VhtWidth`;
the model writes the branch once (`vhtBranch`).  Their search has no `break`: every row
that names the channel overwrites the control frequency and the center, so the last such
row wins, and a row without the flag ends the parse with `NULL`.
-/

namespace LinuxWifiCapture

/-! ## The kernel's enumerators -/

/-- `NL80211_CHAN_HT40MINUS` of `enum nl80211_channel_type`. -/
def nl80211ChanHt40minus : UInt32 := 2

/-- `NL80211_CHAN_HT40PLUS`. -/
def nl80211ChanHt40plus : UInt32 := 3

/-- `NL80211_CHAN_WIDTH_80` of `enum nl80211_chan_width`. -/
def nl80211ChanWidth80 : UInt32 := 3

/-- `NL80211_CHAN_WIDTH_160`. -/
def nl80211ChanWidth160 : UInt32 := 5

/-- `NL80211_CHAN_WIDTH_5`. -/
def nl80211ChanWidth5 : UInt32 := 6

/-- `NL80211_CHAN_WIDTH_10`. -/
def nl80211ChanWidth10 : UInt32 := 7

/-- The values, for `simp` to compare. -/
theorem nl80211_values :
    nl80211ChanHt40minus = 2 ∧ nl80211ChanHt40plus = 3 ∧ nl80211ChanWidth80 = 3 ∧
      nl80211ChanWidth160 = 5 ∧ nl80211ChanWidth5 = 6 ∧ nl80211ChanWidth10 = 7 :=
  ⟨rfl, rfl, rfl, rfl, rfl, rfl⟩

/-! ## The descriptor and the table -/

/-- `local_channel_t`. -/
structure LocalChannel where
  controlFreq : UInt32
  chanType : UInt32
  chanWidth : UInt32
  unusualCenter1 : UInt32
  centerFreq1 : UInt32
  centerFreq2 : UInt32
  deriving DecidableEq, Repr

/-- A freshly `memset` descriptor whose control frequency has been set. -/
def LocalChannel.ofControlFreq (f : UInt32) : LocalChannel := ⟨f, 0, 0, 0, 0, 0⟩

namespace LocalChannel

@[simp] theorem ofControlFreq_controlFreq (f : UInt32) : (ofControlFreq f).controlFreq = f := rfl
@[simp] theorem ofControlFreq_chanType (f : UInt32) : (ofControlFreq f).chanType = 0 := rfl
@[simp] theorem ofControlFreq_chanWidth (f : UInt32) : (ofControlFreq f).chanWidth = 0 := rfl
@[simp] theorem ofControlFreq_unusualCenter1 (f : UInt32) :
    (ofControlFreq f).unusualCenter1 = 0 := rfl
@[simp] theorem ofControlFreq_centerFreq1 (f : UInt32) : (ofControlFreq f).centerFreq1 = 0 := rfl
@[simp] theorem ofControlFreq_centerFreq2 (f : UInt32) : (ofControlFreq f).centerFreq2 = 0 := rfl

end LocalChannel

/-- `wifi_channel`, a row of `wifi_ht_channels`. -/
structure WifiChannel where
  chan : UInt32
  freq : UInt32
  flags : UInt32
  freq80 : UInt32
  freq160 : UInt32
  deriving DecidableEq, Repr

/-- The test of every search loop: the row's channel number or frequency is `n`. -/
def WifiChannel.names (e : WifiChannel) (n : UInt32) : Bool := e.chan == n || e.freq == n

/-- `(flags & flag) == 0`: the row does not carry the flag. -/
def WifiChannel.lacks (e : WifiChannel) (flag : UInt32) : Bool := e.flags &&& flag == 0

/-- What `wifi_ht_channels.h` gives the parser. -/
structure HtTable where
  /-- `wifi_ht_channels`, in array order. -/
  channels : List WifiChannel
  /-- `WIFI_HT_HT40MINUS`. -/
  ht40minus : UInt32
  /-- `WIFI_HT_HT40PLUS`. -/
  ht40plus : UInt32
  /-- `WIFI_HT_HT80`. -/
  ht80 : UInt32
  /-- `WIFI_HT_HT160`. -/
  ht160 : UInt32
  /-- `MAX_WIFI_HT_CHANNEL`, the bound of the HT40- search. -/
  maxChannel : Nat
  maxChannel_le : maxChannel ≤ channels.length

/-- The two VHT widths, and the constants by which their branches differ. -/
inductive VhtWidth
  | vht80
  | vht160
  deriving DecidableEq, Repr

namespace VhtWidth

/-- The `chan_width` the branch sets. -/
def chanWidth : VhtWidth → UInt32
  | vht80 => nl80211ChanWidth80
  | vht160 => nl80211ChanWidth160

@[simp] theorem chanWidth_vht80 : vht80.chanWidth = nl80211ChanWidth80 := rfl
@[simp] theorem chanWidth_vht160 : vht160.chanWidth = nl80211ChanWidth160 := rfl

/-- The flag a row needs. -/
def flag (ht : HtTable) : VhtWidth → UInt32
  | vht80 => ht.ht80
  | vht160 => ht.ht160

/-- The row's center frequency for the width. -/
def center : VhtWidth → WifiChannel → UInt32
  | vht80 => WifiChannel.freq80
  | vht160 => WifiChannel.freq160

/-- The suffix, as messages and `local_channel_to_str` write it. -/
def label : VhtWidth → String
  | vht80 => "VHT80"
  | vht160 => "VHT160"

/-- The bandwidth, as the error message writes it. -/
def mhz : VhtWidth → String
  | vht80 => "80MHz"
  | vht160 => "160MHz"

end VhtWidth

/-! ## Parsing -/

/-- The informational message for a suffix the parser does not know. -/
def unparsedAttributes (chanstr : String) : Report :=
  .message ("unable to parse attributes on channel '" ++ chanstr ++
    "', treating as standard non-HT channel.") .info

/-- The message for a row that names an HT40 channel and does not carry its flag. -/
def ht40Invalid (sign : String) (parsechan : UInt32) : Report :=
  .message ("requested channel " ++ formatUnsigned parsechan ++ " as a HT40" ++ sign ++
    " channel; this does not appear to be a valid channel for 40MHz operation.") .info

/-- The HT40 search loop: one message for every row that names the channel and does not
carry the flag. -/
def ht40Search (flag : UInt32) (sign : String) (parsechan : UInt32) (rows : List WifiChannel) :
    List Report :=
  rows.filterMap fun e =>
    if e.names parsechan && e.lacks flag then some (ht40Invalid sign parsechan) else none

/-- The message that ends a VHT parse on a row without the flag. -/
def vhtInvalid (w : VhtWidth) (parsechan : UInt32) : Report :=
  .message ("requested channel " ++ formatUnsigned parsechan ++ " as a " ++ w.label ++
    " channel; this does not appear to be a valid channel for " ++ w.mhz ++
    " operation, skipping channel") .error

/-- The VHT search loop, over the rows left, with the descriptor built so far. -/
def vhtSearch (ht : HtTable) (w : VhtWidth) (parsechan : UInt32) :
    List WifiChannel → LocalChannel → Except Report LocalChannel
  | [], ch => .ok ch
  | e :: rows, ch =>
    if e.names parsechan then
      if e.lacks (w.flag ht) then .error (vhtInvalid w parsechan)
      else vhtSearch ht w parsechan rows
        { ch with controlFreq := e.freq, centerFreq1 := w.center e }
    else vhtSearch ht w parsechan rows ch

/-- The `vht80` / `vht160` branch: an explicit center (`r == 3`) is kept as given and marked
unusual, otherwise the table is searched. -/
def vhtBranch (ht : HtTable) (w : VhtWidth) (parsechan : UInt32) (parseCenter1 : Option UInt32) :
    Option LocalChannel × List Report :=
  let ch := { LocalChannel.ofControlFreq parsechan with chanWidth := w.chanWidth }
  match parseCenter1 with
  | some c => (some { ch with centerFreq1 := c, unusualCenter1 := 1 }, [])
  | none =>
    match vhtSearch ht w parsechan ht.channels ch with
    | .ok ch => (some ch, [])
    | .error r => (none, [r])

/-- The `r == 2` branch of the first scan: `mod` picks HT40- or HT40+, and the table is
searched for a row that forbids it. -/
def ht40Branch (ht : HtTable) (chanstr : String) (parsechan : UInt32) (mod : Char) :
    Option LocalChannel × List Report :=
  let ch := LocalChannel.ofControlFreq parsechan
  if mod = '-' then
    (some { ch with chanType := nl80211ChanHt40minus },
      ht40Search ht.ht40minus "-" parsechan (ht.channels.take ht.maxChannel))
  else if mod = '+' then
    (some { ch with chanType := nl80211ChanHt40plus },
      ht40Search ht.ht40plus "+" parsechan ht.channels)
  else (some ch, [unparsedAttributes chanstr])

/-- The `r >= 2` branch of the second scan: the suffix `parsetype` decides the width. -/
def suffixBranch (ht : HtTable) (chanstr : String) (parsechan : UInt32) (parsetype : String)
    (parseCenter1 : Option UInt32) : Option LocalChannel × List Report :=
  let ch := LocalChannel.ofControlFreq parsechan
  if strcasecmpEq parsetype "w5" then (some { ch with chanWidth := nl80211ChanWidth5 }, [])
  else if strcasecmpEq parsetype "w10" then (some { ch with chanWidth := nl80211ChanWidth10 }, [])
  else if strcasecmpEq parsetype "vht80" then vhtBranch ht .vht80 parsechan parseCenter1
  else if strcasecmpEq parsetype "vht160" then vhtBranch ht .vht160 parsechan parseCenter1
  else (some ch, [unparsedAttributes chanstr])

/-- `chantranslate_callback`: the descriptor (`none` for `NULL`) and the messages sent. -/
def chantranslateCallback (ht : HtTable) (chanstr : String) : Option LocalChannel × List Report :=
  match scanHt40 chanstr.data with
  | some (parsechan, some mod) => ht40Branch ht chanstr parsechan mod
  | _ =>
    match scanChan chanstr.data with
    | none =>
      (none, [.message ("unable to parse any channel information from channel string '" ++
        chanstr ++ "'") .error])
    | some (parsechan, none) => (some (LocalChannel.ofControlFreq parsechan), [])
    | some (parsechan, some (parsetype, parseCenter1)) =>
      suffixBranch ht chanstr parsechan ⟨parsetype⟩ parseCenter1

/-! ## Printing -/

/-- `local_channel_to_str`: HT40 takes precedence over a zero width, the width selects the
suffix otherwise, and an unusual center is written after a dash. -/
def localChannelToStr (chan : LocalChannel) : String :=
  let f := formatUnsigned chan.controlFreq
  if chan.chanType = 0 ∧ chan.chanWidth = 0 then f
  else if chan.chanType = nl80211ChanHt40minus then f ++ "HT40-"
  else if chan.chanType = nl80211ChanHt40plus then f ++ "HT40+"
  else if chan.chanWidth = nl80211ChanWidth5 then f ++ "W5"
  else if chan.chanWidth = nl80211ChanWidth10 then f ++ "W10"
  else if chan.chanWidth = nl80211ChanWidth80 then
    if chan.unusualCenter1 ≠ 0 then f ++ "VHT80-" ++ formatUnsigned chan.centerFreq1
    else f ++ "VHT80"
  else if chan.chanWidth = nl80211ChanWidth160 then
    if chan.unusualCenter1 ≠ 0 then f ++ "VHT160-" ++ formatUnsigned chan.centerFreq1
    else f ++ "VHT160"
  else f

/-! ## A sample of the table -/

/-- Channels 36 to 48 of the 5 GHz part of the table, with their frequencies and their 80 and
160 MHz centers.  The flag bits are taken to be `1` (HT40-), `2` (HT40+), `4` (HT80) and
`8` (HT160): 36 and 44 pair upwards, 40 and 48 downwards. -/
def sampleHtTable : HtTable where
  channels :=
    [⟨36, 5180, 2 ||| 4 ||| 8, 5210, 5250⟩, ⟨40, 5200, 1 ||| 4 ||| 8, 5210, 5250⟩,
     ⟨44, 5220, 2 ||| 4 ||| 8, 5210, 5250⟩, ⟨48, 5240, 1 ||| 4 ||| 8, 5210, 5250⟩]
  ht40minus := 1
  ht40plus := 2
  ht80 := 4
  ht160 := 8
  maxChannel := 4
  maxChannel_le := by decide

example : chantranslateCallback sampleHtTable "6" = (some ⟨6, 0, 0, 0, 0, 0⟩, []) := by decide

example :
    chantranslateCallback sampleHtTable "36VHT80" = (some ⟨5180, 0, 3, 0, 5210, 0⟩, []) := by
  decide

example : localChannelToStr ⟨100, 0, 5, 1, 5250, 0⟩ = "100VHT160-5250" := by decide

end LinuxWifiCapture
