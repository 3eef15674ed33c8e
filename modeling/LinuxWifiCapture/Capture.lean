import LinuxWifiCapture.Framework

/-!
# Handing a packet to the framework

`capture_thread` runs `pcap_loop` on the capture handle, and libpcap calls
`pcap_dispatch_cb` for every packet.  The callback offers the packet to the framework with
`cf_send_data` until the framework takes it.  An answer of 0 means the ring buffer is full:
the callback waits for it to drain and tries again.  A positive answer ends the loop.  A
negative one is an error: the callback breaks the pcap loop, reports the error and spins the
handler down.

## The model

What `cf_send_data` answers is not in the sources, so the model takes the answers, in the
order the calls are made, as a list.  `pcapDispatchCb` returns the calls the callback
makes, in order, and whether it returned before the answers ran out.  A list that runs out
before the callback returns stands for every longer run that starts with it, so a callback
that never returns is one that has not returned on any list of answers.

## What the code does

* `pcapDispatchCb_eq`: the whole run in closed form.  Every answer up to the first positive
  one costs a `cf_send_data` and its handling: a wait after a 0, and `pcap_breakloop`,
  `cf_send_error` and `cf_handler_spindown` after a negative answer, after which the loop
  does not stop but offers the packet again.  The callback returns exactly when a positive
  answer comes, so the framework takes each packet at most once.
* `pcapDispatchCb_send_after_error`: so an error does not end the callback.  On the
  answers `-1, 1` the packet is offered a second time, and taken, after the error was
  reported.
* `pcapDispatchCb_of_forall_neg`: on answers that are all errors the callback never
  returns, and reports the error once for every answer.

## The capture thread

`capture_thread` runs `pcap_loop` and, once it returns, reports that the interface closed,
adds a second error when the interface is no longer up, and spins the handler down.
libpcap is not among the sources either: `pcapLoop` takes what its manual promises, that the
packets go to the callback in turn, and that the loop returns when they run out or when a
callback returns after `pcap_breakloop`.  The answers of `cf_send_data` are one list for the
whole run, and each callback reads them from where the last one stopped (`dispatchRest`).

`taken` pairs every `cf_send_data` of a run with its answer and keeps the packets the
framework took, those answered with a positive value.

* `captureThread_taken_in_order`: on every run, what the framework took is the start of the
  stream, each packet once and in order.
* `captureThread_of_nonneg`: when no answer is an error, no packet is dropped.  The
  framework takes one packet for every positive answer, and the thread ends once it has
  taken them all.
* `pcapLoop_stops_at_error`: a packet whose sends meet an error is the last one the loop
  hands on, whatever follows in the stream.
-/

namespace LinuxWifiCapture

/-- `struct pcap_pkthdr`: the time stamp, as seconds and microseconds, and the captured
length. -/
structure PcapPkthdr where
  ts : Nat × Nat
  caplen : UInt32
  deriving DecidableEq, Repr

/-- A call the capture thread makes into the framework or into libpcap. -/
inductive CaptureCall
  /-- `cf_send_data (caph, NULL, NULL, NULL, ts, dlt, caplen, data)`. -/
  | sendData (ts : Nat × Nat) (dlt : Int) (caplen : UInt32) (data : List UInt8)
  /-- `cf_handler_wait_ringbuffer (caph)`. -/
  | waitRingbuffer
  /-- `pcap_breakloop (pd)`. -/
  | breakloop (pd : Option Nat)
  /-- A report to the parent. -/
  | report (r : Report)
  /-- `cf_handler_spindown (caph)`. -/
  | spindown
  deriving DecidableEq, Repr

/-- What `pcap_dispatch_cb`, `pcap_loop` or `capture_thread` has done: its calls, in order,
and whether it returned. -/
structure DispatchRun where
  calls : List CaptureCall
  returned : Bool
  deriving DecidableEq, Repr

/-- The `cf_send_data` call for a packet: the time stamp, the userdata's link type, the
captured length and the bytes. -/
def sendDataCall (wifi : LocalWifi) (header : PcapPkthdr) (data : List UInt8) : CaptureCall :=
  .sendData header.ts wifi.datalinkType header.caplen data

/-- What the body of the `while (1)` loop does after `cf_send_data` answered `ret`, and
whether the loop goes round again. -/
def dispatchBody (wifi : LocalWifi) (ret : Int) : List CaptureCall × Bool :=
  if ret < 0 then
    ([.breakloop wifi.pd, .report (.error "unable to send DATA frame"), .spindown], true)
  else if ret = 0 then ([.waitRingbuffer], true)
  else ([], false)

/-- `pcap_dispatch_cb`, on the answers `cf_send_data` gives, in order. -/
def pcapDispatchCb (wifi : LocalWifi) (header : PcapPkthdr) (data : List UInt8) :
    List Int → DispatchRun
  | [] => ⟨[], false⟩
  | ret :: rets =>
    let body := dispatchBody wifi ret
    if body.2 then
      let rest := pcapDispatchCb wifi header data rets
      ⟨sendDataCall wifi header data :: body.1 ++ rest.calls, rest.returned⟩
    else ⟨sendDataCall wifi header data :: body.1, true⟩

section Dispatch

variable (wifi : LocalWifi) (header : PcapPkthdr) (data : List UInt8)

/-- The loop goes round again exactly on an answer that is not positive. -/
@[simp] theorem dispatchBody_snd (ret : Int) : (dispatchBody wifi ret).2 = decide (ret ≤ 0) := by
  unfold dispatchBody
  split_ifs <;> simp <;> omega

theorem dispatchBody_of_pos {ret : Int} (h : 0 < ret) : dispatchBody wifi ret = ([], false) := by
  simp [dispatchBody, not_lt.mpr h.le, h.ne']

/-- **The send loop in closed form.**  The callback offers the packet once for every answer
up to the first positive one, handling each non-positive answer in between, and offers it
a last time, and returns, exactly when a positive answer comes. -/
theorem pcapDispatchCb_eq (rets : List Int) :
    pcapDispatchCb wifi header data rets =
      ⟨(rets.takeWhile (· ≤ 0)).flatMap
          (fun ret => sendDataCall wifi header data :: (dispatchBody wifi ret).1) ++
        (if rets.any (0 < ·) then [sendDataCall wifi header data] else []),
       rets.any (0 < ·)⟩ := by
  induction rets with
  | nil => rfl
  | cons ret rets ih =>
    by_cases h : ret ≤ 0
    · simp [pcapDispatchCb, h, ih, List.takeWhile_cons_of_pos, not_lt.mpr h]
    · have hpos : 0 < ret := by omega
      simp [pcapDispatchCb, dispatchBody_of_pos _ hpos, h, hpos]

end Dispatch

/-- A packet on a capture whose handle is `1` and whose link type is radiotap (127). -/
def capturingWifi : LocalWifi := { mainLocalWifi with pd := some 1, datalinkType := 127 }

/-- An error, then an accepted send: the callback reports the error, spins the handler down,
and offers the packet again, which the framework takes. -/
theorem pcapDispatchCb_send_after_error :
    pcapDispatchCb capturingWifi ⟨(0, 0), 4⟩ [0, 0, 0, 0] [-1, 1] =
      ⟨[.sendData (0, 0) 127 4 [0, 0, 0, 0], .breakloop (some 1),
        .report (.error "unable to send DATA frame"), .spindown,
        .sendData (0, 0) 127 4 [0, 0, 0, 0]], true⟩ := by
  decide

/-- **Errors never end the callback.**  On answers that are all errors the callback has not
returned, has offered the packet once for every answer, and has reported the error once for
every answer. -/
theorem pcapDispatchCb_of_forall_neg (wifi : LocalWifi) (header : PcapPkthdr)
    (data : List UInt8) (rets : List Int) (hneg : ∀ r ∈ rets, r < 0) :
    (pcapDispatchCb wifi header data rets).returned = false ∧
      (pcapDispatchCb wifi header data rets).calls =
        rets.flatMap fun _ => [sendDataCall wifi header data, .breakloop wifi.pd,
          .report (.error "unable to send DATA frame"), .spindown] := by
  induction rets with
  | nil => exact ⟨rfl, rfl⟩
  | cons ret rets ih =>
    have h := hneg ret (List.mem_cons_self _ _)
    obtain ⟨ih1, ih2⟩ := ih fun r hr => hneg r (List.mem_cons_of_mem _ hr)
    simp [pcapDispatchCb, dispatchBody, h, h.le, ih1, ih2]

/-- Two errors in a row: the callback has not returned and has reported the error twice. -/
theorem pcapDispatchCb_of_forall_neg_twice :
    (pcapDispatchCb capturingWifi ⟨(0, 0), 4⟩ [0, 0, 0, 0] [-1, -1]).returned = false :=
  (pcapDispatchCb_of_forall_neg capturingWifi ⟨(0, 0), 4⟩ [0, 0, 0, 0] [-1, -1]
    (by decide)).1

/-! ## The capture thread -/

/-- A packet the capture delivers to `pcap_loop`: its header and its bytes. -/
structure Packet where
  header : PcapPkthdr
  data : List UInt8
  deriving DecidableEq, Repr

namespace CaptureCall

/-- Whether a call is `cf_send_data`. -/
def isSendData : CaptureCall → Bool
  | .sendData .. => true
  | _ => false

/-- Whether a call is `pcap_breakloop`. -/
def isBreakloop : CaptureCall → Bool
  | .breakloop _ => true
  | _ => false

end CaptureCall

/-- The answers of `cf_send_data` that `pcap_dispatch_cb` leaves for the next packet: the
loop reads one answer a round and leaves after a positive one. -/
def dispatchRest (wifi : LocalWifi) : List Int → List Int
  | [] => []
  | ret :: rets => if (dispatchBody wifi ret).2 then dispatchRest wifi rets else rets

/-- `pcap_loop (pd, -1, pcap_dispatch_cb, caph)`, on the packets the capture delivers before
it ends and the answers of `cf_send_data`.  libpcap hands the packets to the callback in
turn.  It returns when they run out, or when the callback returns after `pcap_breakloop` was
called on the handle; a callback that does not return holds the loop. -/
def pcapLoop (wifi : LocalWifi) : List Packet → List Int → DispatchRun
  | [], _ => ⟨[], true⟩
  | p :: ps, rets =>
    let run := pcapDispatchCb wifi p.header p.data rets
    if run.returned && !run.calls.any CaptureCall.isBreakloop then
      let rest := pcapLoop wifi ps (dispatchRest wifi rets)
      ⟨run.calls ++ rest.calls, rest.returned⟩
    else run

/-- `PCAP_ERRBUF_SIZE`. -/
def pcapErrbufSize : Nat := 256

/-- `IFF_UP` of `<net/if.h>`. -/
def iffUp : Nat := 1

/-- The error `capture_thread` adds when the capture interface is no longer up. -/
def notUpError (capInterface : String) : String :=
  snprintf pcapErrbufSize ("Interface '" ++ capInterface ++ "' no longer appears to be up; " ++
    "This can happen when it is unplugged, or another service like DHCP or " ++
    "NetworKManager has taken over and shut it down on us.")

/-- `capture_thread`, on the packets, the answers of `cf_send_data`, what `pcap_geterr` says
once the loop is over, and what `ifconfig_get_flags` reads for the capture interface: an
error, or the flags. -/
def captureThread (wifi : LocalWifi) (packets : List Packet) (rets : List Int)
    (pcapErrstr : String) (ifflags : Except String Nat) : DispatchRun :=
  let loop := pcapLoop wifi packets rets
  if loop.returned then
    let capInterface := formatStr wifi.capInterface
    let closed := snprintf pcapErrbufSize ("Interface '" ++ capInterface ++ "' closed: " ++
      if pcapErrstr.length = 0 then "interface closed" else pcapErrstr)
    let up := match ifflags with
      | .ok flags => flags &&& iffUp != 0
      | .error _ => false
    ⟨loop.calls ++ .report (.error closed) ::
      (if up then [] else [.report (.error (notUpError capInterface))]) ++ [.spindown], true⟩
  else loop

/-! ## What the framework takes -/

/-- The packets the framework took, in order: every `cf_send_data` of a run reads the next
answer, and the framework took the packet when the answer is positive. -/
def taken (calls : List CaptureCall) (rets : List Int) : List CaptureCall :=
  ((calls.filter CaptureCall.isSendData).zip rets).filterMap fun cr =>
    if 0 < cr.2 then some cr.1 else none

theorem zip_append_drop {α β : Type} (l₁ l₂ : List α) (r : List β) :
    (l₁ ++ l₂).zip r = l₁.zip r ++ l₂.zip (r.drop l₁.length) := by
  induction l₁ generalizing r with
  | nil => rfl
  | cons a l₁ ih => cases r <;> simp [ih]

/-- The sends of a run that comes after another read the answers the first one left. -/
theorem taken_append (calls calls' : List CaptureCall) (rets : List Int) :
    taken (calls ++ calls') rets = taken calls rets ++
      taken calls' (rets.drop (calls.filter CaptureCall.isSendData).length) := by
  simp only [taken, List.filter_append, zip_append_drop, List.filterMap_append]

section Loop

variable (wifi : LocalWifi) (header : PcapPkthdr) (data : List UInt8)

@[simp] theorem dispatchBody_fst_filter (ret : Int) :
    (dispatchBody wifi ret).1.filter CaptureCall.isSendData = [] := by
  unfold dispatchBody
  split_ifs <;> rfl

/-- A callback that has returned took its answers up to the first positive one. -/
theorem dispatchRest_eq_drop (rets : List Int) :
    dispatchRest wifi rets = rets.drop
      ((pcapDispatchCb wifi header data rets).calls.filter CaptureCall.isSendData).length := by
  induction rets with
  | nil => rfl
  | cons ret rets ih =>
    by_cases h : ret ≤ 0
    · simp [dispatchRest, pcapDispatchCb, h, ih, sendDataCall, CaptureCall.isSendData]
    · simp [dispatchRest, pcapDispatchCb, h, sendDataCall, CaptureCall.isSendData]

/-- Within one callback the framework takes the packet once, when the callback returns, and
not at all otherwise. -/
theorem taken_pcapDispatchCb (rets : List Int) :
    taken (pcapDispatchCb wifi header data rets).calls rets =
      if (pcapDispatchCb wifi header data rets).returned then [sendDataCall wifi header data]
      else [] := by
  induction rets with
  | nil => rfl
  | cons ret rets ih =>
    by_cases h : ret ≤ 0
    · simpa [taken, pcapDispatchCb, h, sendDataCall, CaptureCall.isSendData, not_lt.mpr h]
        using ih
    · simp [taken, pcapDispatchCb, dispatchBody_of_pos _ (not_le.mp h), sendDataCall,
        CaptureCall.isSendData, not_le.mp h]

theorem pcapDispatchCb_returned (rets : List Int) :
    (pcapDispatchCb wifi header data rets).returned = rets.any (0 < ·) := by
  induction rets with
  | nil => rfl
  | cons ret rets ih =>
    by_cases h : ret ≤ 0
    · simp [pcapDispatchCb, h, ih, not_lt.mpr h]
    · simp [pcapDispatchCb, h, not_le.mp h]

/-- A callback that meets no error never breaks the loop. -/
theorem pcapDispatchCb_no_breakloop {rets : List Int} (hnn : ∀ r ∈ rets, 0 ≤ r) :
    (pcapDispatchCb wifi header data rets).calls.any CaptureCall.isBreakloop = false := by
  induction rets with
  | nil => rfl
  | cons ret rets ih =>
    have hret : ¬ ret < 0 := not_lt.mpr (hnn ret (List.mem_cons_self _ _))
    have ih := ih fun r hr => hnn r (List.mem_cons_of_mem _ hr)
    by_cases h0 : ret = 0
    · simp [pcapDispatchCb, dispatchBody, h0, ih, sendDataCall, CaptureCall.isBreakloop]
    · simp [pcapDispatchCb, dispatchBody, hret, h0, sendDataCall, CaptureCall.isBreakloop]

/-- A callback that meets an error before the framework takes its packet breaks the loop. -/
theorem pcapDispatchCb_breakloop_of_error {rets : List Int}
    (herr : ∃ r ∈ rets.takeWhile (· ≤ 0), r < 0) :
    (pcapDispatchCb wifi header data rets).calls.any CaptureCall.isBreakloop = true := by
  induction rets with
  | nil => simp at herr
  | cons ret rets ih =>
    by_cases hneg : ret < 0
    · simp [pcapDispatchCb, dispatchBody, hneg, hneg.le, CaptureCall.isBreakloop]
    · by_cases h0 : ret = 0
      · subst h0
        have herr : ∃ r ∈ rets.takeWhile (· ≤ 0), r < 0 := by simpa using herr
        simp [pcapDispatchCb, dispatchBody, ih herr]
      · simp [List.takeWhile_cons, show ¬ ret ≤ 0 by omega] at herr

end Loop

theorem countP_dispatchRest (wifi : LocalWifi) (rets : List Int) :
    (dispatchRest wifi rets).countP (0 < ·) = rets.countP (0 < ·) - 1 := by
  induction rets with
  | nil => rfl
  | cons ret rets ih =>
    by_cases h : ret ≤ 0
    · simp [dispatchRest, h, ih, List.countP_cons, not_lt.mpr h]
    · simp [dispatchRest, h, List.countP_cons, not_le.mp h]

/-- **The framework takes a prefix of the capture.**  For every stream of packets and every
run of answers: what the framework has taken from `pcap_loop` are the first packets of the
stream, each once and in order; no packet is skipped, taken twice or taken out of order. -/
theorem taken_pcapLoop_in_order (wifi : LocalWifi) :
    ∀ (packets : List Packet) (rets : List Int),
      taken (pcapLoop wifi packets rets).calls rets <+:
        packets.map fun p => sendDataCall wifi p.header p.data
  | [], _ => List.nil_prefix
  | p :: ps, rets => by
    have hcb := taken_pcapDispatchCb wifi p.header p.data rets
    unfold pcapLoop
    dsimp only
    split
    · rw [taken_append, ← dispatchRest_eq_drop, hcb, if_pos (by simp_all)]
      exact List.cons_prefix_cons.mpr ⟨rfl, taken_pcapLoop_in_order wifi ps _⟩
    · rw [hcb]
      split
      · exact List.cons_prefix_cons.mpr ⟨rfl, List.nil_prefix⟩
      · exact List.nil_prefix

/-- With no error among the answers, the loop takes one packet for every positive answer, in
order, and returns once it has taken every packet. -/
theorem pcapLoop_of_nonneg (wifi : LocalWifi) :
    ∀ (packets : List Packet) (rets : List Int), (∀ r ∈ rets, 0 ≤ r) →
      taken (pcapLoop wifi packets rets).calls rets =
          (packets.take (rets.countP (0 < ·))).map (fun p => sendDataCall wifi p.header p.data) ∧
        (pcapLoop wifi packets rets).returned = decide (packets.length ≤ rets.countP (0 < ·))
  | [], _, _ => by simp [pcapLoop, taken]
  | p :: ps, rets, hnn => by
    have hret : (pcapDispatchCb wifi p.header p.data rets).returned =
        decide (0 < rets.countP (0 < ·)) := by
      rw [pcapDispatchCb_returned, Bool.eq_iff_iff]
      simp
    have hcb := taken_pcapDispatchCb wifi p.header p.data rets
    unfold pcapLoop
    dsimp only
    by_cases hpos : 0 < rets.countP (0 < ·)
    · -- the callback returns: the packet is taken and the loop goes on
      have hrest : ∀ r ∈ dispatchRest wifi rets, 0 ≤ r := by
        rw [dispatchRest_eq_drop wifi p.header p.data]
        exact fun r hr => hnn r (List.mem_of_mem_drop hr)
      obtain ⟨ih1, ih2⟩ := pcapLoop_of_nonneg wifi ps _ hrest
      rw [countP_dispatchRest] at ih1 ih2
      obtain ⟨c, hc⟩ := Nat.exists_eq_add_of_lt hpos
      rw [if_pos (by simp [hret, hpos, pcapDispatchCb_no_breakloop wifi p.header p.data hnn])]
      refine ⟨?_, ?_⟩
      · rw [taken_append, ← dispatchRest_eq_drop, hcb, hret, ih1]
        simp [hc]
      · rw [ih2]
        simp [hc]
    · -- no positive answer: the callback has not returned
      have h0 : rets.countP (0 < ·) = 0 := by omega
      rw [if_neg (by simp [hret, hpos])]
      simp [hcb, hret, h0]

section Thread

variable (wifi : LocalWifi) (packets : List Packet) (rets : List Int) (pcapErrstr : String)
  (ifflags : Except String Nat)

/-- What `capture_thread` does after the loop sends nothing: the framework takes from the
thread what it took from the loop. -/
theorem taken_captureThread :
    taken (captureThread wifi packets rets pcapErrstr ifflags).calls rets =
      taken (pcapLoop wifi packets rets).calls rets := by
  unfold captureThread
  dsimp only
  split
  · rw [taken_append]
    split_ifs <;> simp [taken, CaptureCall.isSendData]
  · rfl

theorem captureThread_returned :
    (captureThread wifi packets rets pcapErrstr ifflags).returned =
      (pcapLoop wifi packets rets).returned := by
  unfold captureThread
  dsimp only
  split <;> simp_all

end Thread

/-- **The framework takes a prefix of the capture.**  For every stream of packets, every run
of answers of `cf_send_data` and every way the capture ends, what the framework has taken
from the capture thread are the first packets of the stream, each once and in order: no
packet is skipped, taken twice or taken out of order. -/
theorem captureThread_taken_in_order (wifi : LocalWifi) (packets : List Packet) (rets : List Int)
    (pcapErrstr : String) (ifflags : Except String Nat) :
    taken (captureThread wifi packets rets pcapErrstr ifflags).calls rets <+:
      packets.map fun p => sendDataCall wifi p.header p.data := by
  rw [taken_captureThread]
  exact taken_pcapLoop_in_order wifi packets rets

/-- **No packet is dropped while the framework accepts.**  When no answer of `cf_send_data`
is an error, the framework takes one packet for every positive answer, in capture order, and
the thread reaches its end, reporting the closed interface, exactly when it has taken every
packet. -/
theorem captureThread_of_nonneg (wifi : LocalWifi) (packets : List Packet) (rets : List Int)
    (pcapErrstr : String) (ifflags : Except String Nat) (hnn : ∀ r ∈ rets, 0 ≤ r) :
    taken (captureThread wifi packets rets pcapErrstr ifflags).calls rets =
        (packets.take (rets.countP (0 < ·))).map (fun p => sendDataCall wifi p.header p.data) ∧
      (captureThread wifi packets rets pcapErrstr ifflags).returned =
        decide (packets.length ≤ rets.countP (0 < ·)) := by
  rw [taken_captureThread, captureThread_returned]
  exact pcapLoop_of_nonneg wifi packets rets hnn

/-- Two packets; the ring buffer is full once, then both are taken and the thread ends. -/
theorem captureThread_of_nonneg_two :
    (∀ r ∈ [0, 1, 1], (0 : Int) ≤ r) ∧
      taken (captureThread capturingWifi [⟨⟨(0, 0), 1⟩, [7]⟩, ⟨⟨(0, 1), 1⟩, [8]⟩] [0, 1, 1]
          "" (.ok 1)).calls [0, 1, 1] =
        [.sendData (0, 0) 127 1 [7], .sendData (0, 1) 127 1 [8]] :=
  ⟨by decide, (captureThread_of_nonneg capturingWifi _ [0, 1, 1] "" (.ok 1) (by decide)).1⟩

/-- **A send error ends the capture at its packet.**  At every point of the loop, a packet
whose sends meet an error before the framework takes it is the last packet the loop hands
to the callback: the rest of the stream is dropped. -/
theorem pcapLoop_stops_at_error (wifi : LocalWifi) (p : Packet) (ps : List Packet)
    (rets : List Int) (herr : ∃ r ∈ rets.takeWhile (· ≤ 0), r < 0) :
    pcapLoop wifi (p :: ps) rets = pcapDispatchCb wifi p.header p.data rets := by
  unfold pcapLoop
  dsimp only
  rw [if_neg (by simp [pcapDispatchCb_breakloop_of_error wifi p.header p.data herr])]

/-- An error on the first packet: the second packet is never offered. -/
theorem pcapLoop_stops_at_error_first :
    (∃ r ∈ [(-1 : Int), 1, 1].takeWhile (· ≤ 0), r < 0) ∧
      (pcapLoop capturingWifi [⟨⟨(0, 0), 1⟩, [7]⟩, ⟨⟨(0, 1), 1⟩, [8]⟩]
          [-1, 1, 1]).calls.filter CaptureCall.isSendData =
        [.sendData (0, 0) 127 1 [7], .sendData (0, 0) 127 1 [7]] :=
  ⟨by decide, by
    rw [pcapLoop_stops_at_error capturingWifi _ _ [-1, 1, 1] (by decide)]
    decide⟩

/-! ## What the capture thread reads of the userdata -/

section Congr

variable {wifi wifi' : LocalWifi}

theorem dispatchBody_congr (hpd : wifi'.pd = wifi.pd) (ret : Int) :
    dispatchBody wifi' ret = dispatchBody wifi ret := by
  simp only [dispatchBody, hpd]

theorem pcapDispatchCb_congr (hpd : wifi'.pd = wifi.pd)
    (hdlt : wifi'.datalinkType = wifi.datalinkType) (header : PcapPkthdr) (data : List UInt8)
    (rets : List Int) :
    pcapDispatchCb wifi' header data rets = pcapDispatchCb wifi header data rets := by
  induction rets with
  | nil => rfl
  | cons ret rets ih => simp only [pcapDispatchCb, dispatchBody_congr hpd, sendDataCall, hdlt, ih]

theorem dispatchRest_congr (hpd : wifi'.pd = wifi.pd) (rets : List Int) :
    dispatchRest wifi' rets = dispatchRest wifi rets := by
  induction rets with
  | nil => rfl
  | cons ret rets ih => simp only [dispatchRest, dispatchBody_congr hpd, ih]

theorem pcapLoop_congr (hpd : wifi'.pd = wifi.pd) (hdlt : wifi'.datalinkType = wifi.datalinkType) :
    ∀ (packets : List Packet) (rets : List Int),
      pcapLoop wifi' packets rets = pcapLoop wifi packets rets
  | [], _ => rfl
  | p :: ps, rets => by
    simp only [pcapLoop, pcapDispatchCb_congr hpd hdlt, dispatchRest_congr hpd,
      pcapLoop_congr hpd hdlt ps]

/-- The capture thread reads only the handle, the link type and the capture interface of the
userdata. -/
theorem captureThread_congr (hpd : wifi'.pd = wifi.pd)
    (hdlt : wifi'.datalinkType = wifi.datalinkType) (hcap : wifi'.capInterface = wifi.capInterface)
    (packets : List Packet) (rets : List Int) (pcapErrstr : String) (ifflags : Except String Nat) :
    captureThread wifi' packets rets pcapErrstr ifflags =
      captureThread wifi packets rets pcapErrstr ifflags := by
  simp only [captureThread, pcapLoop_congr hpd hdlt, hcap]

end Congr

end LinuxWifiCapture
