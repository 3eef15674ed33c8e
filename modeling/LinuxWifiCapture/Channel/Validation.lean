import LinuxWifiCapture.Channel.RoundTrip

/-!
# What a parsed descriptor promises, and what the table decides

Two facts about `chantranslate_callback` beyond the round trip.

## The shape of a descriptor

`descriptorShape_of_chantranslate`: a descriptor the parser returns has an HT40 type only
with the default width and no centers, a 5 or 10 MHz width only with no centers, and never
a second center.  A VHT80 or VHT160 descriptor for a channel the table names, though, may
carry no center: the parser keeps an explicit center as given, `0` included (`36VHT80-0`),
and copies a row's center, `0` included.  The comment on `chancontrol_callback` expects
this: "if center1 is 0 _set_frequency will automatically exclude it and only set the
width".

## Validation against the table

`chantranslate_tableValidation`: when every number names at most one row and the HT40-
bound covers the table, the table decides the parse exactly.  `NNHT40+` and `NNHT40-`
always parse, with one informational message when the row for `NN` lacks the flag and none
when it carries it or when no row names `NN`.  `NNVHT80` and `NNVHT160` fail when the row
for `NN` lacks the flag, and take the row's frequency and center when it carries it.

## Two slips

Two paths of the parser break what its comments promise, and the results above leave them
out.  The HT40- search runs `ci < MAX_WIFI_HT_CHANNEL` where its HT40+ sibling runs over the
whole table (`ht40Branch`), so a bound shorter than the table hides the rows past it.  A
VHT number no row names keeps the width with the `memset` center `0`
(`chantranslate_vht_of_unnamed`), where the comment on `local_channel_t` says that
"center_freq1 is set to the corresponding vht center frequency".
-/

namespace LinuxWifiCapture

variable {ht : HtTable}

/-! ## The shape of a descriptor -/

/-- What every descriptor the parser returns satisfies. -/
structure DescriptorShape (ht : HtTable) (d : LocalChannel) : Prop where
  ht40 : d.chanType ≠ 0 → d.chanWidth = 0 ∧ d.centerFreq1 = 0 ∧ d.centerFreq2 = 0
  narrow : d.chanWidth = nl80211ChanWidth5 ∨ d.chanWidth = nl80211ChanWidth10 →
    d.centerFreq1 = 0 ∧ d.centerFreq2 = 0
  center2 : d.centerFreq2 = 0
  /-- A VHT descriptor without a center, for a channel the table names, was given `0`
  explicitly, or copies a row whose own center is `0`. -/
  vht : d.chanWidth = nl80211ChanWidth80 ∨ d.chanWidth = nl80211ChanWidth160 →
    d.centerFreq1 = 0 → (∃ e ∈ ht.channels, e.names d.controlFreq = true) →
    d.unusualCenter1 = 1 ∨ ∃ e ∈ ht.channels, e.freq = d.controlFreq ∧
      (d.chanWidth = nl80211ChanWidth80 ∧ e.freq80 = 0 ∨
        d.chanWidth = nl80211ChanWidth160 ∧ e.freq160 = 0)

theorem descriptorShape_of_parsed {d : LocalChannel} (h : Parsed ht d) : DescriptorShape ht d := by
  cases h with
  | vhtTable w f ch h =>
    rcases vhtSearch_ok h with ⟨rfl, hnone⟩ | ⟨e, he, -, -, rfl⟩
    · refine ⟨?_, ?_, rfl, fun _ _ ⟨e, he, hn⟩ => absurd hn (by simp [hnone e he])⟩ <;>
        cases w <;> simp [nl80211_values]
    · cases w <;> refine ⟨by simp [nl80211_values], by simp [nl80211_values], rfl,
        fun _ hc _ => .inr ⟨e, he, rfl, ?_⟩⟩
      exacts [.inl ⟨rfl, hc⟩, .inr ⟨rfl, hc⟩]
  | vhtCenter w f c =>
    refine ⟨?_, ?_, rfl, fun _ _ _ => .inl rfl⟩ <;> cases w <;> simp [nl80211_values]
  | _ =>
    refine ⟨fun h => ?_, fun h => ?_, rfl, fun h => by simp [nl80211_values] at h⟩ <;>
      first | exact absurd rfl h | exact ⟨rfl, rfl, rfl⟩ | exact ⟨rfl, rfl⟩ | simp [nl80211_values] at h

/-- **The shape of a parsed descriptor.**  For every table and every string the parser
accepts: HT40 goes with the default width and no centers, 5 and 10 MHz go with no centers,
the second center is never set, and a VHT80 or VHT160 descriptor for a channel the table
names lacks a center only when it was given as `0` or when the row's own center is `0`. -/
theorem descriptorShape_of_chantranslate (ht : HtTable) (s : String) (d : LocalChannel)
    (h : (chantranslateCallback ht s).1 = some d) : DescriptorShape ht d :=
  descriptorShape_of_parsed (parsed_of_chantranslate h)

theorem descriptorShape_of_chantranslate_36vht80 :
    (chantranslateCallback sampleHtTable "36VHT80").1 = some ⟨5180, 0, 3, 0, 5210, 0⟩ ∧
      DescriptorShape sampleHtTable ⟨5180, 0, 3, 0, 5210, 0⟩ :=
  ⟨by decide, descriptorShape_of_chantranslate sampleHtTable "36VHT80" _ (by decide)⟩

/-- A VHT80 descriptor with no center: from an explicit `-0`, and from a row whose own
center is `0`. -/
theorem chantranslate_vht80_without_center :
    (chantranslateCallback sampleHtTable "36VHT80-0").1 = some ⟨36, 0, 3, 1, 0, 0⟩ ∧
      (chantranslateCallback ⟨[⟨36, 5180, 4, 0, 0⟩], 1, 2, 4, 8, 1, by decide⟩ "36VHT80").1 =
        some ⟨5180, 0, 3, 0, 0, 0⟩ := by
  decide

/-! ## Validation against the table -/

theorem eq_of_mem_of_length_le_one {α : Type} {l : List α} (hl : l.length ≤ 1) {x y : α}
    (hx : x ∈ l) (hy : y ∈ l) : x = y := by
  match l, hl with
  | [_], _ => simp_all

/-- When the first row names the channel and at most one row does, no later row names it. -/
theorem forall_names_false_of_unique {nn : UInt32} {e : WifiChannel} {rows : List WifiChannel}
    (hn : e.names nn = true) (hu : ((e :: rows).filter (·.names nn)).length ≤ 1) :
    ∀ x ∈ rows, x.names nn = false := by
  rw [List.filter_cons, if_pos hn, List.length_cons] at hu
  simpa using List.filter_eq_nil_iff.mp (List.length_eq_zero.mp (by omega))

theorem ht40Search_of_forall_names_false {flag : UInt32} {sign : String} {nn : UInt32}
    {rows : List WifiChannel} (h : ∀ x ∈ rows, x.names nn = false) :
    ht40Search flag sign nn rows = [] :=
  List.filterMap_eq_nil_iff.mpr fun x hx => by simp [h x hx]

/-- Where at most one row names the channel, the HT40 search sends one message when that
row lacks the flag, and none when it carries it or when no row names the channel. -/
theorem ht40Search_of_unique (flag : UInt32) (sign : String) (nn : UInt32) :
    ∀ rows : List WifiChannel, (rows.filter (·.names nn)).length ≤ 1 →
      ht40Search flag sign nn rows = match rows.find? (·.names nn) with
        | some e => if e.lacks flag then [ht40Invalid sign nn] else []
        | none => []
  | [], _ => rfl
  | e :: rows, hu => by
    by_cases hn : e.names nn = true
    · have h0 : ht40Search flag sign nn rows = [] :=
        ht40Search_of_forall_names_false (forall_names_false_of_unique hn hu)
      rw [List.find?_cons_of_pos (p := fun x => x.names nn) rows hn]
      simp only [ht40Search, List.filterMap_cons, hn, Bool.true_and] at h0 ⊢
      split <;> simp_all
    · rw [List.find?_cons_of_neg (p := fun x => x.names nn) rows hn,
        ← ht40Search_of_unique flag sign nn rows
        (by simpa [List.filter_cons, hn] using hu)]
      simp [ht40Search, List.filterMap_cons, hn]

/-- Where at most one row names the channel, the VHT search stops at that row when it lacks
the flag, takes it when it carries it, and leaves the descriptor alone when there is none. -/
theorem vhtSearch_of_filter_unique {w : VhtWidth} {nn : UInt32} (rows : List WifiChannel)
    (ch0 : LocalChannel) (hu : (rows.filter (·.names nn)).length ≤ 1) :
    vhtSearch ht w nn rows ch0 = match rows.find? (·.names nn) with
      | some e => if e.lacks (w.flag ht) then .error (vhtInvalid w nn)
        else .ok { ch0 with controlFreq := e.freq, centerFreq1 := w.center e }
      | none => .ok ch0 := by
  split
  · next e he =>
    have hmem := List.mem_of_find?_eq_some he
    have hn := List.find?_some he
    rw [vhtSearch_of_unique e hn rows ch0 fun x hx hxn => eq_of_mem_of_length_le_one hu
      (List.mem_filter.mpr ⟨hx, hxn⟩) (List.mem_filter.mpr ⟨hmem, hn⟩), if_pos hmem]
  · next he =>
    exact vhtSearch_of_forall_names_false rows ch0 fun x hx => by
      simpa using List.find?_eq_none.mp he x hx

/-- A table in which no two rows share a number, in either field, has at most one row for
every number. -/
theorem filter_names_length_le_one {rows : List WifiChannel}
    (h : rows.Pairwise fun e e' =>
      e.chan ≠ e'.chan ∧ e.chan ≠ e'.freq ∧ e.freq ≠ e'.chan ∧ e.freq ≠ e'.freq)
    (n : UInt32) :
    (rows.filter (·.names n)).length ≤ 1 := by
  induction rows with
  | nil => simp
  | cons e rows ih =>
    rw [List.pairwise_cons] at h
    rw [List.filter_cons]
    split
    · next hn =>
      have hnil : rows.filter (·.names n) = [] := List.filter_eq_nil_iff.mpr fun x hx hxn => by
        obtain ⟨h1, h2, h3, h4⟩ := h.1 x hx
        simp only [WifiChannel.names, Bool.or_eq_true, beq_iff_eq] at hn hxn
        rcases hn with rfl | rfl <;> rcases hxn with h' | h' <;> simp_all
      simp [hnil]
    · exact ih h.2

/-- **Validation against the table.**  For every table in which each number names at most
one row and `MAX_WIFI_HT_CHANNEL` is the table's length, and every number `NN`: `NNHT40+`
and `NNHT40-` parse to the HT40 descriptor, with one informational message when the row for
`NN` lacks the flag and none otherwise; `NNVHT80` and `NNVHT160`, for an `NN` the table
names, parse to `NULL` when its row lacks the flag and to the row's frequency and center
when it carries it. -/
theorem chantranslate_tableValidation (ht : HtTable)
    (huniq : ∀ n : UInt32, (ht.channels.filter (·.names n)).length ≤ 1)
    (hmax : ht.maxChannel = ht.channels.length) (nn : UInt32) :
    chantranslateCallback ht (formatUnsigned nn ++ "HT40+") =
        (some { LocalChannel.ofControlFreq nn with chanType := nl80211ChanHt40plus },
          match ht.channels.find? (·.names nn) with
          | some e => if e.lacks ht.ht40plus then [ht40Invalid "+" nn] else []
          | none => []) ∧
      chantranslateCallback ht (formatUnsigned nn ++ "HT40-") =
        (some { LocalChannel.ofControlFreq nn with chanType := nl80211ChanHt40minus },
          match ht.channels.find? (·.names nn) with
          | some e => if e.lacks ht.ht40minus then [ht40Invalid "-" nn] else []
          | none => []) ∧
      ∀ (w : VhtWidth) (e : WifiChannel), ht.channels.find? (·.names nn) = some e →
        (chantranslateCallback ht (formatUnsigned nn ++ w.label)).1 =
          if e.lacks (w.flag ht) then none
          else some { LocalChannel.ofControlFreq e.freq with
            chanWidth := w.chanWidth, centerFreq1 := w.center e } := by
  have htake : ht.channels.take ht.maxChannel = ht.channels := by rw [hmax, List.take_length]
  refine ⟨?_, ?_, fun w e he => ?_⟩
  · rw [← ht40Search_of_unique _ _ _ _ (huniq nn)]
    exact chantranslate_ht40 nn '+'
  · rw [← ht40Search_of_unique _ _ _ _ (huniq nn), ← htake]
    exact chantranslate_ht40 nn '-'
  · rw [chantranslate_vhtLabel_none, vhtBranch, vhtSearch_of_filter_unique _ _ (huniq nn), he]
    by_cases hl : e.lacks (w.flag ht) = true <;> simp [hl]

theorem chantranslate_tableValidation_44ht40minus :
    (∀ n : UInt32, (sampleHtTable.channels.filter (·.names n)).length ≤ 1) ∧
      sampleHtTable.maxChannel = sampleHtTable.channels.length ∧
      (chantranslateCallback sampleHtTable (formatUnsigned 44 ++ "HT40-")).2 =
        [ht40Invalid "-" 44] :=
  ⟨filter_names_length_le_one (by decide), rfl, by
    rw [(chantranslate_tableValidation sampleHtTable
      (filter_names_length_le_one (by decide)) rfl 44).2.1]
    decide⟩

/-- A number the table does not know: `100HT40+` parses without a message, although no row
for 100 carries the flag. -/
theorem chantranslate_unknown_channel :
    (∀ n : UInt32, (sampleHtTable.channels.filter (·.names n)).length ≤ 1) ∧
      chantranslateCallback sampleHtTable "100HT40+" = (some ⟨100, 3, 0, 0, 0, 0⟩, []) :=
  ⟨filter_names_length_le_one (by decide), by decide⟩

/-! ## The VHT number no row names -/

/-- `NNVHT80` and `NNVHT160` for a number no row names: the descriptor keeps `NN` and the
width, with no center and no message. -/
theorem chantranslate_vht_of_unnamed (ht : HtTable) (w : VhtWidth) {nn : UInt32}
    (h : ∀ e ∈ ht.channels, e.names nn = false) :
    chantranslateCallback ht (formatUnsigned nn ++ w.label) =
      (some { LocalChannel.ofControlFreq nn with chanWidth := w.chanWidth }, []) := by
  rw [chantranslate_vhtLabel_none, vhtBranch]
  simp only [vhtSearch_of_forall_names_false _ _ h]

example : chantranslateCallback sampleHtTable "100VHT80" = (some ⟨100, 0, 3, 0, 0, 0⟩, []) := by
  decide

end LinuxWifiCapture
