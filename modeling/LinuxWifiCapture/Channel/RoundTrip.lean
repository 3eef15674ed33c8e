import LinuxWifiCapture.Channel.Translate
import Mathlib.Data.List.Nodup

/-!
# Parsing a printed channel gives the channel back

`local_channel_to_str` is used to name a channel in messages and in the configure response,
and the Kismet server may hand that string back as a channel to tune.  This file proves that
nothing is lost on the way: for every descriptor the parser returns, parsing its printed form
returns the same descriptor (`chantranslate_localChannelToStr`).

## How the proof goes

`Parsed ht d` lists the descriptors the parser can return, one constructor per branch that
builds one, and `parsed_of_chantranslate` shows that every descriptor it returns is one of
them.  Each constructor is then printed and parsed again.  The scans of the printed form
are exact (`scanUnsigned_formatUnsigned`, `scanNotDash_append`), so all but one case come
back by computation.

The one case that needs the table is a VHT80 or VHT160 channel without an explicit center.
The parser replaced the requested number by the frequency of the last row that names it,
so the printed string names that frequency, and parsing it searches the table again.  The
search returns the same row when no other row names that frequency: frequencies are
pairwise distinct and no channel number equals a frequency.  When no row named the number
at all, the printed number is the requested one and the second search is the first.
-/

namespace LinuxWifiCapture

variable {ht : HtTable}

/-! ## The descriptors the parser returns -/

/-- The descriptors `chantranslate_callback` returns, by the branch that builds them. -/
inductive Parsed (ht : HtTable) : LocalChannel → Prop
  /-- A bare number, or a number with a suffix the parser does not know. -/
  | basic (f : UInt32) : Parsed ht (.ofControlFreq f)
  | ht40minus (f : UInt32) :
      Parsed ht { LocalChannel.ofControlFreq f with chanType := nl80211ChanHt40minus }
  | ht40plus (f : UInt32) :
      Parsed ht { LocalChannel.ofControlFreq f with chanType := nl80211ChanHt40plus }
  | w5 (f : UInt32) : Parsed ht { LocalChannel.ofControlFreq f with chanWidth := nl80211ChanWidth5 }
  | w10 (f : UInt32) :
      Parsed ht { LocalChannel.ofControlFreq f with chanWidth := nl80211ChanWidth10 }
  /-- `NNVHT80-CC` and `NNVHT160-CC`. -/
  | vhtCenter (w : VhtWidth) (f c : UInt32) :
      Parsed ht { LocalChannel.ofControlFreq f with
        chanWidth := w.chanWidth, centerFreq1 := c, unusualCenter1 := 1 }
  /-- `NNVHT80` and `NNVHT160`, completed from the table. -/
  | vhtTable (w : VhtWidth) (f : UInt32) (ch : LocalChannel)
      (h : vhtSearch ht w f ht.channels
        { LocalChannel.ofControlFreq f with chanWidth := w.chanWidth }
        = .ok ch) : Parsed ht ch

theorem parsed_of_vhtBranch {w : VhtWidth} {f : UInt32} {c : Option UInt32} {d : LocalChannel}
    (h : (vhtBranch ht w f c).1 = some d) : Parsed ht d := by
  unfold vhtBranch at h
  dsimp only at h
  split at h
  · cases h
    exact .vhtCenter w f _
  · split at h
    · cases h
      exact .vhtTable w f _ ‹_›
    · cases h

theorem parsed_of_ht40Branch {s : String} {f : UInt32} {mod : Char} {d : LocalChannel}
    (h : (ht40Branch ht s f mod).1 = some d) : Parsed ht d := by
  unfold ht40Branch at h
  dsimp only at h
  split_ifs at h <;> cases h
  exacts [.ht40minus f, .ht40plus f, .basic f]

theorem parsed_of_suffixBranch {s t : String} {f : UInt32} {c : Option UInt32} {d : LocalChannel}
    (h : (suffixBranch ht s f t c).1 = some d) : Parsed ht d := by
  unfold suffixBranch at h
  dsimp only at h
  split_ifs at h
  · cases h; exact .w5 f
  · cases h; exact .w10 f
  · exact parsed_of_vhtBranch h
  · exact parsed_of_vhtBranch h
  · cases h; exact .basic f

/-- Every descriptor the parser returns is built by one of its branches. -/
theorem parsed_of_chantranslate {s : String} {d : LocalChannel}
    (h : (chantranslateCallback ht s).1 = some d) : Parsed ht d := by
  unfold chantranslateCallback at h
  split at h
  · exact parsed_of_ht40Branch h
  · split at h
    · cases h
    · cases h; exact .basic _
    · exact parsed_of_suffixBranch h

/-! ## The VHT search -/

/-- What a successful VHT search did: nothing, when no row names the channel, or it took
the frequency and the center of a row that names the channel and carries the flag. -/
theorem vhtSearch_ok {w : VhtWidth} {p : UInt32} {rows : List WifiChannel}
    {ch0 ch : LocalChannel} (h : vhtSearch ht w p rows ch0 = .ok ch) :
    (ch = ch0 ∧ ∀ e ∈ rows, e.names p = false) ∨
    ∃ e ∈ rows, e.names p = true ∧ e.lacks (w.flag ht) = false ∧
      ch = { ch0 with controlFreq := e.freq, centerFreq1 := w.center e } := by
  induction rows generalizing ch0 with
  | nil => exact .inl ⟨(Except.ok.inj h).symm, by simp⟩
  | cons e rows ih =>
    unfold vhtSearch at h
    split at h
    · next hn =>
      split at h
      · cases h
      · next hl =>
        rcases ih h with ⟨rfl, -⟩ | ⟨e', he', hn', hl', rfl⟩
        · exact .inr ⟨e, .head _, hn, by simpa using hl, rfl⟩
        · exact .inr ⟨e', .tail _ he', hn', hl', rfl⟩
    · next hn =>
      rcases ih h with ⟨rfl, hall⟩ | ⟨e', he', hn', hl', rfl⟩
      · refine .inl ⟨rfl, ?_⟩
        simp only [List.mem_cons, forall_eq_or_imp]
        exact ⟨by simpa using hn, hall⟩
      · exact .inr ⟨e', .tail _ he', hn', hl', rfl⟩

/-- A search in which no row names the channel leaves the descriptor alone. -/
theorem vhtSearch_of_forall_names_false {w : VhtWidth} {p : UInt32} :
    ∀ (rows : List WifiChannel) (ch0 : LocalChannel), (∀ x ∈ rows, x.names p = false) →
      vhtSearch ht w p rows ch0 = .ok ch0
  | [], _, _ => rfl
  | x :: rows, ch0, h => by
    rw [vhtSearch, if_neg (by simp [h x (.head _)]),
      vhtSearch_of_forall_names_false rows ch0 fun y hy => h y (.tail _ hy)]

/-- A search in which `e` is the only row that names the channel stops at `e` when `e`
lacks the flag, and takes `e` otherwise. -/
theorem vhtSearch_of_unique {w : VhtWidth} {p : UInt32} (e : WifiChannel)
    (hn : e.names p = true) :
    ∀ (rows : List WifiChannel) (ch0 : LocalChannel),
      (∀ x ∈ rows, x.names p = true → x = e) →
      vhtSearch ht w p rows ch0 = if e ∈ rows then
        (if e.lacks (w.flag ht) then .error (vhtInvalid w p)
          else .ok { ch0 with controlFreq := e.freq, centerFreq1 := w.center e }) else .ok ch0
  | [], ch0, _ => by simp [vhtSearch]
  | x :: rows, ch0, hu => by
    have hu' : ∀ y ∈ rows, y.names p = true → y = e := fun y hy => hu y (.tail _ hy)
    unfold vhtSearch
    by_cases hx : x.names p = true
    · obtain rfl := hu x (.head _) hx
      rw [if_pos hx, if_pos (List.mem_cons_self _ _), vhtSearch_of_unique x hn rows _ hu']
      split
      · rfl
      · split <;> rfl
    · have hne : x ≠ e := fun h => hx (h ▸ hn)
      rw [if_neg hx, vhtSearch_of_unique e hn rows _ hu']
      simp [Ne.symm hne]

/-! ## Scanning a printed channel -/

theorem scanHt40_formatUnsigned (n : UInt32) (rest : List Char)
    (hrest : ∀ c ∈ rest.head?, c.isDigit = false) :
    scanHt40 ((formatUnsigned n).data ++ rest) = some (n, scanHt40Tail rest) := by
  simp [scanHt40, scanUnsigned_formatUnsigned n rest hrest]

theorem scanChan_formatUnsigned (n : UInt32) (rest : List Char)
    (hrest : ∀ c ∈ rest.head?, c.isDigit = false) :
    scanChan ((formatUnsigned n).data ++ rest) =
      some (n, (scanNotDash rest).map fun q => (q.1, scanCenterTail q.2)) := by
  simp [scanChan, scanUnsigned_formatUnsigned n rest hrest]

/-- A bare number parses to itself. -/
theorem chantranslate_formatUnsigned (n : UInt32) :
    chantranslateCallback ht (formatUnsigned n) = (some (.ofControlFreq n), []) := by
  have h1 := scanHt40_formatUnsigned n [] (by simp)
  have h2 := scanChan_formatUnsigned n [] (by simp)
  rw [List.append_nil] at h1 h2
  simp [chantranslateCallback, h1, h2, scanNotDash, scanHt40Tail]

/-- A number followed by `HT40` and one more character takes the HT40 branch. -/
theorem chantranslate_ht40 (n : UInt32) (mod : Char) :
    chantranslateCallback ht (formatUnsigned n ++ ⟨['H', 'T', '4', '0', mod]⟩) =
      ht40Branch ht (formatUnsigned n ++ ⟨['H', 'T', '4', '0', mod]⟩) n mod := by
  simp [chantranslateCallback, scanHt40_formatUnsigned n ['H', 'T', '4', '0', mod] (by simp),
    scanHt40Tail]

/-- A number followed by a word that is not a number and does not start with `H` takes the
suffix branch, with the center that follows a dash. -/
theorem chantranslate_suffix (n : UInt32) (s : String) (w rest : List Char) (c : Option UInt32)
    (hs : s.data = w ++ rest)
    (hw : ∀ x ∈ w.head?, x.isDigit = false ∧ x ≠ 'H') (hdash : ∀ x ∈ w, x ≠ '-')
    (hlen : w.length ≤ 15) (hne : w ≠ [])
    (hrest : rest = [] ∧ c = none ∨
      ∃ m, rest = '-' :: (formatUnsigned m).data ∧ c = some m) :
    chantranslateCallback ht (formatUnsigned n ++ s) =
      suffixBranch ht (formatUnsigned n ++ s) n ⟨w⟩ c := by
  obtain ⟨x, xs, rfl⟩ := List.exists_cons_of_ne_nil hne
  have hx := hw x rfl
  have hht : scanHt40 ((formatUnsigned n).data ++ (x :: xs ++ rest)) = some (n, none) := by
    rw [scanHt40_formatUnsigned n _ (by simp [hx.1]), List.cons_append]
    unfold scanHt40Tail
    split
    · simp_all
    · rfl
  have hcenter : scanCenterTail rest = c := by
    rcases hrest with ⟨rfl, rfl⟩ | ⟨m, rfl, rfl⟩
    · rfl
    · have h := scanUnsigned_formatUnsigned m [] (by simp)
      rw [List.append_nil] at h
      simp [scanCenterTail, h]
  have hnd : scanNotDash (x :: xs ++ rest) = some (x :: xs, rest) := by
    refine scanNotDash_append _ _ hdash hlen (List.cons_ne_nil _ _) ?_
    rcases hrest with ⟨rfl, -⟩ | ⟨m, rfl, -⟩ <;> simp
  simp only [chantranslateCallback, String.data_append, hs, hht]
  rw [scanChan_formatUnsigned n _ (by simp [hx.1]), hnd]
  simp [hcenter]

/-! ## The round trip -/

/-- An explicit center prints after the width and a dash. -/
theorem localChannelToStr_vhtCenter (w : VhtWidth) (f c : UInt32) :
    localChannelToStr { LocalChannel.ofControlFreq f with
        chanWidth := w.chanWidth, centerFreq1 := c, unusualCenter1 := 1 } =
      formatUnsigned f ++ (w.label ++ ((some c).map fun m => "-" ++ formatUnsigned m).getD "") := by
  cases w <;> exact String.append_assoc _ _ _

/-- A descriptor the parser builds from the table prints as its frequency and the width. -/
theorem localChannelToStr_vhtTable {w : VhtWidth} {f : UInt32} {ch : LocalChannel}
    (h : vhtSearch ht w f ht.channels { LocalChannel.ofControlFreq f with chanWidth := w.chanWidth }
      = .ok ch) :
    localChannelToStr ch = formatUnsigned ch.controlFreq ++ w.label := by
  rcases vhtSearch_ok h with ⟨rfl, -⟩ | ⟨e, -, -, -, rfl⟩ <;> cases w <;> rfl

theorem vhtLabel_rest (c : Option UInt32) :
    ((c.map fun m => "-" ++ formatUnsigned m).getD "").data = [] ∧ c = none ∨
      ∃ m, ((c.map fun m => "-" ++ formatUnsigned m).getD "").data =
        '-' :: (formatUnsigned m).data ∧ c = some m := by
  cases c
  · exact .inl ⟨rfl, rfl⟩
  · exact .inr ⟨_, rfl, rfl⟩

/-- A printed VHT suffix, with or without its center, is read back by the VHT branch. -/
theorem chantranslate_vhtLabel (w : VhtWidth) (n : UInt32) (c : Option UInt32) :
    chantranslateCallback ht
        (formatUnsigned n ++ (w.label ++ (c.map fun m => "-" ++ formatUnsigned m).getD "")) =
      vhtBranch ht w n c := by
  rw [chantranslate_suffix n _ w.label.data _ c (String.data_append _ _) ?_ ?_ ?_ ?_
    (vhtLabel_rest c)]
  · cases w <;> rfl
  all_goals cases w <;> decide

/-- A VHT suffix with no center is read back by the VHT branch. -/
theorem chantranslate_vhtLabel_none (w : VhtWidth) (n : UInt32) :
    chantranslateCallback ht (formatUnsigned n ++ w.label) = vhtBranch ht w n none := by
  rw [← chantranslate_vhtLabel w n none]
  exact congrArg _ (String.ext (by simp))

/-- The unique frequency of a row: no other row has it as its frequency or its channel. -/
theorem names_freq_eq {e x : WifiChannel} (he : e ∈ ht.channels) (hx : x ∈ ht.channels)
    (hfreq : (ht.channels.map WifiChannel.freq).Nodup)
    (hdisj : ∀ e ∈ ht.channels, ∀ e' ∈ ht.channels, e.freq ≠ e'.chan)
    (h : x.names e.freq = true) : x = e := by
  simp only [WifiChannel.names, Bool.or_eq_true, beq_iff_eq] at h
  rcases h with h | h
  · exact absurd h.symm (hdisj e he x hx)
  · exact List.inj_on_of_nodup_map hfreq hx he h

/-- **Parsing a printed channel gives the channel back.**  For every table whose
frequencies are pairwise distinct and differ from every channel number, and every string
the parser accepts, parsing the printed descriptor returns the same descriptor. -/
theorem chantranslate_localChannelToStr (ht : HtTable)
    (hfreq : (ht.channels.map WifiChannel.freq).Nodup)
    (hdisj : ∀ e ∈ ht.channels, ∀ e' ∈ ht.channels, e.freq ≠ e'.chan)
    (s : String) (d : LocalChannel) (hd : (chantranslateCallback ht s).1 = some d) :
    (chantranslateCallback ht (localChannelToStr d)).1 = some d := by
  cases parsed_of_chantranslate hd with
  | basic f => exact congrArg Prod.fst (chantranslate_formatUnsigned f)
  | ht40minus f => exact congrArg Prod.fst (chantranslate_ht40 f '-')
  | ht40plus f => exact congrArg Prod.fst (chantranslate_ht40 f '+')
  | w5 f =>
    exact congrArg Prod.fst (chantranslate_suffix f "W5" ['W', '5'] [] none rfl (by decide)
      (by decide) (by decide) (by decide) (.inl ⟨rfl, rfl⟩))
  | w10 f =>
    exact congrArg Prod.fst (chantranslate_suffix f "W10" ['W', '1', '0'] [] none rfl (by decide)
      (by decide) (by decide) (by decide) (.inl ⟨rfl, rfl⟩))
  | vhtCenter w f c =>
    rw [localChannelToStr_vhtCenter, chantranslate_vhtLabel]
    rfl
  | vhtTable w f _ h =>
    rw [localChannelToStr_vhtTable h, chantranslate_vhtLabel_none]
    rcases vhtSearch_ok h with ⟨rfl, -⟩ | ⟨e, he, -, hl, rfl⟩
    · simp only [vhtBranch, LocalChannel.ofControlFreq_controlFreq,
        LocalChannel.ofControlFreq_chanType,
        LocalChannel.ofControlFreq_unusualCenter1, LocalChannel.ofControlFreq_centerFreq1,
        LocalChannel.ofControlFreq_centerFreq2] at h ⊢
      rw [h]
    · simp only [vhtBranch]
      rw [vhtSearch_of_unique e (by simp [WifiChannel.names]) ht.channels _
        (fun x hx => names_freq_eq he hx hfreq hdisj), if_pos he, if_neg (by simp [hl])]
      rfl

theorem chantranslate_localChannelToStr_36vht80 :
    (sampleHtTable.channels.map WifiChannel.freq).Nodup ∧
      (∀ e ∈ sampleHtTable.channels, ∀ e' ∈ sampleHtTable.channels, e.freq ≠ e'.chan) ∧
      (chantranslateCallback sampleHtTable "36VHT80").1 = some ⟨5180, 0, 3, 0, 5210, 0⟩ ∧
      (chantranslateCallback sampleHtTable (localChannelToStr ⟨5180, 0, 3, 0, 5210, 0⟩)).1 =
        some ⟨5180, 0, 3, 0, 5210, 0⟩ :=
  ⟨by decide, by decide, by decide,
    chantranslate_localChannelToStr sampleHtTable (by decide) (by decide) "36VHT80" _ (by decide)⟩

end LinuxWifiCapture
