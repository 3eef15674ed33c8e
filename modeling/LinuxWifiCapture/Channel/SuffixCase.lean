import LinuxWifiCapture.Channel.Translate

/-!
# The letter case of a channel's suffix

`chantranslate_callback` reads a channel string with two `sscanf` patterns.  The suffix the
second pattern reads is compared with `strcasecmp`, so `w5` and `W5`, `vht80` and `VHT80` are
one suffix.  The first pattern, `%uHT40%c`, matches its literal `HT40` as `sscanf` matches
every literal of a format: character for character, so in upper case only.  `36ht40+` fails
it, falls through to the second pattern with the word `ht40+`, which no `strcasecmp` knows,
and is parsed as the plain channel 36; `36HT40+` is channel 36 in HT40+.

## Main results

* `chantranslate_upper_suffix_iff`: for every table and every channel string made of a
  decimal number and a suffix, upper-casing the suffix leaves the descriptor as it is
  exactly when the suffix is not `HT40` written with a lower-case letter and followed by a
  sign (`lowerHt40Sign`).
* `chantranslate_lowercase_ht40`: `36ht40+` and `36HT40+` on every table.

## Upper-casing

`toupper` of the C locale moves `a`..`z` and nothing else (`Char.toUpper`).  Every fact the
scanners need about it, that it keeps digits, blanks and the two signs and that `tolower`
forgets it, is one check over the 26 letters it moves (`toUpper_keeps`).
-/

namespace LinuxWifiCapture

/-- A suffix whose letter case decides the parse: `HT40` with some letter in lower case, then
the sign of an HT40 channel. -/
def lowerHt40Sign : List Char → Bool
  | a :: b :: c :: d :: mod :: _ =>
    [a, b, c, d] != ['H', 'T', '4', '0'] && [a, b, c, d].map Char.toUpper == ['H', 'T', '4', '0'] &&
      (mod == '+' || mod == '-')
  | _ => false

/-! ## Upper-casing a character -/

section Upper

/-- `toupper` moves only the 26 lower-case letters. -/
theorem toUpper_eq_self_or (c : Char) : c.toUpper = c ∨ ∃ n < 26, c = Char.ofNat (97 + n) := by
  by_cases h : 97 ≤ c.toNat ∧ c.toNat ≤ 122
  · exact .inr ⟨c.toNat - 97, by omega, by rw [Nat.add_sub_cancel' h.1, Char.ofNat_toNat]⟩
  · exact .inl (if_neg h)

/-- What upper-casing keeps: digits, blanks and signs, and the letter `tolower` gives. -/
theorem toUpper_keeps (c : Char) :
    (c.isDigit = true → c.toUpper = c) ∧ c.toUpper.isDigit = c.isDigit ∧
      cIsspace c.toUpper = cIsspace c ∧ (c.toUpper = '-' ↔ c = '-') ∧
      (c.toUpper = '+' ↔ c = '+') ∧ c.toUpper.toLower = c.toLower := by
  rcases toUpper_eq_self_or c with h | ⟨n, hn, rfl⟩
  · simp [h]
  · revert n
    decide

variable (c : Char)

theorem toUpper_of_isDigit {c : Char} (h : c.isDigit = true) : c.toUpper = c :=
  (toUpper_keeps c).1 h

@[simp] theorem isDigit_toUpper : c.toUpper.isDigit = c.isDigit := (toUpper_keeps c).2.1

@[simp] theorem cIsspace_toUpper : cIsspace c.toUpper = cIsspace c := (toUpper_keeps c).2.2.1

@[simp] theorem toUpper_eq_dash_iff : c.toUpper = '-' ↔ c = '-' := (toUpper_keeps c).2.2.2.1

@[simp] theorem toUpper_eq_plus_iff : c.toUpper = '+' ↔ c = '+' := (toUpper_keeps c).2.2.2.2.1

@[simp] theorem toLower_toUpper : c.toUpper.toLower = c.toLower := (toUpper_keeps c).2.2.2.2.2

end Upper

/-! ## The scanners do not see the case of what they skip or read as digits -/

section Scanners

variable (s : List Char)

theorem scanSign_cons_of_ne {c : Char} (hm : c ≠ '-') (hp : c ≠ '+') :
    scanSign (c :: s) = (false, c :: s) :=
  scanSign.eq_3 _ (fun _ h => hm (List.cons.inj h).1) (fun _ h => hp (List.cons.inj h).1)

theorem scanSign_map_toUpper :
    scanSign (s.map Char.toUpper) = ((scanSign s).1, (scanSign s).2.map Char.toUpper) := by
  cases s with
  | nil => rfl
  | cons c s =>
    by_cases hm : c = '-'
    · subst hm
      rfl
    by_cases hp : c = '+'
    · subst hp
      rfl
    rw [List.map_cons, scanSign_cons_of_ne _ hm hp,
      scanSign_cons_of_ne _ (by simpa using hm) (by simpa using hp)]
    rfl

theorem map_toUpper_takeWhile_isDigit :
    (s.takeWhile Char.isDigit).map Char.toUpper = s.takeWhile Char.isDigit :=
  (List.map_congr_left fun _ h => toUpper_of_isDigit (List.mem_takeWhile_imp h)).trans
    (List.map_id _)

theorem scanUnsigned_map_toUpper :
    scanUnsigned (s.map Char.toUpper) =
      (scanUnsigned s).map fun p => (p.1, p.2.map Char.toUpper) := by
  simp only [scanUnsigned, List.dropWhile_map, Function.comp_def, cIsspace_toUpper,
    scanSign_map_toUpper, List.takeWhile_map, isDigit_toUpper, map_toUpper_takeWhile_isDigit]
  split <;> rfl

theorem scanNotDash_map_toUpper :
    scanNotDash (s.map Char.toUpper) =
      (scanNotDash s).map fun q => (q.1.map Char.toUpper, q.2.map Char.toUpper) := by
  have hdash : (fun c : Char => c.toUpper != '-') = (· != '-') := by
    funext c
    simp [bne]
  have hset : ((s.map Char.toUpper).takeWhile (· != '-')).take 15 =
      ((s.takeWhile (· != '-')).take 15).map Char.toUpper := by
    rw [List.takeWhile_map, Function.comp_def, hdash, List.map_take]
  simp only [scanNotDash, hset, List.map_eq_nil_iff, List.length_map, ← List.map_drop]
  split <;> rfl

theorem scanCenterTail_map_toUpper : scanCenterTail (s.map Char.toUpper) = scanCenterTail s := by
  cases s with
  | nil => rfl
  | cons c s =>
    by_cases hc : c = '-'
    · subst hc
      simp [scanCenterTail, scanUnsigned_map_toUpper, Option.map_map, Function.comp_def]
    · have hc' : c.toUpper ≠ '-' := by simpa using hc
      rw [List.map_cons, scanCenterTail.eq_2 _ fun _ h => hc' (List.cons.inj h).1,
        scanCenterTail.eq_2 _ fun _ h => hc (List.cons.inj h).1]

/-- `%15[^-]` takes at least the first character of a word that does not start with a dash. -/
theorem scanNotDash_cons {a : Char} (ha : a ≠ '-') (t : List Char) :
    ∃ p r, scanNotDash (a :: t) = some (a :: p, r) := by
  simp [scanNotDash, ha]

/-- What `HT40%c` reads from a suffix of five characters or more. -/
theorem scanHt40Tail_cons (a b c d mod : Char) (rest : List Char) :
    scanHt40Tail (a :: b :: c :: d :: mod :: rest) =
      if [a, b, c, d] = ['H', 'T', '4', '0'] then some mod else none := by
  split_ifs with h
  · simp only [List.cons.injEq, and_true] at h
    obtain ⟨rfl, rfl, rfl, rfl⟩ := h
    exact scanHt40Tail.eq_1 mod rest
  · refine scanHt40Tail.eq_2 _ fun _ _ heq => h ?_
    simp only [List.cons.injEq] at heq
    obtain ⟨rfl, rfl, rfl, rfl, -⟩ := heq
    rfl

theorem scanHt40Tail_of_length_lt {s : List Char} (h : s.length < 5) : scanHt40Tail s = none := by
  unfold scanHt40Tail
  split
  · simp only [List.length_cons] at h
    omega
  · rfl

theorem strcasecmpEq_map_toUpper (t : String) :
    strcasecmpEq ⟨s.map Char.toUpper⟩ t = strcasecmpEq ⟨s⟩ t := by
  simp [strcasecmpEq, Function.comp_def]

end Scanners

/-! ## The descriptor of each branch -/

section Branches

variable (ht : HtTable) (chanstr chanstr' : String) (parsechan : UInt32)

theorem ht40Branch_fst_toUpper (mod : Char) :
    (ht40Branch ht chanstr parsechan mod.toUpper).1 = (ht40Branch ht chanstr' parsechan mod).1 := by
  simp only [ht40Branch, toUpper_eq_dash_iff, toUpper_eq_plus_iff, apply_ite Prod.fst]

/-- An HT40 branch keeps the plain channel exactly when `mod` is no sign. -/
theorem ht40Branch_fst_eq_iff (mod : Char) :
    (ht40Branch ht chanstr parsechan mod).1 = some (.ofControlFreq parsechan) ↔
      (mod == '+' || mod == '-') = false := by
  simp only [ht40Branch]
  split_ifs <;> simp_all [LocalChannel.ofControlFreq, nl80211ChanHt40minus, nl80211ChanHt40plus]

theorem suffixBranch_fst_map_toUpper (parsetype : List Char) (parseCenter1 : Option UInt32) :
    (suffixBranch ht chanstr parsechan ⟨parsetype.map Char.toUpper⟩ parseCenter1).1 =
      (suffixBranch ht chanstr' parsechan ⟨parsetype⟩ parseCenter1).1 := by
  simp only [suffixBranch, strcasecmpEq_map_toUpper, apply_ite Prod.fst]

/-- A word that starts with `h` or `H` is none of the four suffixes. -/
theorem suffixBranch_fst_of_toUpper_eq {a : Char} (ha : a.toUpper = 'H') (p : List Char)
    (parseCenter1 : Option UInt32) :
    (suffixBranch ht chanstr parsechan ⟨a :: p⟩ parseCenter1).1 =
      some (.ofControlFreq parsechan) := by
  have hlow : a.toLower = 'h' := by rw [← toLower_toUpper, ha]; rfl
  have hne : ∀ t : String, some 'h' ≠ t.data.head?.map Char.toLower →
      strcasecmpEq ⟨a :: p⟩ t = false := by
    intro t ht
    cases t with | mk t => cases t <;> simp_all [strcasecmpEq]
  simp only [suffixBranch, hne "w5" (by decide), hne "w10" (by decide), hne "vht80" (by decide),
    hne "vht160" (by decide)]
  rfl

end Branches

/-! ## The law -/

/-- How upper-casing a suffix changes what `HT40%c` reads from it: it still reads nothing, or
it reads the sign upper-cased, or the suffix spells `HT40` with a lower-case letter, which
`HT40%c` reads only once upper-cased. -/
theorem scanHt40Tail_map_toUpper (sfx : List Char) :
    (scanHt40Tail sfx = none ∧ scanHt40Tail (sfx.map Char.toUpper) = none ∧
        lowerHt40Sign sfx = false) ∨
      (∃ mod, scanHt40Tail sfx = some mod ∧
        scanHt40Tail (sfx.map Char.toUpper) = some mod.toUpper ∧ lowerHt40Sign sfx = false) ∨
      (∃ mod a t, sfx = a :: t ∧ a.toUpper = 'H' ∧ scanHt40Tail sfx = none ∧
        scanHt40Tail (sfx.map Char.toUpper) = some mod.toUpper ∧
        lowerHt40Sign sfx = (mod == '+' || mod == '-')) := by
  match sfx with
  | a :: b :: c :: d :: mod :: rest =>
    simp only [List.map_cons, List.map_nil, scanHt40Tail_cons, lowerHt40Sign]
    by_cases he : [a, b, c, d] = ['H', 'T', '4', '0']
    · have hu : [a.toUpper, b.toUpper, c.toUpper, d.toUpper] = ['H', 'T', '4', '0'] := by
        simp only [List.cons.injEq, and_true] at he
        obtain ⟨rfl, rfl, rfl, rfl⟩ := he
        rfl
      exact .inr (.inl ⟨mod, if_pos he, if_pos hu,
        by rw [he, bne_self_eq_false, Bool.false_and, Bool.false_and]⟩)
    · by_cases hu : [a.toUpper, b.toUpper, c.toUpper, d.toUpper] = ['H', 'T', '4', '0']
      · exact .inr (.inr ⟨mod, a, _, rfl, (List.cons.inj hu).1, if_neg he, if_pos hu,
          by rw [bne_iff_ne.mpr he, beq_iff_eq.mpr hu, Bool.true_and, Bool.true_and]⟩)
      · exact .inl ⟨if_neg he, if_neg hu, by rw [beq_false_of_ne hu, Bool.and_false, Bool.false_and]⟩
  | [] | [_] | [_, _] | [_, _, _] | [_, _, _, _] =>
    exact .inl ⟨scanHt40Tail_of_length_lt (by simp), scanHt40Tail_of_length_lt (by simp), rfl⟩

/-- **Where the case of a suffix matters.**  For every table, every numeral `ds` and every
suffix `sfx` that does not continue it: `chantranslate_callback` gives the same descriptor,
or `NULL` both times, for `ds ++ sfx` and for `ds` followed by `sfx` upper-cased, exactly
when `sfx` is not `HT40` written with a lower-case letter and followed by `+` or `-`. -/
theorem chantranslate_upper_suffix_iff (ht : HtTable) (ds sfx : List Char) (hne : ds ≠ [])
    (hds : ∀ c ∈ ds, c.isDigit = true) (hsfx : ∀ c ∈ sfx.head?, c.isDigit = false) :
    (chantranslateCallback ht ⟨ds ++ sfx⟩).1 =
        (chantranslateCallback ht ⟨ds ++ sfx.map Char.toUpper⟩).1 ↔
      lowerHt40Sign sfx = false := by
  have hsfx' : ∀ c ∈ (sfx.map Char.toUpper).head?, c.isDigit = false := by
    cases sfx <;> simp_all
  simp only [chantranslateCallback, scanHt40, scanChan, Option.map_some',
    scanUnsigned_digits_append ds _ hne hds hsfx, scanUnsigned_digits_append ds _ hne hds hsfx']
  rcases scanHt40Tail_map_toUpper sfx with
    ⟨hl, hu, hs⟩ | ⟨mod, hl, hu, hs⟩ | ⟨mod, a, t, rfl, ha, hl, hu, hs⟩
  · simp only [hl, hu, hs, iff_true, scanNotDash_map_toUpper]
    cases scanNotDash sfx with
    | none => rfl
    | some q =>
      simp only [Option.map_some', scanCenterTail_map_toUpper]
      exact (suffixBranch_fst_map_toUpper ..).symm
  · simp only [hl, hu, hs, iff_true]
    exact (ht40Branch_fst_toUpper ..).symm
  · have ha' : a ≠ '-' := fun h => by simp [h] at ha
    obtain ⟨p, r, hnd⟩ := scanNotDash_cons ha' t
    simp only [hl, hu, hs, hnd, Option.map_some']
    rw [suffixBranch_fst_of_toUpper_eq _ _ _ ha, ht40Branch_fst_toUpper _ _ ⟨ds ++ a :: t⟩, eq_comm,
      ht40Branch_fst_eq_iff]


/-- `36` and `vht80`: the suffix is read the same in either case. -/
theorem chantranslate_upper_suffix_iff_vht80 :
    (chantranslateCallback sampleHtTable ⟨"36".data ++ "vht80".data⟩).1 =
      (chantranslateCallback sampleHtTable ⟨"36".data ++ "vht80".data.map Char.toUpper⟩).1 :=
  (chantranslate_upper_suffix_iff sampleHtTable _ _ (by decide) (by decide) (by decide)).mpr
    (by decide)

/-- `36ht40+` and `36HT40+`, on every table: the first is the plain channel 36, the second is
channel 36 in HT40+. -/
theorem chantranslate_lowercase_ht40 (ht : HtTable) :
    (chantranslateCallback ht "36ht40+").1 = some (.ofControlFreq 36) ∧
      (chantranslateCallback ht "36HT40+").1 =
        some { LocalChannel.ofControlFreq 36 with chanType := nl80211ChanHt40plus } ∧
      (chantranslateCallback ht "36ht40+").1 ≠ (chantranslateCallback ht "36HT40+").1 := by
  have hlow : (chantranslateCallback ht "36ht40+").1 = some (.ofControlFreq 36) := rfl
  have hup : (chantranslateCallback ht "36HT40+").1 =
      some { LocalChannel.ofControlFreq 36 with chanType := nl80211ChanHt40plus } := rfl
  refine ⟨hlow, hup, ?_⟩
  rw [hlow, hup]
  decide

end LinuxWifiCapture
