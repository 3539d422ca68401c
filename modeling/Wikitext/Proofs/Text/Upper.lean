import Wikitext.Proofs.Mask.Case
import Wikitext.Proofs.Text.Kinds

/-!
# First letters in upper case

A first letter in upper case is its own upper case, although other letters may follow it there
(`upperFirst_upperFirst`). Signs and white space have no case, and no letter turns into one of them
(`eq_of_mem_toUpper`, `eq_of_mem_variants`).
-/

namespace Wikitext.Chars

open Mask (misses mapRuns_eq_self mapRuns_ne target?_ne ascii_induction)

-- -----------------------------------------------------------------------------------------
-- Runs that do not meet
-- -----------------------------------------------------------------------------------------

namespace CaseRun

/-- The first character to which the run leads. -/
def low (run : CaseRun) : Nat := (run.first + run.shift).toNat

/-- The last one. -/
def high (run : CaseRun) : Nat := (run.last + run.shift).toNat

/-- All characters to which the run leads are even, or all of them are odd. -/
def sameParity (run : CaseRun) : Bool := Nat.beq run.step 2 || Nat.beq run.first run.last

/-- The run maps none of the characters from `low` to `high`, or none with the parity of `low`. -/
def skips (low high : Nat) (sameParity : Bool) (run : CaseRun) : Bool :=
  Nat.blt high run.first || Nat.blt run.last low ||
    (sameParity && Nat.beq run.step 2 && Nat.beq ((low + run.first) % 2) 1)

theorem bounds_of_target? {run : CaseRun} (h : run.target? n = some k) (hk : 0 < run.low) :
    run.low ≤ k ∧ k ≤ run.high ∧ (run.sameParity = true → k % 2 = run.low % 2) := by
  unfold target? at h
  split at h
  · rename_i hn
    simp only [Bool.and_eq_true, decide_eq_true_eq, beq_iff_eq] at hn
    simp only [Option.some.injEq] at h
    simp only [low, high, sameParity, Bool.or_eq_true, Nat.beq_eq] at hk ⊢
    refine ⟨by omega, by omega, ?_⟩
    rintro (hs | hs)
    · rw [hs] at hn
      omega
    · have : n = run.first := by omega
      omega
  · cases h

theorem target?_of_skips {run : CaseRun} {a b k : Nat} (h : run.skips a b same = true) (hlow : a ≤ k)
    (hhigh : k ≤ b) (hsame : same = true → k % 2 = a % 2) : run.target? k = none := by
  unfold target?
  simp only [skips, Bool.or_eq_true, Bool.and_eq_true, Nat.blt_eq, Nat.beq_eq] at h
  refine if_neg fun hk => ?_
  simp only [Bool.and_eq_true, decide_eq_true_eq, beq_iff_eq] at hk
  rcases h with (h | h) | ⟨⟨hs, h⟩, hodd⟩
  · omega
  · omega
  · have hp := hsame hs
    rw [h] at hk
    omega

end CaseRun

/-- The characters from `low` to `high`, perhaps of one parity, are capitals of ASCII or above it, are
mapped by no run and are no letters whose upper case has several. -/
def settled (low high : Nat) (sameParity : Bool) : Bool :=
  (Nat.ble 0x80 low || (Nat.ble 0x41 low && Nat.ble high 0x5A)) &&
    longUpper.toList.all (fun entry => Nat.blt entry.1 low || Nat.blt high entry.1) &&
    upperRuns.toList.all (CaseRun.skips low high sameParity)

theorem toUpper_of_not_mapped {c : Char} (hc : 0x80 ≤ c.toNat)
    (hlong : ∀ entry ∈ longUpper.toList, entry.1 ≠ c.toNat)
    (hruns : ∀ run ∈ upperRuns.toList, run.target? c.toNat = none) : toUpper c = [c] := by
  have hfind : longUpper.find? (·.1 == c.toNat) = none := by
    rw [Array.find?_eq_none]
    intro entry he
    simpa using hlong entry (Array.mem_toList_iff.mpr he)
  have hmap : mapRuns upperRuns c.toNat = c.toNat := mapRuns_eq_self <| List.all_eq_true.mpr
    fun run hr => Option.isNone_iff_eq_none.mpr (hruns run hr)
  simp only [toUpper, if_neg (Nat.not_lt.mpr hc), hfind, hmap, Char.ofNat_toNat]

/-- What is no character counts as the first one. -/
theorem ofNat_cases (k : Nat) : (Char.ofNat k).toNat = k ∨ Char.ofNat k = Char.ofNat 0 := by
  by_cases hk : k.isValidChar
  · exact .inl (by rw [Char.ofNat, dif_pos hk]; rfl)
  · exact .inr (by rw [Char.ofNat, dif_neg hk]; rfl)

theorem toUpper_of_settled {low high : Nat} (h : settled low high same = true) (hlow : low ≤ k)
    (hhigh : k ≤ high) (hsame : same = true → k % 2 = low % 2) :
    toUpper (Char.ofNat k) = [Char.ofNat k] := by
  have hzero : toUpper (Char.ofNat 0) = [Char.ofNat 0] := by decide
  have hcapital : ∀ k < 0x5B, 0x41 ≤ k → toUpper (Char.ofNat k) = [Char.ofNat k] := by decide
  simp only [settled, Bool.and_eq_true, Bool.or_eq_true, Nat.ble_eq, Nat.blt_eq,
    List.all_eq_true] at h
  obtain ⟨⟨hrange, hlong⟩, hskips⟩ := h
  rcases ofNat_cases k with hk | hk
  · rcases hrange with hrange | hrange
    · refine toUpper_of_not_mapped (by omega) (fun entry he => ?_) fun run hr => ?_
      · have := hlong entry he
        omega
      · rw [hk]
        exact CaseRun.target?_of_skips (hskips run hr) hlow hhigh hsame
    · exact hcapital k (by omega) (by omega)
  · rw [hk]
    exact hzero

-- -----------------------------------------------------------------------------------------
-- The upper case of an upper case
-- -----------------------------------------------------------------------------------------

theorem settled_runs : upperRuns.toList.all
    (fun run => settled run.low run.high run.sameParity) = true := by decide +kernel

theorem settled_longs : longUpper.toList.all
    (fun entry => entry.2.head?.any fun n => settled n n true) = true := by decide +kernel

theorem low_pos {run : CaseRun} (h : settled run.low run.high same = true) : 0 < run.low := by
  simp only [settled, Bool.and_eq_true, Bool.or_eq_true, Nat.ble_eq] at h
  omega

/-- The first letter of an upper case is in upper case, whatever follows it. -/
theorem toUpper_toUpper (c : Char) : ∃ d ds, toUpper c = d :: ds ∧ toUpper d = [d] := by
  unfold toUpper
  split
  · rename_i hc
    have hascii : ∀ n < 128, toUpper (Char.ofNat n).toUpper = [(Char.ofNat n).toUpper] := by decide
    exact ⟨_, [], rfl, ascii_induction (P := fun c => toUpper c.toUpper = [c.toUpper]) hascii hc⟩
  · rename_i hc
    split
    · rename_i n letters hf
      have hm : (n, letters) ∈ longUpper.toList := by simpa using Array.mem_of_find?_eq_some hf
      have hhead := List.all_eq_true.mp settled_longs _ hm
      cases letters with
      | nil => cases hhead
      | cons n letters =>
        exact ⟨_, _, rfl, toUpper_of_settled hhead (Nat.le_refl n) (Nat.le_refl n) fun _ => rfl⟩
    · rename_i hf
      refine ⟨_, [], rfl, ?_⟩
      unfold mapRuns
      cases ht : upperRuns.findSome? (·.target? c.toNat) with
      | none =>
        have h : toUpper c = [c] := by
          simp only [toUpper, if_neg hc, hf, mapRuns, ht, Option.getD_none, Char.ofNat_toNat]
        rwa [Option.getD_none, Char.ofNat_toNat]
      | some k =>
        obtain ⟨run, hr, ht⟩ := Array.exists_of_findSome?_eq_some ht
        have h := List.all_eq_true.mp settled_runs run (Array.mem_toList_iff.mpr hr)
        obtain ⟨hlow, hhigh, hsame⟩ := CaseRun.bounds_of_target? ht (low_pos h)
        exact toUpper_of_settled h hlow hhigh hsame

-- -----------------------------------------------------------------------------------------
-- Characters without case
-- -----------------------------------------------------------------------------------------

/-- A sign or a control character of ASCII. -/
def Caseless (c : Char) : Prop := 0 < c.toNat ∧ c.toNat < 0x80 ∧ isAsciiLetter c = false

instance (c : Char) : Decidable (Caseless c) := inferInstanceAs (Decidable (_ ∧ _ ∧ _))

theorem Caseless.variants (h : Caseless c) : variants c = [c] := by
  rw [Chars.variants, if_pos h.2.1, if_neg (by simp [h.2.2])]

/-- A run of letters folds them to small letters of ASCII or to characters above it. -/
def foldsToLetters (run : CaseRun) : Bool :=
  Nat.ble 0x80 run.first && (Nat.ble 0x80 run.low || (Nat.ble 0x61 run.low && Nat.ble run.high 0x7A))

theorem foldsToLetters_foldRuns : foldRuns.toList.all foldsToLetters = true := by decide +kernel

theorem not_caseless_ofNat (h : 0x80 ≤ k) : ¬ Caseless (Char.ofNat k) := by
  rintro ⟨hpos, hlt, -⟩
  rcases ofNat_cases k with hk | hk
  · omega
  · rw [hk] at hpos
    cases hpos

theorem not_caseless_fold (hc : 0x80 ≤ c.toNat) : ¬ Caseless (fold c) := by
  have hletters : ∀ k < 0x7B, 0x61 ≤ k → ¬ Caseless (Char.ofNat k) := by decide
  rw [fold, if_neg (Nat.not_lt.mpr hc), mapRuns]
  cases ht : foldRuns.findSome? (·.target? c.toNat) with
  | none => exact not_caseless_ofNat hc
  | some k =>
    obtain ⟨run, hr, ht⟩ := Array.exists_of_findSome?_eq_some ht
    have h := List.all_eq_true.mp foldsToLetters_foldRuns run (Array.mem_toList_iff.mpr hr)
    simp only [foldsToLetters, Bool.and_eq_true, Bool.or_eq_true, Nat.ble_eq] at h
    obtain ⟨hlow, hhigh, -⟩ := CaseRun.bounds_of_target? ht (by omega)
    rcases h.2 with h | h
    · exact not_caseless_ofNat (h.trans hlow)
    · exact hletters k (by omega) (by omega)

theorem target?_of_source? {run : CaseRun} (h : run.source? n = some k) : run.target? k = some n := by
  unfold CaseRun.source? at h
  dsimp only at h
  split at h
  · rename_i ht
    cases h
    exact eq_of_beq ht
  · cases h

/-- A character that is folded is one of its run. -/
theorem bounds_of_source? {run : CaseRun} (h : run.source? n = some k) :
    run.first ≤ k ∧ k ≤ run.last := by
  have ht := target?_of_source? h
  rw [CaseRun.target?] at ht
  split at ht
  · rename_i hrange
    simp only [Bool.and_eq_true, decide_eq_true_eq] at hrange
    exact hrange.1
  · cases ht

theorem not_caseless_source {run : CaseRun} (hr : run ∈ foldRuns.toList)
    (h : run.source? n = some k) : ¬ Caseless (Char.ofNat k) := by
  have hfirst := List.all_eq_true.mp foldsToLetters_foldRuns run hr
  simp only [foldsToLetters, Bool.and_eq_true, Nat.ble_eq] at hfirst
  exact not_caseless_ofNat (hfirst.1.trans (bounds_of_source? h).1)

/-- Outside of ASCII, a character that differs from another one in case only is what that is folded to,
or folded to the same. -/
theorem mem_variants_cases (hc : 0x80 ≤ c.toNat) (h : y ∈ variants c) :
    y = fold c ∨ ('a' ≤ fold c ∧ fold c ≤ 'z' ∧ y = (fold c).toUpper) ∨
      ∃ k, ∃ run ∈ foldRuns.toList, run.source? (fold c).toNat = some k ∧ y = Char.ofNat k := by
  rw [variants, if_neg (Nat.not_lt.mpr hc), caseVariants, List.mem_cons, List.mem_append] at h
  rcases h with h | h | h
  · exact .inl h
  · split at h
    · rename_i hf
      rw [Bool.and_eq_true, decide_eq_true_eq, decide_eq_true_eq] at hf
      exact .inr (.inl ⟨hf.1, hf.2, List.mem_singleton.mp h⟩)
    · cases h
  · obtain ⟨k, hk, rfl⟩ := List.mem_map.mp h
    obtain ⟨run, hr, hs⟩ := List.mem_filterMap.mp hk
    exact .inr (.inr ⟨k, run, hr, hs, rfl⟩)

/-- No other character differs from it in case only. -/
theorem eq_of_mem_variants (hy : Caseless y) (h : y ∈ variants c) : y = c := by
  by_cases hc : c.toNat < 0x80
  · have hascii : ∀ n < 128, ∀ y ∈ variants (Char.ofNat n), Caseless y → y = Char.ofNat n := by decide
    exact ascii_induction (P := fun c => ∀ y ∈ variants c, Caseless y → y = c) hascii hc y h hy
  · have hcapital : ∀ n < 128, 'a' ≤ Char.ofNat n → Char.ofNat n ≤ 'z' →
        ¬ Caseless (Char.ofNat n).toUpper := by decide
    exfalso
    rcases mem_variants_cases (Nat.not_lt.mp hc) h with rfl | ⟨ha, hz, rfl⟩ | ⟨k, run, hr, hs, rfl⟩
    · exact not_caseless_fold (Nat.not_lt.mp hc) hy
    · have hlast : (fold c).toNat ≤ 122 := UInt32.le_iff_toNat_le.mp hz
      exact ascii_induction (P := fun c => 'a' ≤ c → c ≤ 'z' → ¬ Caseless c.toUpper) hcapital
        (by omega) ha hz hy
    · exact not_caseless_source hr hs hy

/-- No run of letters folds anything to the character, and none folds the character. -/
def unfolded (n : Nat) : Bool :=
  foldRuns.toList.all fun run => misses n run && (Nat.blt n run.first || Nat.blt run.last n)

theorem unfolded_blank (hc : 0x80 ≤ c.toNat) (h : isBlank c = true) : unfolded c.toNat = true := by
  have hall := of_isBlank (P := fun n => Nat.blt n 0x80 || unfolded n) (by decide +kernel) h
  rw [Bool.or_eq_true, Nat.blt_eq] at hall
  exact hall.resolve_left (Nat.not_lt.mpr hc)

theorem eq_toNat_of_eq_ofNat (hy : 0 < y.toNat) (h : y = Char.ofNat k) : k = y.toNat := by
  subst h
  rcases ofNat_cases k with hk | hk
  · exact hk.symm
  · rw [hk] at hy
    cases hy

/-- Runs that miss a character lead to it from nowhere else. -/
theorem eq_of_eq_mapRuns {runs : Array CaseRun} (hy : 0 < y.toNat)
    (hruns : ∀ run ∈ runs.toList, misses y.toNat run = true)
    (h : y = Char.ofNat (mapRuns runs c.toNat)) : y = c := by
  by_contra hne
  exact mapRuns_ne hruns (Int.ofNat_lt.mpr hy)
    (fun he => hne (Char.toNat_inj.mp (Int.ofNat.inj he)).symm)
    (congrArg Int.ofNat (eq_toNat_of_eq_ofNat hy h))

theorem eq_of_eq_fold (hc : 0x80 ≤ c.toNat) (hy : 0 < y.toNat) (hunfolded : unfolded y.toNat = true)
    (h : y = fold c) : y = c := by
  have hruns : ∀ run ∈ foldRuns.toList, misses y.toNat run = true := fun run hr =>
    (Bool.and_eq_true _ _ |>.mp (List.all_eq_true.mp hunfolded run hr)).1
  rw [fold, if_neg (Nat.not_lt.mpr hc)] at h
  exact eq_of_eq_mapRuns hy hruns h

theorem eq_of_mem_variants_unfolded (hy : 0x80 ≤ y.toNat) (hunfolded : unfolded y.toNat = true)
    (h : y ∈ variants c) : y = c := by
  by_cases hc : c.toNat < 0x80
  · have hascii : ∀ n < 128, ∀ y ∈ variants (Char.ofNat n), 0x80 ≤ y.toNat → unfolded y.toNat = false := by
      decide +kernel
    have hfolded := ascii_induction
      (P := fun c => ∀ y ∈ variants c, 0x80 ≤ y.toNat → unfolded y.toNat = false) hascii hc y h hy
    rw [hfolded] at hunfolded
    cases hunfolded
  have hpos : 0 < y.toNat := by omega
  rcases mem_variants_cases (Nat.not_lt.mp hc) h with h | ⟨-, hz, rfl⟩ | ⟨k, run, hr, hs, rfl⟩
  · exact eq_of_eq_fold (Nat.not_lt.mp hc) hpos hunfolded h
  · have hletters : ∀ n < 128, (Char.ofNat n).toUpper.toNat < 0x80 := by decide
    have hlast : (fold c).toNat ≤ 122 := UInt32.le_iff_toNat_le.mp hz
    have hlow := ascii_induction (c := fold c) (P := fun c => c.toUpper.toNat < 0x80) hletters
      (by omega)
    omega
  · have hle := bounds_of_source? hs
    have hout := List.all_eq_true.mp hunfolded run hr
    rw [← eq_toNat_of_eq_ofNat hpos rfl] at hout
    simp only [Bool.and_eq_true, Bool.or_eq_true, Nat.blt_eq] at hout
    omega

/-- White space differs from nothing else in case only. -/
theorem eq_of_mem_variants_blank (hy : isBlank y = true) (h : y ∈ variants c) : y = c := by
  by_cases hlow : y.toNat < 0x80
  · have hascii : ∀ n < 128, isBlank (Char.ofNat n) = true → Caseless (Char.ofNat n) := by decide
    exact eq_of_mem_variants (ascii_induction (P := fun y => isBlank y = true → Caseless y) hascii hlow hy) h
  · have hhigh := Nat.not_lt.mp hlow
    exact eq_of_mem_variants_unfolded hhigh (unfolded_blank hhigh hy) h

/-- Neither do they with any character from `low` to `high`. -/
def unfoldedFrom (low high : Nat) : Bool :=
  foldRuns.toList.all fun run => (Nat.blt high run.low || Nat.blt run.high low) &&
    (Nat.blt high run.first || Nat.blt run.last low)

theorem unfolded_of_range (h : unfoldedFrom low high = true) (hlow : low ≤ n) (hhigh : n ≤ high) :
    unfolded n = true := by
  refine List.all_eq_true.mpr fun run hr => ?_
  have hrun := List.all_eq_true.mp h run hr
  simp only [CaseRun.low, CaseRun.high, Bool.and_eq_true, Bool.or_eq_true, Nat.blt_eq, misses,
    Bool.not_eq_true', Bool.and_eq_false_iff, decide_eq_false_iff_not] at hrun ⊢
  omega

theorem unfolded_digit (hc : 0x80 ≤ c.toNat) (h : isDigit c = true) : unfolded c.toNat = true := by
  have hall : (Ranges.pairs digitRanges.bounds.toList).all (fun p => unfoldedFrom p.1 (p.2 - 1)) =
      true := by decide +kernel
  rw [isDigit, if_neg (Nat.not_lt.mpr hc), Ranges.contains_iff (by decide +kernel)] at h
  obtain ⟨p, hp, hle, hlt⟩ := h
  exact unfolded_of_range (List.all_eq_true.mp hall p hp) hle (by omega)

/-- Digits differ from nothing else in case only. -/
theorem eq_of_mem_variants_digit (hy : isDigit y = true) (h : y ∈ variants c) : y = c := by
  by_cases hlow : y.toNat < 0x80
  · have hascii : ∀ n < 128, isDigit (Char.ofNat n) = true → Caseless (Char.ofNat n) := by decide
    exact eq_of_mem_variants (ascii_induction (P := fun y => isDigit y = true → Caseless y) hascii hlow hy) h
  · have hhigh := Nat.not_lt.mp hlow
    exact eq_of_mem_variants_unfolded hhigh (unfolded_digit hhigh hy) h

theorem variants_blank (hc : isBlank c = true) : variants c = [c] := by
  by_cases hlow : c.toNat < 0x80
  · have hascii : ∀ n < 128, isBlank (Char.ofNat n) = true → Caseless (Char.ofNat n) := by decide
    exact (ascii_induction (P := fun c => isBlank c = true → Caseless c) hascii hlow hc).variants
  have hrun := List.all_eq_true.mp (unfolded_blank (Nat.not_lt.mp hlow) hc)
  simp only [Bool.and_eq_true, Bool.or_eq_true, Nat.blt_eq] at hrun
  have hfold : fold c = c := by
    have hself : mapRuns foldRuns c.toNat = c.toNat := mapRuns_eq_self <| List.all_eq_true.mpr
      fun run hr => by
        have hout := (hrun run hr).2
        rw [CaseRun.target?, if_neg (by simp; omega), Option.isNone_none]
    rw [fold, if_neg hlow, hself, Char.ofNat_toNat]
  have hletter : ¬ ('a' ≤ c && c ≤ 'z') = true := by
    intro h
    simp only [Bool.and_eq_true, decide_eq_true_eq] at h
    have hz : c.toNat ≤ 122 := UInt32.le_iff_toNat_le.mp h.2
    omega
  have hsources : foldRuns.toList.filterMap (fun run => run.source? c.toNat) = [] := by
    refine List.filterMap_eq_nil_iff.mpr fun run hr => Option.eq_none_iff_forall_ne_some.mpr fun k hs => ?_
    exact target?_ne (hrun run hr).1 (by omega) (target?_of_source? hs) rfl
  rw [variants, if_neg hlow, caseVariants, hfold]
  simp only [if_neg hletter, hsources, List.map_nil, List.append_nil]

/-- Nothing has the character in its upper case, itself apart. -/
def unreached (n : Nat) : Bool :=
  Nat.blt 0 n && !isAsciiLetter (Char.ofNat n) && upperRuns.toList.all (misses n) &&
    longUpper.toList.all fun entry => entry.2.all fun k => k != n

theorem eq_of_mem_toUpper (hd : unreached d.toNat = true) (h : d ∈ toUpper c) : d = c := by
  simp only [unreached, Bool.and_eq_true, Nat.blt_eq, Bool.not_eq_true', Char.ofNat_toNat,
    List.all_eq_true, bne_iff_ne] at hd
  obtain ⟨⟨⟨hpos, hletter⟩, hruns⟩, hlong⟩ := hd
  unfold toUpper at h
  split at h
  · rename_i hc
    have hascii : ∀ n < 128, isAsciiLetter (Char.ofNat n).toUpper = false →
        (Char.ofNat n).toUpper = Char.ofNat n := by decide
    obtain rfl := List.mem_singleton.mp h
    exact ascii_induction (P := fun c => isAsciiLetter c.toUpper = false → c.toUpper = c) hascii hc
      hletter
  · split at h
    · rename_i n letters hf
      have hm : (n, letters) ∈ longUpper.toList := by simpa using Array.mem_of_find?_eq_some hf
      obtain ⟨k, hk, rfl⟩ := List.mem_map.mp h
      exact absurd (eq_toNat_of_eq_ofNat hpos rfl) (hlong _ hm k hk)
    · exact eq_of_eq_mapRuns hpos hruns (List.mem_singleton.mp h)

/-- Nothing has the character in its lower case, itself apart. -/
def unlowered (n : Nat) : Bool :=
  Nat.blt 0 n && !isAsciiLetter (Char.ofNat n) && n != 0x307 && lowerRuns.toList.all (misses n)

theorem eq_of_mem_toLower (hd : unlowered d.toNat = true) (h : d ∈ toLower c) : d = c := by
  simp only [unlowered, Bool.and_eq_true, Nat.blt_eq, Bool.not_eq_true', Char.ofNat_toNat,
    List.all_eq_true, bne_iff_ne] at hd
  obtain ⟨⟨⟨hpos, hletter⟩, hdot⟩, hruns⟩ := hd
  unfold toLower at h
  split at h
  · rename_i hc
    have hascii : ∀ n < 128, isAsciiLetter (Char.ofNat n).toLower = false →
        (Char.ofNat n).toLower = Char.ofNat n := by decide
    obtain rfl := List.mem_singleton.mp h
    exact ascii_induction (P := fun c => isAsciiLetter c.toLower = false → c.toLower = c) hascii hc
      hletter
  · split at h
    · rcases List.mem_cons.mp h with rfl | h
      · exact absurd hletter (by decide)
      · obtain rfl := List.mem_singleton.mp h
        exact absurd rfl hdot
    · exact eq_of_eq_mapRuns hpos hruns (List.mem_singleton.mp h)

/-- Letter case leads neither to white space nor away from it. -/
theorem unmoved_blank (h : isBlank c = true) : unreached c.toNat = true ∧ unlowered c.toNat = true := by
  have hall := of_isBlank (P := fun n => unreached n && unlowered n) (by decide +kernel) h
  exact Bool.and_eq_true _ _ |>.mp hall

theorem unreached_blank (h : isBlank c = true) : unreached c.toNat = true := (unmoved_blank h).1

/-- The number of a letter of ASCII, or of a character above it. -/
def isCased (n : Nat) : Bool :=
  Nat.ble 0x80 n || (Nat.ble 0x41 n && Nat.ble n 0x5A) || (Nat.ble 0x61 n && Nat.ble n 0x7A)

/-- A run leads to letters of ASCII of one case, or to characters above it. -/
def leadsToCased (run : CaseRun) : Bool :=
  Nat.ble 0x80 run.low || (Nat.ble 0x41 run.low && Nat.ble run.high 0x5A) ||
    (Nat.ble 0x61 run.low && Nat.ble run.high 0x7A)

theorem Caseless.not_isCased (h : Caseless c) : isCased c.toNat = false := by
  have hall : ∀ n < 128, Caseless (Char.ofNat n) → isCased (Char.ofNat n).toNat = false := by decide
  exact ascii_induction (P := fun c => Caseless c → isCased c.toNat = false) hall h.2.1 h

theorem misses_of_leadsToCased {run : CaseRun} (hrun : leadsToCased run = true)
    (hn : isCased n = false) : misses n run = true := by
  simp only [leadsToCased, isCased, CaseRun.low, CaseRun.high, Bool.or_eq_true, Bool.and_eq_true,
    Nat.ble_eq, ← Bool.not_eq_true] at hrun hn
  simp only [misses, Bool.not_eq_true', Bool.and_eq_false_iff, decide_eq_false_iff_not]
  omega

/-- Letter case leads neither to signs of ASCII nor away from them. -/
theorem Caseless.unmoved (h : Caseless c) : unreached c.toNat = true ∧ unlowered c.toNat = true := by
  have hupper : upperRuns.toList.all leadsToCased = true := by decide +kernel
  have hlower : lowerRuns.toList.all leadsToCased = true := by decide +kernel
  have hlong : longUpper.toList.all (fun entry => entry.2.all isCased) = true := by decide +kernel
  rw [List.all_eq_true] at hupper hlower hlong
  have hmisses : ∀ run, leadsToCased run = true → misses c.toNat run = true := fun run hrun =>
    misses_of_leadsToCased hrun h.not_isCased
  have hmark : c.toNat ≠ 0x307 := fun he => absurd h.2.1 (by rw [he]; decide)
  have hno : ∀ entry ∈ longUpper.toList, ∀ k ∈ entry.2, k ≠ c.toNat := by
    rintro entry he _ hk rfl
    have hcased := List.all_eq_true.mp (hlong entry he) _ hk
    rw [h.not_isCased] at hcased
    cases hcased
  simp only [unreached, unlowered, Bool.and_eq_true, Nat.blt_eq, Bool.not_eq_true',
    Char.ofNat_toNat, List.all_eq_true, bne_iff_ne]
  exact ⟨⟨⟨⟨h.1, h.2.2⟩, fun run hr => hmisses run (hupper run hr)⟩, hno⟩,
    ⟨⟨h.1, h.2.2⟩, hmark⟩, fun run hr => hmisses run (hlower run hr)⟩

end Wikitext.Chars

namespace Wikitext.Title

theorem upperFirst_upperFirst (t : Text) : upperFirst (upperFirst t) = upperFirst t := by
  cases t with
  | nil => rfl
  | cons c t =>
    obtain ⟨d, ds, hc, hd⟩ := Chars.toUpper_toUpper c
    rw [upperFirst, hc, List.cons_append, upperFirst, hd, List.singleton_append]

end Wikitext.Title
