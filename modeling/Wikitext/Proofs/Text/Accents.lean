import Wikitext.Proofs.Text.Upper
import Wikitext.SortKey

/-!
# Letters that have no accent

Decomposing a character leaves characters that decompose no further (`baseLetters_of_mem`): nothing
that the table gives is a key of it, and neither is a jamo. So a text without diacritics is left alone
when it is rid of them again (`withoutDiacritics_withoutDiacritics`).
-/

namespace Wikitext.Chars

-- -----------------------------------------------------------------------------------------
-- The table
-- -----------------------------------------------------------------------------------------

theorem mem_of_lookupBase (hn : 0 < n) (h : lookupBase n fuel lo hi = some base) :
    (n, base) ∈ baseTable.toList := by
  fun_induction lookupBase n fuel lo hi with
  | case1 => cases h
  | case2 fuel lo hi _ mid key code hget hkey =>
    obtain rfl := Option.some.inj h
    obtain rfl : key = n := eq_of_beq hkey
    rw [Array.getD_eq_getD_getElem?] at hget
    cases hm : baseTable[mid]? with
    | none =>
      rw [hm, Option.getD_none, Prod.mk.injEq] at hget
      omega
    | some e =>
      rw [hm, Option.getD_some] at hget
      exact hget ▸ Array.mem_toList_iff.mpr (Array.mem_of_getElem? hm)
  | case3 _ _ _ _ _ _ _ _ _ _ ih => exact ih h
  | case4 _ _ _ _ _ _ _ _ _ _ ih => exact ih h
  | case5 => cases h

/-- The numbers as the bits of one number, in which the kernel finds them at once. -/
def bits (ns : List Nat) : Nat := ns.foldl (fun bits n => bits ||| 1 <<< n) 0

theorem testBit_bits (h : n ∈ ns) : (bits ns).testBit n = true := by
  have hfold : ∀ (ns : List Nat) (start : Nat), n ∈ ns ∨ start.testBit n = true →
      (ns.foldl (fun bits n => bits ||| 1 <<< n) start).testBit n = true := by
    intro ns
    induction ns with
    | nil => simp
    | cons m ns ih =>
      intro start h
      refine ih _ ?_
      rw [List.mem_cons] at h
      rcases h with (rfl | h) | h
      · exact .inr (by simp [Nat.testBit_shiftLeft])
      · exact .inl h
      · exact .inr (by simp [h])
  exact hfold ns 0 (.inl h)

def marks : List Nat :=
  (Ranges.pairs markRanges.bounds.toList).flatMap fun p => List.range' p.1 (p.2 - p.1)

theorem mem_marks (hc : 0x80 ≤ c.toNat) (h : isMark c = true) : c.toNat ∈ marks := by
  rw [isMark, if_neg (Nat.not_lt.mpr hc), Ranges.contains_iff (by decide +kernel)] at h
  obtain ⟨p, hp, hlow, hhigh⟩ := h
  exact List.mem_flatMap.mpr ⟨p, hp, List.mem_range'_1.mpr (by omega)⟩

/-- The number is that of a character without a decomposition, and of no mark. -/
def isBase (n : Nat) : Bool :=
  Nat.blt n 0x80 || !(bits (baseTable.toList.map (·.1))).testBit n && !(bits marks).testBit n &&
    (Nat.blt n 0xAC00 || Nat.blt 0xD7A3 n)

theorem isBase_baseTable : baseTable.toList.all (fun entry => isBase entry.2) = true := by
  decide +kernel

/-- The number is that of a leading consonant, a vowel or a trailing consonant. -/
def IsJamo (n : Nat) : Prop :=
  (0x1100 ≤ n ∧ n < 0x1113) ∨ (0x1161 ≤ n ∧ n < 0x1176) ∨ (0x11A8 ≤ n ∧ n < 0x11C3)

theorem isBase_jamo (h : IsJamo n) : isBase n = true := by
  have hlead : (List.range' 0x1100 19).all isBase = true := by decide +kernel
  have hvowel : (List.range' 0x1161 21).all isBase = true := by decide +kernel
  have htail : (List.range' 0x11A8 27).all isBase = true := by decide +kernel
  simp only [List.all_eq_true, List.mem_range'_1] at hlead hvowel htail
  rcases h with h | h | h
  · exact hlead n h
  · exact hvowel n h
  · exact htail n h

-- -----------------------------------------------------------------------------------------
-- Characters that are left alone
-- -----------------------------------------------------------------------------------------

theorem baseLetters_of_isBase (h : isBase c.toNat = true) : baseLetters c = [c] := by
  simp only [isBase, Bool.or_eq_true, Nat.blt_eq, Bool.and_eq_true, Bool.not_eq_true'] at h
  unfold baseLetters
  dsimp only
  by_cases hascii : c.toNat < 0x80
  · rw [if_pos hascii]
  · obtain ⟨⟨hkeys, hmarks⟩, hhangul⟩ := h.resolve_left hascii
    have hlookup : lookupBase c.toNat (baseTable.size.log2 + 1) 0 baseTable.size = none := by
      rw [Option.eq_none_iff_forall_ne_some]
      intro base hbase
      have hkey := List.mem_map_of_mem (f := Prod.fst) (mem_of_lookupBase (by omega) hbase)
      rw [testBit_bits hkey] at hkeys
      cases hkeys
    have hmark : isMark c = false := by
      rw [Bool.eq_false_iff]
      intro hmark
      rw [testBit_bits (mem_marks (by omega) hmark)] at hmarks
      cases hmarks
    have hsyllable : (decide (0xAC00 ≤ c.toNat) && decide (c.toNat ≤ 0xD7A3)) = false := by
      simp only [Bool.and_eq_false_iff, decide_eq_false_iff_not]
      omega
    rw [if_neg hascii, hsyllable, if_neg Bool.false_ne_true, hlookup, hmark]
    rfl

theorem baseLetters_ofNat (h : isBase n = true) : baseLetters (Char.ofNat n) = [Char.ofNat n] := by
  rcases ofNat_cases n with hn | hn
  · exact baseLetters_of_isBase (by rwa [hn])
  · rw [hn]
    decide

theorem isJamo_of_mem_hangulJamo (hlow : 0xAC00 ≤ n) (hhigh : n ≤ 0xD7A3) (h : d ∈ hangulJamo n) :
    ∃ m, IsJamo m ∧ d = Char.ofNat m := by
  unfold hangulJamo at h
  dsimp only at h
  split at h
  · simp only [List.append_nil, List.mem_cons, List.not_mem_nil, or_false] at h
    rcases h with h | h
    · exact ⟨_, .inl (by omega), h⟩
    · exact ⟨_, .inr (.inl (by omega)), h⟩
  · rename_i htail
    simp only [beq_iff_eq] at htail
    simp only [List.cons_append, List.nil_append, List.mem_cons, List.not_mem_nil, or_false] at h
    rcases h with h | h | h
    · exact ⟨_, .inl (by omega), h⟩
    · exact ⟨_, .inr (.inl (by omega)), h⟩
    · exact ⟨_, .inr (.inr (by omega)), h⟩

/-- What a character decomposes into decomposes no further. -/
theorem baseLetters_of_mem (h : d ∈ baseLetters c) : baseLetters d = [d] := by
  have hletters : baseLetters c = [c] ∨ baseLetters c ≠ [c] := em _
  rcases hletters with hself | hother
  · rw [hself, List.mem_singleton] at h
    rwa [h]
  unfold baseLetters at h hother
  dsimp only at h hother
  split at h
  · rename_i hascii
    rw [if_pos hascii] at hother
    exact absurd rfl hother
  · rename_i hascii
    rw [if_neg hascii] at hother
    split at h
    · rename_i hsyllable
      simp only [Bool.and_eq_true, decide_eq_true_eq] at hsyllable
      obtain ⟨m, hm, rfl⟩ := isJamo_of_mem_hangulJamo hsyllable.1 hsyllable.2 h
      exact baseLetters_ofNat (isBase_jamo hm)
    · rename_i hsyllable
      rw [if_neg hsyllable] at hother
      split at h
      · rename_i base hbase
        obtain rfl := List.mem_singleton.mp h
        have hentry := mem_of_lookupBase (by omega) hbase
        exact baseLetters_ofNat (List.all_eq_true.mp isBase_baseTable _ hentry)
      · rename_i hnone
        rw [hnone] at hother
        split at h
        · cases h
        · rename_i hmark
          exact absurd (if_neg hmark) hother

end Wikitext.Chars

namespace Wikitext.SortKey

/-- Neither a decomposition nor a plain spelling is known for the character. -/
def IsPlain (c : Char) : Prop := Chars.baseLetters c = [c] ∧ plainLetters c = [c]

instance : Decidable (IsPlain c) := inferInstanceAs (Decidable (_ ∧ _))

/-- A plain spelling is a letter or two of the English alphabet. -/
theorem plainLetters_cases (c : Char) :
    plainLetters c = [c] ∨ ∀ d ∈ plainLetters c, IsPlain d := by
  unfold plainLetters
  split
  case h_15 => exact .inl rfl
  all_goals exact .inr (by decide)

theorem isPlain_of_mem_withoutDiacritics (h : d ∈ withoutDiacritics t) : IsPlain d := by
  obtain ⟨c, hc, hd⟩ := List.mem_flatMap.mp h
  obtain ⟨_, _, hbase⟩ := List.mem_flatMap.mp hc
  rcases plainLetters_cases c with hself | hplain
  · obtain rfl : d = c := by simpa [hself] using hd
    exact ⟨Chars.baseLetters_of_mem hbase, hself⟩
  · exact hplain d hd

theorem flatMap_eq_self {t : Text} {f : Char → Text} (h : ∀ c ∈ t, f c = [c]) : t.flatMap f = t := by
  rw [List.flatMap_congr h, List.flatMap_singleton']

theorem withoutDiacritics_eq_self (h : ∀ c ∈ t, IsPlain c) : withoutDiacritics t = t := by
  rw [withoutDiacritics, flatMap_eq_self fun c hc => (h c hc).1, flatMap_eq_self fun c hc => (h c hc).2]

theorem withoutDiacritics_withoutDiacritics (t : Text) :
    withoutDiacritics (withoutDiacritics t) = withoutDiacritics t :=
  withoutDiacritics_eq_self fun _ => isPlain_of_mem_withoutDiacritics

end Wikitext.SortKey
