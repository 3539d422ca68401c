import Wikitext.Proofs.Fix.Harmless
import Wikitext.Proofs.Pattern.Context
import Wikitext.Proofs.Pattern.Phrase
import Wikitext.Proofs.Text.Accents
import Wikitext.Proofs.Text.Blank

/-!
# Finished sort keys

In the key of a person the family name comes first, the given names follow behind a comma, and a
generational suffix is last. A text is its own key (`ofPerson_eq_self_iff`) if there is nothing to cut
off at its ends and it is in order: it has no suffix, and a comma or one name only, or there is one
name in front of its suffix. A key is made again of a key only where that one is finished
(`ofPerson_ofPerson_iff`), and the key of a person with several names and a suffix is not
(`ofPerson_ofPerson_ne`).
-/

namespace Wikitext

open Pattern Regex

namespace Pattern

theorem reads_textEnd : textEnd.Reads b w r gs ↔ w = [] ∧ gs = [] ∧ r = [] := by
  constructor
  · intro h
    have hgs := h.groups_eq_nil rfl
    cases h with
    | anchor ha _ hr => exact ⟨rfl, hgs, hr ▸ List.isEmpty_iff.mp ha⟩
  · rintro ⟨rfl, rfl, rfl⟩
    exact .anchor (c := ⟨b, [], 0, 0⟩) rfl rfl rfl

/-- What stands at the end of a text. -/
theorem reads_atEnd {p : Pattern} (hp : p.anchorless = true) :
    (p ++ textEnd).Reads b w r gs ↔ r = [] ∧ p.Forms w gs := by
  constructor
  · rintro ⟨⟩
    rename_i u v gs₁ gs₂ hfront hend
    obtain ⟨rfl, rfl, rfl⟩ := reads_textEnd.mp hend
    exact ⟨rfl, by simpa using hfront.anywhere hp none []⟩
  · rintro ⟨rfl, h⟩
    exact (h.anywhere hp b []).append_nothing (reads_textEnd.mpr ⟨rfl, rfl, rfl⟩)

end Pattern

namespace SortKey

-- -----------------------------------------------------------------------------------------
-- The patterns
-- -----------------------------------------------------------------------------------------

/-- Something in brackets. -/
inductive Bracketed : Text → Prop
  | intro : Blank b → (∀ c ∈ x, c ≠ '(' ∧ c ≠ ')') → Blank b' →
      Bracketed (b ++ ('(' :: (x ++ ')' :: b')))

def bracketed : Pattern := blanks ++ lit "(" ++ many (noneOf "()") ++ lit ")" ++ blanks

theorem disambiguator_eq : disambiguator = (bracketed ++ textEnd).compile := rfl

theorem words_bracketed : bracketed.Words w ↔ Bracketed w := by
  unfold bracketed
  constructor
  · intro h
    obtain ⟨_, b', rfl, h, _, hb'⟩ := (words_append rfl rfl).mp h
    obtain ⟨_, _, rfl, h, hclose⟩ := (words_append rfl rfl).mp h
    obtain ⟨_, x, rfl, h, _, hinner⟩ := (words_append rfl rfl).mp h
    obtain ⟨b, _, rfl, ⟨_, hb⟩, hopen⟩ := (words_append rfl rfl).mp h
    obtain rfl := words_ofText.mp hopen
    obtain rfl := words_ofText.mp hclose
    have hinner : ∀ c ∈ x, c ≠ '(' ∧ c ≠ ')' := by simpa using (forms_run.mp hinner).1
    simpa using Bracketed.intro (forms_run.mp hb).1 hinner (forms_run.mp hb').1
  · rintro ⟨hb, hinner, hb'⟩
    rename_i b x b'
    have hblanks : ∀ {b}, Blank b → blanks.Words b := fun hb => ⟨[], forms_run.mpr ⟨hb, rfl⟩⟩
    have hall : (many (noneOf "()")).Words x :=
      ⟨[], forms_run.mpr ⟨by simpa using hinner, rfl⟩⟩
    have hopen : (lit "(").Words ['('] := words_ofText.mpr rfl
    have hclose : (lit ")").Words [')'] := words_ofText.mpr rfl
    have hfront := (words_append rfl rfl).mpr ⟨b, _, rfl, hblanks hb, hopen⟩
    have hinside := (words_append rfl rfl).mpr ⟨_, x, rfl, hfront, hall⟩
    have hclosed := (words_append rfl rfl).mpr ⟨_, _, rfl, hinside, hclose⟩
    have hword := (words_append rfl rfl).mpr ⟨_, b', rfl, hclosed, hblanks hb'⟩
    simpa using hword

/-- The suffixes of names that tell generations apart. -/
def generations : List Text :=
  ["Jr", "Jr.", "Sr", "Sr.", "I", "II", "III", "IV", "V", "VI", "VII", "VIII"].map String.toList

def suffix : Pattern :=
  oneOf "JS" ++ lit "r" ++ opt (lit ".") <|>
    firstOf [between 1 3 (lit "I"), lit "IV", lit "V" ++ between 0 3 (lit "I")]

def suffixed : Pattern := opt (lit ",") ++ many1 blank ++ group 1 suffix

theorem generation_eq : generation = (suffixed ++ textEnd).compile := rfl

theorem words_between (hle : n ≤ k) :
    (between n k (lit "I")).Words w ↔ ∃ i, (n ≤ i ∧ i ≤ k) ∧ w = List.replicate i 'I' := by
  have hlit : lit "I" = char (· == 'I') := rfl
  rw [hlit]
  constructor
  · rintro ⟨gs, h⟩
    obtain ⟨hlength, hall, -⟩ := (forms_between hle).mp h
    exact ⟨w.length, hlength, List.eq_replicate_iff.mpr ⟨rfl, fun c hc => eq_of_beq (hall c hc)⟩⟩
  · rintro ⟨i, hi, rfl⟩
    exact ⟨[], (forms_between hle).mpr ⟨by simpa using hi, by simp, rfl⟩⟩

theorem words_junior :
    (oneOf "JS" ++ lit "r" ++ opt (lit ".")).Words g ↔ g ∈ generations.take 4 := by
  constructor
  · intro h
    obtain ⟨_, point, rfl, h, hpoint⟩ := (words_append rfl rfl).mp h
    obtain ⟨_, _, rfl, ⟨_, hfirst⟩, hr⟩ := (words_append rfl rfl).mp h
    obtain ⟨c, hc, rfl, -⟩ := forms_char.mp hfirst
    obtain rfl := words_ofText.mp hr
    have hc : c = 'J' ∨ c = 'S' := by simpa using hc
    rcases hc with rfl | rfl <;> rcases words_opt.mp hpoint with rfl | hpoint
    case inl.inl | inr.inl => decide
    all_goals
      obtain rfl := words_ofText.mp hpoint
      decide
  · intro h
    have hword : ∀ c ∈ "JS".toList, ∀ point, point = [] ∨ point = ['.'] →
        (oneOf "JS" ++ lit "r" ++ opt (lit ".")).Words ([c] ++ ['r'] ++ point) := by
      intro c hc point hpoint
      have hfirst : (oneOf "JS").Words [c] :=
        ⟨[], forms_char.mpr ⟨c, List.contains_iff_mem.mpr hc, rfl, rfl⟩⟩
      have htwo := (words_append rfl rfl).mpr ⟨[c], ['r'], rfl, hfirst, words_ofText.mpr rfl⟩
      have hlast : (opt (lit ".")).Words point := words_opt.mpr (hpoint.imp_right words_ofText.mpr)
      exact (words_append rfl rfl).mpr ⟨_, point, rfl, htwo, hlast⟩
    simp only [generations, List.map_cons, List.map_nil, List.take_succ_cons, List.take_zero,
      List.mem_cons, List.not_mem_nil, or_false] at h
    rcases h with rfl | rfl | rfl | rfl
    · exact hword 'J' (by decide) [] (.inl rfl)
    · exact hword 'J' (by decide) ['.'] (.inr rfl)
    · exact hword 'S' (by decide) [] (.inl rfl)
    · exact hword 'S' (by decide) ['.'] (.inr rfl)

theorem words_numeral :
    (firstOf [between 1 3 (lit "I"), lit "IV", lit "V" ++ between 0 3 (lit "I")]).Words g ↔
      g ∈ generations.drop 4 := by
  have hcases : (firstOf [between 1 3 (lit "I"), lit "IV", lit "V" ++ between 0 3 (lit "I")]).Words g ↔
      (∃ i, (1 ≤ i ∧ i ≤ 3) ∧ g = List.replicate i 'I') ∨ g = ['I', 'V'] ∨
        ∃ i, (0 ≤ i ∧ i ≤ 3) ∧ g = 'V' :: List.replicate i 'I' := by
    rw [← words_between (by decide)]
    have htail : (lit "V" ++ between 0 3 (lit "I")).Words g ↔
        ∃ i, (0 ≤ i ∧ i ≤ 3) ∧ g = 'V' :: List.replicate i 'I' := by
      rw [words_append rfl rfl]
      constructor
      · rintro ⟨u, v, rfl, hu, hv⟩
        obtain rfl := words_ofText.mp hu
        obtain ⟨i, hi, rfl⟩ := (words_between (by decide)).mp hv
        exact ⟨i, hi, rfl⟩
      · rintro ⟨i, hi, rfl⟩
        exact ⟨['V'], _, rfl, words_ofText.mpr rfl, (words_between (by decide)).mpr ⟨i, hi, rfl⟩⟩
    rw [← htail]
    exact words_alt.trans (or_congr_right (words_alt.trans (or_congr_left words_ofText)))
  rw [hcases]
  constructor
  · rintro (⟨i, hi, rfl⟩ | rfl | ⟨i, hi, rfl⟩)
    · obtain rfl | rfl | rfl : i = 1 ∨ i = 2 ∨ i = 3 := by omega
      all_goals decide
    · decide
    · obtain rfl | rfl | rfl | rfl : i = 0 ∨ i = 1 ∨ i = 2 ∨ i = 3 := by omega
      all_goals decide
  · intro h
    simp only [generations, List.map_cons, List.map_nil, List.drop_succ_cons, List.drop_zero,
      List.mem_cons, List.not_mem_nil, or_false] at h
    rcases h with rfl | rfl | rfl | rfl | rfl | rfl | rfl | rfl
    · exact .inl ⟨1, by decide, rfl⟩
    · exact .inl ⟨2, by decide, rfl⟩
    · exact .inl ⟨3, by decide, rfl⟩
    · exact .inr (.inl rfl)
    · exact .inr (.inr ⟨0, by decide, rfl⟩)
    · exact .inr (.inr ⟨1, by decide, rfl⟩)
    · exact .inr (.inr ⟨2, by decide, rfl⟩)
    · exact .inr (.inr ⟨3, by decide, rfl⟩)

theorem words_suffix : suffix.Words g ↔ g ∈ generations := by
  rw [suffix, words_alt, words_junior, words_numeral, ← List.mem_append, List.take_append_drop]

theorem forms_suffixed : suffixed.Forms w gs ↔ ∃ s b g, w = s ++ (b ++ g) ∧ (s = [] ∨ s = [',']) ∧
    (Blank b ∧ b ≠ []) ∧ g ∈ generations ∧ gs = [(1, g)] := by
  constructor
  · intro h
    obtain ⟨_, g, gs₁, _, rfl, rfl, hfront, hg⟩ := (forms_append rfl rfl).mp h
    obtain ⟨gs₂, rfl, hword⟩ := forms_group.mp hg
    obtain rfl : gs₂ = [] := hword.groups_eq_nil rfl
    obtain rfl : gs₁ = [] := hfront.groups_eq_nil rfl
    obtain ⟨s, b, _, _, rfl, _, hs, hb⟩ := (forms_append rfl rfl).mp hfront
    obtain ⟨hne, hb, -⟩ := forms_run1.mp hb
    refine ⟨s, b, g, by simp, ?_, ⟨hb, hne⟩, words_suffix.mp ⟨_, hword⟩, rfl⟩
    exact (forms_opt.mp hs).imp (·.1) fun h => (forms_ofText.mp h).1
  · rintro ⟨s, b, g, rfl, hs, ⟨hb, hne⟩, hg, rfl⟩
    obtain ⟨gs, hg⟩ := words_suffix.mpr hg
    obtain rfl : gs = [] := hg.groups_eq_nil rfl
    have hopt : (opt (lit ",")).Forms s [] :=
      forms_opt.mpr (hs.imp (⟨·, rfl⟩) fun h => forms_ofText.mpr ⟨h, rfl⟩)
    have hfront : (opt (lit ",") ++ many1 blank).Forms (s ++ b) [] :=
      (forms_append rfl rfl).mpr ⟨s, b, [], [], rfl, rfl, hopt, forms_run1.mpr ⟨hne, hb, rfl⟩⟩
    exact (forms_append rfl rfl).mpr ⟨s ++ b, g, [], _, by simp, by simp, hfront,
      forms_group.mpr ⟨[], rfl, hg⟩⟩

-- -----------------------------------------------------------------------------------------
-- Suffixes
-- -----------------------------------------------------------------------------------------

theorem solid_of_mem_generations (hg : g ∈ generations) : g ≠ [] ∧
    ∀ c ∈ g, Chars.isBlank c = false ∧ c ≠ ',' ∧ c ≠ ')' := by
  have hall : ∀ g ∈ generations, g ≠ [] ∧ ∀ c ∈ g, Chars.isBlank c = false ∧ c ≠ ',' ∧ c ≠ ')' := by
    decide
  exact hall g hg

/-- The name ends in a generational suffix. All the white space in front of the suffix separates it
from the rest, and so does a comma in front of the white space. -/
inductive Suffixed : Text → Text → Text → Prop
  | comma {plain b g : Text} : Blank b → b ≠ [] → g ∈ generations →
      Suffixed (plain ++ (',' :: (b ++ g))) plain g
  | space {plain b g : Text} : (∀ c ∈ plain.getLast?, Chars.isBlank c = false ∧ c ≠ ',') →
      Blank b → b ≠ [] → g ∈ generations → Suffixed (plain ++ (b ++ g)) plain g

namespace Suffixed

theorem mem_generations (h : Suffixed name plain g) : g ∈ generations := by
  cases h <;> assumption

/-- The white space in front of the suffix, and what is in front of that. -/
theorem exists_front (h : Suffixed name plain g) : ∃ front b, name = front ++ (b ++ g) ∧
    (Blank b ∧ b ≠ []) ∧ (∀ c ∈ front.getLast?, Chars.isBlank c = false) ∧
    (front = plain ++ [','] ∨ front = plain ∧ ∀ c ∈ front.getLast?, c ≠ ',') := by
  cases h with
  | @comma plain b g hb hne _ =>
    have hcomma : ∀ c ∈ (plain ++ [',']).getLast?, Chars.isBlank c = false := by
      rw [List.getLast?_concat]
      rintro _ ⟨⟩
      decide
    exact ⟨plain ++ [','], b, by simp, ⟨hb, hne⟩, hcomma, .inl rfl⟩
  | @space plain b g hlast hb hne _ =>
    exact ⟨plain, b, rfl, ⟨hb, hne⟩, fun c hc => (hlast c hc).1, .inr ⟨rfl, fun c hc => (hlast c hc).2⟩⟩

/-- A name ends in one suffix only. -/
theorem unique (h : Suffixed name plain g) (h' : Suffixed name plain' g') : plain = plain' ∧ g = g' := by
  obtain ⟨front, b, rfl, ⟨hb, hne⟩, hsolid, hfront⟩ := h.exists_front
  obtain ⟨front', b', heq, ⟨hb', hne'⟩, hsolid', hfront'⟩ := h'.exists_front
  have hstop : ∀ {b : Text}, Blank b → b ≠ [] → ∀ r : Text,
      ∀ c ∈ (b.reverse ++ r).head?, (!Chars.isBlank c) = false := by
    intro b hb hne r c hc
    obtain ⟨d, ds, hd⟩ := List.exists_cons_of_ne_nil (List.reverse_ne_nil_iff.mpr hne)
    rw [hd, List.cons_append, List.head?_cons] at hc
    obtain rfl := Option.some.inj hc
    rw [hb d (List.mem_reverse.mp (hd ▸ List.mem_cons_self))]
    rfl
  have hword : ∀ {g}, g ∈ generations → ∀ c ∈ g.reverse, (!Chars.isBlank c) = true := by
    intro g hg c hc
    rw [((solid_of_mem_generations hg).2 c (List.mem_reverse.mp hc)).1]
    rfl
  have hrev := congrArg List.reverse heq
  simp only [List.reverse_append, List.append_assoc] at hrev
  obtain ⟨hg, hrest⟩ := Text.append_inj_of_stop (hword h.mem_generations) (hstop hb hne _)
    (hword h'.mem_generations) (hstop hb' hne' _) hrev
  have hblank : ∀ {b}, Blank b → Blank b.reverse := fun hb c hc => hb c (List.mem_reverse.mp hc)
  obtain ⟨-, hfronts⟩ := (hblank hb).append_inj (hblank hb') (by rwa [List.head?_reverse])
    (by rwa [List.head?_reverse]) hrest
  obtain rfl := List.reverse_inj.mp hfronts
  refine ⟨?_, List.reverse_inj.mp hg⟩
  rcases hfront with rfl | ⟨rfl, hcomma⟩ <;> rcases hfront' with hfront' | ⟨hfront', hother⟩
  · exact List.append_cancel_right hfront'
  · exact absurd rfl (hother ',' List.getLast?_concat)
  · rw [hfront', List.getLast?_concat] at hcomma
    exact absurd rfl (hcomma ',' rfl)
  · exact hfront'

theorem reads (h : Suffixed name plain g) : ∃ w, name = plain ++ (w ++ []) ∧
    (suffixed ++ textEnd).Reads (lastOf none plain) w [] [(1, g)] := by
  cases h with
  | @comma plain b g hb hne hg =>
    exact ⟨',' :: (b ++ g), by simp, (reads_atEnd rfl).mpr ⟨rfl, forms_suffixed.mpr
      ⟨[','], b, g, rfl, .inr rfl, ⟨hb, hne⟩, hg, rfl⟩⟩⟩
  | @space plain b g _ hb hne hg =>
    exact ⟨b ++ g, by simp, (reads_atEnd rfl).mpr ⟨rfl, forms_suffixed.mpr
      ⟨[], b, g, rfl, .inl rfl, ⟨hb, hne⟩, hg, rfl⟩⟩⟩

end Suffixed

/-- The search for a suffix finds the one that there is. -/
theorem find?_generation (name : Text) :
    (generation.find? name = none ∧ ∀ plain g, ¬ Suffixed name plain g) ∨
      ∃ m, generation.find? name = some m ∧
        Suffixed name (name.take (m.offset name.length)) (m.group 1) := by
  rw [generation_eq]
  cases hfind : (suffixed ++ textEnd).compile.find? name with
  | none =>
    refine .inl ⟨rfl, fun plain g h => ?_⟩
    obtain ⟨w, hname, hreads⟩ := h.reads
    exact (vacant_iff rfl).mp (vacant_of_find?_none rfl hfind) _ _ _ _ hname hreads
  | some m =>
    refine .inr ⟨m, rfl, ?_⟩
    obtain ⟨u, w, hsplit⟩ := splits_of_find? hfind
    have hvacant := vacant_of_find? rfl hfind hsplit
    obtain ⟨hafter, hw⟩ := (reads_atEnd rfl).mp hsplit.takes.reads
    obtain ⟨s, b, g, rfl, hs, ⟨hb, hne⟩, hg, hgs⟩ := forms_suffixed.mp hw
    have hgroup : m.group 1 = g := Match.group_eq_of_texts hgs (by decide) rfl
    have hname : name = u ++ (s ++ (b ++ g)) := by
      have htext := hsplit.text
      rwa [hafter, List.append_nil] at htext
    have hplain : name.take (m.offset name.length) = u := by
      rw [hsplit.offset, hname, List.take_left]
    rw [hgroup, hplain, hname]
    rcases hs with rfl | rfl
    · refine .space (fun c hc => ?_) hb hne hg
      -- Otherwise a suffix would begin one character earlier.
      obtain ⟨u, rfl⟩ : ∃ front, u = front ++ [c] := by
        obtain ⟨front, hfront⟩ := List.getLast?_eq_some_iff.mp hc
        exact ⟨front, hfront⟩
      have hnone : ∀ w gs, w = c :: (b ++ g) → ¬ suffixed.Forms w gs := by
        rintro w gs rfl hw
        refine hvacant u [c] (c :: (b ++ g)) [] gs rfl (by simp) (by simp [hafter]) ?_
        exact (reads_atEnd rfl).mpr ⟨rfl, hw⟩
      constructor
      · rw [Bool.eq_false_iff]
        intro hblank
        refine hnone _ _ rfl (forms_suffixed.mpr ⟨[], c :: b, g, rfl, .inl rfl, ⟨?_, by simp⟩, hg, rfl⟩)
        exact List.forall_mem_cons.mpr ⟨hblank, hb⟩
      · rintro rfl
        exact hnone _ _ rfl (forms_suffixed.mpr ⟨[','], b, g, rfl, .inr rfl, ⟨hb, hne⟩, hg, rfl⟩)
    · exact .comma hb hne hg

-- -----------------------------------------------------------------------------------------
-- Putting the family name first
-- -----------------------------------------------------------------------------------------

theorem splitLast?_eq (hb : c ∉ b) (a : Text) : Text.splitLast? c (a ++ c :: b) = some (a, b) := by
  have hrev : (a ++ c :: b).reverse = b.reverse ++ c :: a.reverse := by simp
  rw [Text.splitLast?, hrev, Text.splitFirst?_append (by simpa using hb)]
  simp

theorem splitFirst?_of_not_mem (h : c ∉ t) : Text.splitFirst? c t = none := by
  induction t with
  | nil => rfl
  | cons x t ih =>
    rw [List.mem_cons, not_or] at h
    simp [Text.splitFirst?, Ne.symm h.1, ih h.2]

theorem splitLast?_of_not_mem (h : c ∉ t) : Text.splitLast? c t = none := by
  rw [Text.splitLast?, splitFirst?_of_not_mem (by simpa using h)]
  rfl

/-- Of several names the last one comes first. -/
inductive Turned : Text → Text → Prop
  | single : ' ' ∉ plain → Turned plain plain
  | several {given family : Text} : ' ' ∉ family →
      Turned (given ++ ' ' :: family) (family ++ ", ".toList ++ Text.trim given)

theorem exists_last (h : c ∈ t) : ∃ a b, c ∉ b ∧ t = a ++ c :: b := by
  obtain ⟨as, bs, ht, hnot⟩ := List.eq_append_cons_of_mem (List.mem_reverse.mpr h)
  refine ⟨bs.reverse, as.reverse, by simpa using hnot, ?_⟩
  rw [← List.reverse_reverse t, ht]
  simp

/-- The name turned round. -/
def turn (plain : Text) : Text :=
  match Text.splitLast? ' ' plain with
  | some (given, family) => family ++ ", ".toList ++ Text.trim given
  | none => plain

theorem turned_turn (plain : Text) : Turned plain (turn plain) := by
  rw [turn]
  by_cases h : ' ' ∈ plain
  · obtain ⟨given, family, hfamily, rfl⟩ := exists_last h
    rw [splitLast?_eq hfamily]
    exact .several hfamily
  · rw [splitLast?_of_not_mem h]
    exact .single h

theorem count_trim (t : Text) : (Text.trim t).count ',' = t.count ',' := by
  obtain ⟨b, b', hb, hb', ht, -⟩ := Text.exists_trim_between t
  have hcomma : Chars.isBlank ',' = false := by decide
  conv_rhs => rw [ht]
  rw [List.count_append, List.count_append, List.count_eq_zero_of_not_mem (hb.not_mem hcomma),
    List.count_eq_zero_of_not_mem (hb'.not_mem hcomma), Nat.zero_add, Nat.add_zero]

/-- Several names get a comma. -/
theorem Turned.cases (h : Turned plain key) : (' ' ∉ plain ∧ key = plain) ∨
    (key.count ',' = plain.count ',' + 1 ∧ key.length ≤ plain.length + 1) := by
  cases h with
  | single hspace => exact .inl ⟨hspace, rfl⟩
  | @several given family _ =>
    have hlength := (Text.trim_isInfix given).length_le
    have hcount := count_trim given
    have hcommas : (", ".toList).count ',' = 1 := by decide
    refine .inr ⟨?_, ?_⟩
    · simp only [List.count_append, List.count_cons, hcount, hcommas]
      simp
      omega
    · simp only [List.length_append, List.length_cons]
      have htwo : (", ".toList).length = 2 := rfl
      omega

/-- The key of a name that has been cleaned. -/
inductive Keyed : Text → Text → Prop
  | finished : (∀ plain g, ¬ Suffixed name plain g) → ',' ∈ name → Keyed name name
  | plain : (∀ plain g, ¬ Suffixed name plain g) → ',' ∉ name → Turned name key → Keyed name key
  | suffixed : Suffixed name plain g → Turned plain key → Keyed name (key ++ ", ".toList ++ g)

/-- The name without what is in brackets at its end, and without accents. -/
def cleaned (name : Text) : Text :=
  withoutDiacritics (Text.trim (disambiguator.replaceFirst (fun _ => []) name))

theorem keyed_ofPerson (name : Text) : Keyed (cleaned name) (ofPerson name) := by
  unfold ofPerson
  rw [← cleaned]
  generalize cleaned name = name
  dsimp only
  rcases find?_generation name with ⟨hnone, hno⟩ | ⟨m, hsome, hsuffixed⟩
  · rw [hnone]
    by_cases hcomma : ',' ∈ name
    · rw [if_pos (by simpa using hcomma)]
      exact .finished hno hcomma
    · rw [if_neg (by simpa using hcomma)]
      exact .plain hno hcomma (turned_turn name)
  · rw [hsome, if_neg (by simp)]
    exact .suffixed hsuffixed (turned_turn _)

-- -----------------------------------------------------------------------------------------
-- Cleaning
-- -----------------------------------------------------------------------------------------

/-- Something in brackets ends the text. -/
def Disambiguated (t : Text) : Prop := ∃ u w, Bracketed w ∧ t = u ++ w

theorem Bracketed.two_le (h : Bracketed w) : 2 ≤ w.length := by
  cases h
  simp only [List.length_append, List.length_cons]
  omega

/-- What is in brackets at the end of a text is taken away. -/
inductive Stripped : Text → Text → Prop
  | whole : ¬ Disambiguated t → Stripped t t
  | cut : Bracketed w → Stripped (u ++ w) u

theorem stripped_replaceFirst (t : Text) : Stripped t (disambiguator.replaceFirst (fun _ => []) t) := by
  rw [disambiguator_eq, replaceFirst]
  cases hfind : (bracketed ++ textEnd).compile.find? t with
  | none =>
    refine .whole ?_
    rintro ⟨u, w, hw, rfl⟩
    obtain ⟨gs, hw⟩ := words_bracketed.mpr hw
    refine (vacant_iff rfl).mp (vacant_of_find?_none rfl hfind) u w [] gs (by simp) ?_
    exact (reads_atEnd rfl).mpr ⟨rfl, hw⟩
  | some m =>
    obtain ⟨u, w, hsplit⟩ := splits_of_find? hfind
    obtain ⟨hafter, hw⟩ := (reads_atEnd rfl).mp hsplit.takes.reads
    have htext := hsplit.text
    have hoffset : t.length - m.start.left = u.length := hsplit.offset
    rw [hafter, List.append_nil] at htext
    dsimp only
    rw [hafter, hoffset, htext, List.take_left, List.append_nil, List.append_nil]
    exact .cut (words_bracketed.mp ⟨_, hw⟩)

theorem Stripped.isPrefix (h : Stripped t t') : t' <+: t := by
  cases h with
  | whole => exact List.prefix_rfl
  | cut => exact List.prefix_append _ _

theorem Stripped.cases (h : Stripped t t') :
    (¬ Disambiguated t ∧ t' = t) ∨ (Disambiguated t ∧ t'.length + 2 ≤ t.length) := by
  cases h with
  | whole hno => exact .inl ⟨hno, rfl⟩
  | cut hw =>
    rw [List.length_append]
    exact .inr ⟨⟨_, _, hw, rfl⟩, Nat.add_le_add_left hw.two_le _⟩

theorem not_disambiguated (hend : ∀ c ∈ t.getLast?, Chars.isBlank c = false ∧ c ≠ ')') :
    ¬ Disambiguated t := by
  rintro ⟨u, _, ⟨hb, hinner, hb'⟩, rfl⟩
  rename_i b x b'
  rcases List.eq_nil_or_concat b' with rfl | ⟨b', c, rfl⟩
  · have hclose : u ++ (b ++ '(' :: (x ++ [')'])) = u ++ (b ++ '(' :: x) ++ [')'] := by simp
    rw [hclose, List.getLast?_concat] at hend
    exact (hend _ rfl).2 rfl
  · have hblank : u ++ (b ++ '(' :: (x ++ ')' :: b'.concat c)) =
        u ++ (b ++ '(' :: (x ++ ')' :: b')) ++ [c] := by simp
    rw [hblank, List.getLast?_concat] at hend
    have hlast := (hend _ rfl).1
    rw [hb' c (by simp)] at hlast
    cases hlast

-- -----------------------------------------------------------------------------------------
-- Finished keys
-- -----------------------------------------------------------------------------------------

/-- A key that needs no more work: there is nothing to cut off at its ends, and it is in order. -/
structure Finished (key : Text) : Prop where
  trimmed : Text.trim key = key
  bare : ¬ Disambiguated key
  ordered : (∀ plain g, ¬ Suffixed key plain g) ∧ (',' ∈ key ∨ ' ' ∉ key) ∨
    ∃ family, ' ' ∉ family ∧ ∃ g ∈ generations, key = family ++ ", ".toList ++ g

theorem suffixed_comma (hg : g ∈ generations) (plain : Text) :
    Suffixed (plain ++ ", ".toList ++ g) plain g := by
  have h : Suffixed (plain ++ (',' :: ([' '] ++ g))) plain g :=
    .comma (by simp [Blank]; decide) (by simp) hg
  simpa using h

theorem Keyed.eq_of_finished (h : Keyed key key') (hkey : Finished key) : key' = key := by
  cases h with
  | finished => rfl
  | plain hno hcomma hturned =>
    rcases hkey.ordered with ⟨-, hspace⟩ | ⟨family, -, g, hg, rfl⟩
    · cases hturned with
      | single => rfl
      | several => exact absurd (by simp) (hspace.resolve_left hcomma)
    · exact absurd (suffixed_comma hg family) (hno _ _)
  | suffixed hsuffixed hturned =>
    rcases hkey.ordered with ⟨hno, -⟩ | ⟨family, hspace, g, hg, rfl⟩
    · exact absurd hsuffixed (hno _ _)
    · obtain ⟨rfl, rfl⟩ := hsuffixed.unique (suffixed_comma hg family)
      cases hturned with
      | single => rfl
      | several => exact absurd (by simp) hspace

theorem cleaned_of_finished (h : Finished key) (hplain : withoutDiacritics key = key) :
    cleaned key = key := by
  have hstripped := stripped_replaceFirst key
  rw [cleaned]
  generalize disambiguator.replaceFirst _ key = key' at hstripped ⊢
  cases hstripped with
  | whole => rw [h.trimmed, hplain]
  | cut hw => exact absurd ⟨_, _, hw, rfl⟩ h.bare

theorem eq_of_mem_keyed (h : Keyed name key) (hc : c ∈ key) : c ∈ name ∨ c = ',' ∨ c = ' ' := by
  have hturned : ∀ {plain key}, Turned plain key → c ∈ key → c ∈ plain ∨ c = ',' ∨ c = ' ' := by
    intro plain key h hc
    cases h with
    | single => exact .inl hc
    | several =>
      simp only [List.mem_append, List.mem_cons] at hc ⊢
      rcases hc with (hc | hc) | hc
      · exact .inl (.inr (.inr hc))
      · exact .inr (by simpa using hc)
      · exact .inl (.inl ((Text.trim_isInfix _).subset hc))
  cases h with
  | finished => exact .inl hc
  | plain _ _ h => exact hturned h hc
  | suffixed hsuffixed h =>
    obtain ⟨w, hname, -⟩ := hsuffixed.reads
    obtain ⟨front, b, hname', -, -, -⟩ := hsuffixed.exists_front
    rw [List.append_assoc, List.mem_append, List.mem_append] at hc
    rcases hc with hc | hc | hc
    · refine (hturned h hc).imp_left fun hc => ?_
      rw [hname]
      exact List.mem_append_left _ hc
    · exact .inr (by simpa using hc)
    · rw [hname']
      exact .inl (List.mem_append_right _ (List.mem_append_right _ hc))

theorem isPlain_of_mem_ofPerson (h : c ∈ ofPerson name) : IsPlain c := by
  rcases eq_of_mem_keyed (keyed_ofPerson name) h with h | rfl | rfl
  · exact isPlain_of_mem_withoutDiacritics h
  · decide
  · decide

theorem withoutDiacritics_ofPerson (name : Text) : withoutDiacritics (ofPerson name) = ofPerson name :=
  withoutDiacritics_eq_self fun _ => isPlain_of_mem_ofPerson

/-- The suffix is at the end of the key, which is therefore not trimmed there. -/
theorem end_of_suffix (hg : g ∈ generations) (t : Text) :
    ∀ c ∈ (t ++ g).getLast?, Chars.isBlank c = false ∧ c ≠ ')' := by
  intro c hc
  obtain ⟨hne, hall⟩ := solid_of_mem_generations hg
  rw [List.getLast?_append_of_ne_nil _ hne] at hc
  obtain ⟨hblank, -, hbracket⟩ := hall c (List.mem_of_getLast? hc)
  exact ⟨hblank, hbracket⟩

theorem count_suffix (hg : g ∈ generations) : g.count ',' = 0 :=
  List.count_eq_zero_of_not_mem fun h => ((solid_of_mem_generations hg).2 _ h).2.1 rfl

/-- The comma in front of a suffix is the only one between it and the rest. -/
theorem Suffixed.count_le (h : Suffixed name plain g) : name.count ',' ≤ plain.count ',' + 1 := by
  obtain ⟨front, b, rfl, ⟨hb, -⟩, -, hfront⟩ := h.exists_front
  have hblank : b.count ',' = 0 := List.count_eq_zero_of_not_mem (hb.not_mem (by decide))
  have hcount : front.count ',' ≤ plain.count ',' + 1 := by
    rcases hfront with rfl | ⟨rfl, -⟩
    · simp [List.count_append]
    · exact Nat.le_succ _
  rw [List.count_append, List.count_append, hblank, count_suffix h.mem_generations]
  exact hcount

/-- A key with a suffix begins as the name does, or with a comma. -/
theorem Suffixed.solid (h : Suffixed name plain g) (hname : ∀ c ∈ name.head?, Chars.isBlank c = false)
    (t : Text) : ∀ c ∈ (plain ++ ", ".toList ++ t).head?, Chars.isBlank c = false := by
  obtain ⟨w, rfl, -⟩ := h.reads
  intro c hc
  cases plain with
  | nil =>
    obtain rfl : ',' = c := Option.some.inj hc
    decide
  | cons => exact hname c hc

/-- What is its own key, up to accents, is finished: what was cut off or put in would be missed, by
the length of the key or by the number of its commas. -/
theorem finished_of_keyed (hname : Text.trim stripped = name) (hstripped : Stripped key stripped)
    (h : Keyed name key) : Finished key := by
  have hcount : name.count ',' = stripped.count ',' := hname ▸ count_trim stripped
  have hshort : name.length ≤ stripped.length := hname ▸ (Text.trim_isInfix stripped).length_le
  have hlong := hstripped.isPrefix.length_le
  -- Nothing can have been cut off a key that is its own cleaned name.
  have hself : name = key → Text.trim key = key ∧ ¬ Disambiguated key := by
    rintro rfl
    rcases hstripped.cases with ⟨hbare, rfl⟩ | ⟨-, hlt⟩
    · exact ⟨hname, hbare⟩
    · omega
  cases h with
  | finished hno hcomma =>
    obtain ⟨htrim, hbare⟩ := hself rfl
    exact ⟨htrim, hbare, .inl ⟨hno, .inl hcomma⟩⟩
  | plain hno hcomma hturned =>
    rcases hturned.cases with ⟨hspace, rfl⟩ | ⟨hcommas, hlength⟩
    · obtain ⟨htrim, hbare⟩ := hself rfl
      exact ⟨htrim, hbare, .inl ⟨hno, .inr hspace⟩⟩
    · -- The comma would have to be cut off again, and with it the brackets around it.
      exfalso
      rcases hstripped.cases with ⟨-, rfl⟩ | ⟨-, hlt⟩
      · omega
      · omega
  | @suffixed plain g turned hsuffixed hturned =>
    have hg := hsuffixed.mem_generations
    have hend := end_of_suffix hg (turned ++ ", ".toList)
    have hbare := not_disambiguated hend
    obtain ⟨-, rfl⟩ : _ ∧ stripped = _ := hstripped.cases.resolve_right fun h => hbare h.1
    rcases hturned.cases with ⟨hspace, rfl⟩ | ⟨hcommas, -⟩
    · have hsolid : Text.trim name = name := hname ▸ Text.trim_trim _
      have hstart := hsuffixed.solid (Text.solid_of_trim hsolid).1 g
      exact ⟨Text.trim_of_solid hstart fun c hc => (hend c hc).1, hbare, .inr ⟨_, hspace, g, hg, rfl⟩⟩
    · exfalso
      have hle := hsuffixed.count_le
      have hone : (", ".toList).count ',' = 1 := by decide
      rw [List.count_append, List.count_append, count_suffix hg, hone] at hcount
      omega

/-- The texts that are their own keys. -/
theorem ofPerson_eq_self_iff : ofPerson key = key ↔ withoutDiacritics key = key ∧ Finished key := by
  have hkeyed := keyed_ofPerson key
  constructor
  · intro heq
    rw [heq] at hkeyed
    have hplain : withoutDiacritics key = key := heq ▸ withoutDiacritics_ofPerson key
    refine ⟨hplain, finished_of_keyed ?_ (stripped_replaceFirst key) hkeyed⟩
    have hall : ∀ c ∈ key, IsPlain c := fun c hc => isPlain_of_mem_ofPerson (heq.symm ▸ hc)
    refine (withoutDiacritics_eq_self fun c hc => hall c ?_).symm
    exact (stripped_replaceFirst key).isPrefix.subset ((Text.trim_isInfix _).subset hc)
  · rintro ⟨hplain, hkey⟩
    rw [cleaned_of_finished hkey hplain] at hkeyed
    exact hkeyed.eq_of_finished hkey

/-- A key is made again of a key exactly where that one is finished. -/
theorem ofPerson_ofPerson_iff (name : Text) :
    ofPerson (ofPerson name) = ofPerson name ↔ Finished (ofPerson name) := by
  rw [ofPerson_eq_self_iff, and_iff_right (withoutDiacritics_ofPerson name)]

/-- The key of a person with several names and a suffix is not finished: made again, the suffix hides
the comma that says so. -/
theorem ofPerson_ofPerson_ne (h : Suffixed (cleaned name) plain g) (hspace : ' ' ∈ plain) :
    ofPerson (ofPerson name) ≠ ofPerson name := by
  rw [Ne, ofPerson_ofPerson_iff]
  intro hfinished
  have hkeyed := keyed_ofPerson name
  generalize ofPerson name = key at hfinished hkeyed
  generalize cleaned name = name at h hkeyed
  cases hkeyed with
  | finished hno => exact hno _ _ h
  | plain hno => exact hno _ _ h
  | suffixed h' hturned =>
    obtain ⟨rfl, rfl⟩ := h.unique h'
    rcases hfinished.ordered with ⟨hno, -⟩ | ⟨family, hfamily, g', hg', heq⟩
    · exact hno _ _ (suffixed_comma h.mem_generations _)
    · obtain ⟨rfl, -⟩ := (suffixed_comma h.mem_generations _).unique (heq ▸ suffixed_comma hg' family)
      cases hturned with
      | single hsingle => exact hsingle hspace
      | several => exact hfamily (by simp)

theorem ofPerson_junior :
    ofPerson "Martin Luther King, Jr.".toList = "King, Martin Luther, Jr.".toList ∧
      ofPerson "King, Martin Luther, Jr.".toList = "Luther, King, Martin, Jr.".toList := by
  decide +kernel

end SortKey

end Wikitext
