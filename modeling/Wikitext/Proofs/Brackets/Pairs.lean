import Wikitext.Brackets
import Wikitext.Proofs.Text.Division

/-!
# Brackets in pairs

A text is divided into brackets and plain characters as a scan from left to right meets them
(`Scanned`). Brackets that pair up are `Nested`: behind them the same brackets are open as in front
of them (`leaves`). The scan for unbalanced brackets follows the tokens with the open brackets on its
stack, so it reports nothing exactly where all brackets pair up, and what it reports is a bracket
that stands in the text (`unbalancedBracket?_pairs`).

In a text whose brackets are in pairs, no place has more square brackets closed in front of it than
opened, and in the end as many are closed as opened (`level_of_unbalancedBracket?`). In a text between
doubled brackets some are open at every place (`Level.deep`), so such a text does not come about
where level texts join (`free_flatten`).
-/

namespace Wikitext.Bracket

-- -----------------------------------------------------------------------------------------
-- Tokens
-- -----------------------------------------------------------------------------------------

def opening : Bracket → Text
  | .doubleSquare => "[[".toList
  | .doubleCurly => "\x7b\x7b".toList
  | .square => "[".toList

def closing : Bracket → Text
  | .doubleSquare => "]]".toList
  | .doubleCurly => "\x7d\x7d".toList
  | .square => "]".toList

inductive Token
  | opens (b : Bracket)
  | closes (b : Bracket)
  | plain (c : Char)
  deriving DecidableEq

namespace Token

def text : Token → Text
  | .opens b => b.opening
  | .closes b => b.closing
  | .plain c => [c]

/-- A scan from left to right can read the token in front of `r`: it takes brackets that open, and
curly ones, together where there are two of them. How many closing square brackets belong together
depends on what is open. -/
def Read : Token → Text → Prop
  | .plain c, r => c ≠ '[' ∧ c ≠ ']' ∧ (c = '\x7b' ∨ c = '\x7d' → r.head? ≠ some c)
  | .opens b, r => b = .square → r.head? ≠ some '['
  | .closes _, _ => True

instance (token : Token) (r : Text) : Decidable (token.Read r) :=
  match token with
  | .plain c => inferInstanceAs (Decidable (c ≠ '[' ∧ c ≠ ']' ∧
      (c = '\x7b' ∨ c = '\x7d' → r.head? ≠ some c)))
  | .opens b => inferInstanceAs (Decidable (b = .square → r.head? ≠ some '['))
  | .closes _ => inferInstanceAs (Decidable True)

def IsPlain : Token → Bool
  | .plain _ => true
  | _ => false

end Token

/-- The text that the tokens stand for. -/
def spelt (ts : List Token) : Text := ts.flatMap Token.text

/-- A scan from left to right meets these tokens in the text. -/
inductive Scanned : List Token → Text → Prop
  | nil : Scanned [] []
  | cons {token : Token} : token.Read r → Scanned ts r → Scanned (token :: ts) (token.text ++ r)

/-- Every bracket is one of a pair, in which the opening bracket comes first, and no two pairs
overlap. -/
inductive Nested : List Token → Prop
  | nil : Nested []
  | plain : Nested ts → Nested (.plain c :: ts)
  | pair : Nested us → Nested ts → Nested (.opens b :: (us ++ .closes b :: ts))

/-- Any two brackets have a plain character between them. -/
inductive Spaced : List Token → Prop
  | nil : Spaced []
  | plain : (Token.plain c).Read (spelt ts) → Spaced ts → Spaced (.plain c :: ts)
  | bracket : token.IsPlain = false → (∀ next ∈ ts.head?, next.IsPlain = true) → Spaced ts →
      Spaced (token :: ts)

-- -----------------------------------------------------------------------------------------
-- Open brackets
-- -----------------------------------------------------------------------------------------

/-- The brackets that are open behind the tokens, the innermost first, if every closing bracket
closes the innermost open one. -/
def leaves : List Bracket → List Token → Option (List Bracket)
  | bs, [] => some bs
  | bs, .plain _ :: ts => leaves bs ts
  | bs, .opens b :: ts => leaves (b :: bs) ts
  | [], .closes _ :: _ => none
  | b :: bs, .closes b' :: ts => if b = b' then leaves bs ts else none

theorem leaves_append (bs : List Bracket) (ts us : List Token) :
    leaves bs (ts ++ us) = (leaves bs ts).bind (leaves · us) := by
  fun_induction leaves bs ts with
  | case1 => rfl
  | case2 _ _ _ ih => exact ih
  | case3 _ _ _ ih => exact ih
  | case4 => rfl
  | case5 bs _ _ ih => simpa [leaves] using ih
  | case6 _ _ _ _ hne => simp [leaves, hne]

theorem leaves_closes (h : leaves bs (.closes b :: ts) = some cs) :
    ∃ bs', bs = b :: bs' ∧ leaves bs' ts = some cs := by
  cases bs with
  | nil => cases h
  | cons b' bs =>
    rw [leaves] at h
    split at h
    · rename_i he
      exact ⟨bs, by rw [he], h⟩
    · cases h

theorem Nested.leaves (h : Nested ts) (bs : List Bracket) : leaves bs ts = some bs := by
  induction h generalizing bs with
  | nil => rfl
  | plain _ ih => exact ih bs
  | @pair inner ts b _ _ ihinner ihts =>
    rw [Bracket.leaves, leaves_append, ihinner, Option.bind_some, Bracket.leaves, if_pos rfl, ihts]

/-- Nested tokens, the brackets that close the open ones, the innermost first, and nested tokens
between them. -/
def Segmented : List Bracket → List Token → Prop
  | [], ts => Nested ts
  | b :: bs, ts => ∃ inner rest, ts = inner ++ .closes b :: rest ∧ Nested inner ∧ Segmented bs rest

theorem Segmented.plain (h : Segmented bs ts) : Segmented bs (.plain c :: ts) := by
  cases bs with
  | nil => exact Nested.plain h
  | cons b bs =>
    obtain ⟨inner, rest, rfl, hinner, hrest⟩ := h
    exact ⟨.plain c :: inner, rest, rfl, hinner.plain, hrest⟩

/-- A bracket that is opened is paired with the one that closes it, in front of all the others. -/
theorem Segmented.opens (h : Segmented (b :: bs) ts) : Segmented bs (.opens b :: ts) := by
  obtain ⟨inner, rest, rfl, hinner, hrest⟩ := h
  cases bs with
  | nil => exact hinner.pair hrest
  | cons b' bs =>
    obtain ⟨inner', rest', rfl, hinner', hrest'⟩ := hrest
    exact ⟨.opens b :: (inner ++ .closes b :: inner'), rest', by simp, hinner.pair hinner', hrest'⟩

theorem segmented_of_leaves (h : leaves bs ts = some []) : Segmented bs ts := by
  induction ts generalizing bs with
  | nil =>
    obtain rfl := Option.some.inj h
    exact Nested.nil
  | cons token ts ih =>
    cases token with
    | plain c => exact (ih h).plain
    | opens b => exact (ih h).opens
    | closes b =>
      obtain ⟨bs, rfl, hrest⟩ := leaves_closes h
      exact ⟨[], ts, rfl, .nil, ih hrest⟩

theorem nested_iff_leaves : Nested ts ↔ leaves [] ts = some [] :=
  ⟨fun h => h.leaves [], segmented_of_leaves⟩

-- -----------------------------------------------------------------------------------------
-- The first token of a text
-- -----------------------------------------------------------------------------------------

/-- The first token of a text is determined by it, closing square brackets apart. -/
theorem Token.Read.unique {token token' : Token} (h : token.Read r) (h' : token'.Read r')
    (he : token.text ++ r = token'.text ++ r') :
    token = token' ∨ ((token = .closes .square ∨ token = .closes .doubleSquare) ∧
      (token' = .closes .square ∨ token' = .closes .doubleSquare)) := by
  -- two tokens differ in one of their characters, or the shorter one is not read in front of the rest
  rcases token with (_ | _ | _) | (_ | _ | _) | c <;>
    rcases token' with (_ | _ | _) | (_ | _ | _) | c' <;>
    simp_all [text, opening, closing, Read]
  all_goals grind

theorem Token.text_ne_nil (token : Token) : token.text ≠ [] := by
  rcases token with (_ | _ | _) | (_ | _ | _) | c <;> exact List.cons_ne_nil _ _

theorem Scanned.spelt_eq (h : Scanned ts t) : spelt ts = t := by
  induction h with
  | nil => rfl
  | cons _ _ ih => rw [spelt, List.flatMap_cons, ← spelt, ih]

theorem Scanned.eq_nil (h : Scanned ts []) : ts = [] := by
  have hspelt := h.spelt_eq
  cases ts with
  | nil => rfl
  | cons token ts => exact absurd (List.append_eq_nil_iff.mp hspelt).1 token.text_ne_nil

/-- In front of a plain character, and at the end, a bracket is read as it is meant. -/
theorem Token.read_of_isPlain {token : Token} (h : token.IsPlain = false)
    (hnext : ∀ next ∈ ts.head?, next.IsPlain = true) (hs : Scanned ts r) : token.Read r := by
  cases token with
  | plain c => cases h
  | closes b => trivial
  | opens b =>
    intro _ hr
    cases hs with
    | nil => cases hr
    | @cons _ _ next hread _ =>
      have hplain := hnext next rfl
      cases next with
      | plain c => exact hread.1 (Option.some.inj hr)
      | opens | closes => cases hplain

theorem Spaced.scanned (h : Spaced ts) : Scanned ts (spelt ts) := by
  induction h with
  | nil => exact .nil
  | plain hc _ ih => exact .cons hc ih
  | bracket hb hnext _ ih => exact .cons (Token.read_of_isPlain hb hnext ih) ih

-- -----------------------------------------------------------------------------------------
-- Texts that close what is open
-- -----------------------------------------------------------------------------------------

/-- The text closes the open brackets, the innermost one first, and all that it opens. -/
def Closes (bs : List Bracket) (t : Text) : Prop := ∃ ts, Scanned ts t ∧ leaves bs ts = some []

theorem closes_nil : Closes bs [] ↔ bs = [] := by
  constructor
  · rintro ⟨ts, hs, hleaves⟩
    obtain rfl := hs.eq_nil
    exact Option.some.inj hleaves
  · rintro rfl
    exact ⟨[], .nil, rfl⟩

/-- Tokens of the text begin with the one that the scan reads, if the open brackets allow no other. -/
theorem closes_token (token : Token) (h : token.Read r)
    (hone : ∀ b ts, (token = .closes .square ∨ token = .closes .doubleSquare) →
      leaves bs (.closes b :: ts) = some [] → token = .closes b) :
    Closes bs (token.text ++ r) ↔ ∃ ts, Scanned ts r ∧ leaves bs (token :: ts) = some [] := by
  constructor
  · rintro ⟨ts, hs, hleaves⟩
    generalize ht : token.text ++ r = t at hs
    cases hs with
    | nil => exact absurd (List.append_eq_nil_iff.mp ht).1 token.text_ne_nil
    | @cons r' ts token' hread hs =>
      have hsame : token' = token := by
        rcases h.unique hread ht with rfl | ⟨hclose, rfl | rfl⟩
        · rfl
        all_goals exact (hone _ ts hclose hleaves).symm
      subst hsame
      rw [List.append_cancel_left_eq] at ht
      exact ⟨ts, ht ▸ hs, hleaves⟩
  · rintro ⟨ts, hs, hleaves⟩
    exact ⟨token :: ts, .cons h hs, hleaves⟩

theorem closes_plain (h : (Token.plain c).Read r) : Closes bs (c :: r) ↔ Closes bs r :=
  closes_token (.plain c) h (by simp)

theorem closes_opening (h : (Token.opens b).Read r) :
    Closes bs (b.opening ++ r) ↔ Closes (b :: bs) r :=
  closes_token _ h (by simp)

theorem closes_closing : Closes (b :: bs) (b.closing ++ r) ↔ Closes bs r := by
  refine (closes_token (.closes b) trivial fun b' ts _ h => ?_).trans ?_
  · obtain ⟨_, heq, -⟩ := leaves_closes h
    rw [(List.cons.inj heq).1]
  · simp only [leaves, if_true]
    rfl

theorem exists_of_head {opened : Opened} (h : b ∈ (opened.map (·.1)).head?) :
    ∃ start opened', opened = (b, start) :: opened' := by
  cases opened with
  | nil => cases h
  | cons o opened =>
    obtain rfl := Option.some.inj h
    exact ⟨o.2, opened, rfl⟩

/-- A closing bracket that does not belong to the innermost open one. -/
theorem not_closes (h : t.head? = some ']' ∨ "\x7d\x7d".toList <+: t)
    (hno : ∀ b ∈ bs.head?, ¬ b.closing <+: t) : ¬ Closes bs t := by
  rintro ⟨ts, hs, hleaves⟩
  cases hs with
  | nil => simp at h
  | @cons r ts token hread hs =>
    cases token with
    | closes b =>
      obtain ⟨bs, rfl, -⟩ := leaves_closes hleaves
      exact hno b rfl ⟨r, rfl⟩
    | opens b => cases b <;> simp [Token.text, opening] at h
    | plain c =>
      obtain ⟨-, hc, hcurly⟩ := hread
      rcases h with h | ⟨s, h⟩
      · exact hc (by simpa [Token.text] using h)
      · obtain ⟨rfl, hr⟩ := List.cons.inj h
        have hnext : r.head? = some '\x7d' := by
          rw [show r = '\x7d' :: s from hr.symm]
          rfl
        exact hcurly (.inr rfl) hnext

/-- The scan keeps the open brackets, and stops at the first closing bracket that is none of theirs. -/
theorem scan_eq_none_iff (t : Text) (i : Nat) (opened : Opened) :
    scan t i opened = none ↔ Closes (opened.map (·.1)) t := by
  fun_induction scan t i opened with
  | case1 => simp [closes_nil]
  | case2 => simp [closes_nil]
  | case3 rest i opened ih => exact ih.trans (closes_opening (b := .doubleSquare) nofun).symm
  | case4 rest i opened ih => exact ih.trans (closes_opening (b := .doubleCurly) nofun).symm
  | case5 rest i start opened ih => exact ih.trans (closes_closing (b := .doubleSquare)).symm
  | case6 rest i start opened ih => exact ih.trans (closes_closing (b := .doubleCurly)).symm
  | case7 rest i opened hcurly =>
    refine iff_of_false (by simp) (not_closes (.inr ⟨rest, rfl⟩) fun b hb => ?_)
    obtain ⟨start, opened, rfl⟩ := exists_of_head hb
    cases b with
    | doubleCurly => exact (hcurly start opened rfl).elim
    | doubleSquare | square => simp [closing]
  | case8 rest i opened hdouble ih =>
    refine ih.trans (closes_opening (b := .square) fun _ hnext => ?_).symm
    obtain ⟨rest, rfl⟩ := List.head?_eq_some_iff.mp hnext
    exact hdouble rest rfl
  | case9 rest i start opened _ ih => exact ih.trans (closes_closing (b := .square)).symm
  | case10 rest i opened hsquare hdouble =>
    refine iff_of_false (by simp) (not_closes (.inl rfl) fun b hb => ?_)
    obtain ⟨start, opened, rfl⟩ := exists_of_head hb
    cases b with
    | square => exact (hsquare start opened rfl).elim
    | doubleCurly => simp [closing]
    | doubleSquare =>
      rintro ⟨r, hr⟩
      exact hdouble r start opened rfl (List.cons.inj hr).2.symm
  | case11 c rest i opened _ hopens _ hcloses hopening hclosing ih =>
    refine ih.trans (closes_plain ⟨hopening, hclosing, fun hcurly hnext => ?_⟩).symm
    obtain ⟨rest, rfl⟩ := List.head?_eq_some_iff.mp hnext
    rcases hcurly with rfl | rfl
    · exact hopens rest rfl rfl
    · exact hcloses rest rfl rfl

-- -----------------------------------------------------------------------------------------
-- What is reported
-- -----------------------------------------------------------------------------------------

theorem foldl_byteSize (t : Text) (n : Nat) :
    t.foldl (fun n c => n + c.utf8Size) n = n + Text.byteSize t := by
  induction t generalizing n with
  | nil => rfl
  | cons c t ih =>
    rw [Text.byteSize, List.foldl_cons, List.foldl_cons, ih, ih (0 + _), Nat.zero_add, Nat.add_assoc]

theorem byteSize_append (u v : Text) : Text.byteSize (u ++ v) = Text.byteSize u + Text.byteSize v := by
  rw [Text.byteSize, List.foldl_append, foldl_byteSize]
  rfl

theorem byteSize_singleton (c : Char) : Text.byteSize [c] = c.utf8Size := Nat.zero_add _

theorem length_eq_byteSize (b : Bracket) : b.length = Text.byteSize b.opening := by
  cases b <;> rfl

/-- The bracket stands in the text, with its place and its length in bytes. -/
def Covers (t : Text) (r : UnbalancedBracket) : Prop :=
  ∃ u w v b, t = u ++ (w ++ v) ∧ (w = opening b ∨ w = closing b) ∧
    r.position = Text.byteSize u ∧ r.length = Text.byteSize w

/-- Where the brackets on the stack stand in the text. -/
def Stand (t : Text) (opened : Opened) : Prop :=
  ∀ o ∈ opened, ∃ u v, t = u ++ (o.1.opening ++ v) ∧ o.2 = Text.byteSize u

theorem Stand.covers (h : Stand t ((b, start) :: opened)) : Covers t ⟨start, b.length⟩ := by
  obtain ⟨u, v, ht, hstart⟩ := h (b, start) List.mem_cons_self
  exact ⟨u, b.opening, v, b, ht, .inl rfl, hstart, length_eq_byteSize b⟩

theorem Stand.tail (h : Stand t (o :: opened)) : Stand t opened := fun o' ho' =>
  h o' (List.mem_cons_of_mem o ho')

theorem Stand.opens (h : Stand t opened) (ht : t = u ++ (opening b ++ v))
    (hi : i = Text.byteSize u) : Stand t ((b, i) :: opened) :=
  List.forall_mem_cons.mpr ⟨⟨u, v, ht, hi⟩, h⟩

theorem Stand.report (h : Stand t opened) (ht : t = u ++ (closing b ++ v))
    (hi : i = Text.byteSize u) : Covers t (report opened i (Text.byteSize (closing b))) := by
  cases opened with
  | nil => exact ⟨u, closing b, v, b, ht, .inr rfl, hi, rfl⟩
  | cons o opened => exact h.covers

/-- The place behind a piece that is read. -/
theorem read_on {t u w r : Text} {i : Nat} (ht : t = u ++ (w ++ r)) (hi : i = Text.byteSize u) :
    t = (u ++ w) ++ r ∧ i + Text.byteSize w = Text.byteSize (u ++ w) :=
  ⟨by rw [ht, List.append_assoc], by rw [byteSize_append, hi]⟩

/-- The scan has read `u` and comes to what is left of the text, with the open brackets. -/
theorem covers_of_scan (ht : text = u ++ t) (hi : i = Text.byteSize u) (h : Stand text opened)
    (hs : scan t i opened = some r) : Covers text r := by
  fun_induction scan t i opened generalizing u with
  | case1 => cases hs
  | case2 i b start opened =>
    cases hs
    exact h.covers
  | case3 rest i opened ih =>
    obtain ⟨ht', hi'⟩ := read_on (w := opening .doubleSquare) ht hi
    exact ih ht' hi' (h.opens (b := .doubleSquare) ht hi) hs
  | case4 rest i opened ih =>
    obtain ⟨ht', hi'⟩ := read_on (w := opening .doubleCurly) ht hi
    exact ih ht' hi' (h.opens (b := .doubleCurly) ht hi) hs
  | case5 rest i start opened ih =>
    obtain ⟨ht', hi'⟩ := read_on (w := closing .doubleSquare) ht hi
    exact ih ht' hi' h.tail hs
  | case6 rest i start opened ih =>
    obtain ⟨ht', hi'⟩ := read_on (w := closing .doubleCurly) ht hi
    exact ih ht' hi' h.tail hs
  | case7 rest i opened _ =>
    cases hs
    exact h.report (b := .doubleCurly) ht hi
  | case8 rest i opened _ ih =>
    obtain ⟨ht', hi'⟩ := read_on (w := opening .square) ht hi
    exact ih ht' hi' (h.opens (b := .square) ht hi) hs
  | case9 rest i start opened _ ih =>
    obtain ⟨ht', hi'⟩ := read_on (w := closing .square) ht hi
    exact ih ht' hi' h.tail hs
  | case10 rest i opened _ _ =>
    cases hs
    exact h.report (b := .square) ht hi
  | case11 c rest i opened _ _ _ _ _ _ ih =>
    obtain ⟨ht', hi'⟩ := read_on (w := [c]) ht hi
    rw [byteSize_singleton] at hi'
    exact ih ht' hi' h hs

-- -----------------------------------------------------------------------------------------
-- The scan of a whole text
-- -----------------------------------------------------------------------------------------

theorem unbalancedBracket?_eq_none_iff :
    unbalancedBracket? t = none ↔ ∃ ts, Scanned ts t ∧ Nested ts := by
  rw [unbalancedBracket?, scan_eq_none_iff]
  simp only [Closes, nested_iff_leaves, List.map_nil]

/-- Nothing is reported exactly where all brackets that a scan meets are in pairs, which is so if they
are nested and have plain characters between them. What is reported is a bracket of the text. -/
theorem unbalancedBracket?_pairs (t : Text) :
    (unbalancedBracket? t = none ↔ ∃ ts, Scanned ts t ∧ Nested ts) ∧
      (∀ ts, spelt ts = t → Nested ts → Spaced ts → unbalancedBracket? t = none) ∧
      ∀ r ∈ unbalancedBracket? t, Covers t r := by
  refine ⟨unbalancedBracket?_eq_none_iff, ?_, fun r hr => ?_⟩
  · rintro ts rfl hnested hspaced
    exact unbalancedBracket?_eq_none_iff.mpr ⟨ts, hspaced.scanned, hnested⟩
  · exact covers_of_scan (u := []) rfl rfl (by simp [Stand]) hr

/-- A link in a template. -/
def linkInTemplate : List Token :=
  [.opens .doubleCurly, .plain 'b', .plain '|', .opens .doubleSquare, .plain 'c',
    .closes .doubleSquare, .plain '\x7d', .plain ' ', .closes .doubleCurly]

theorem unbalancedBracket?_pairs_linkInTemplate :
    spelt linkInTemplate = "\x7b\x7bb|[[c]]\x7d \x7d\x7d".toList ∧ Nested linkInTemplate ∧
      Spaced linkInTemplate ∧ unbalancedBracket? "\x7b\x7bb|[[c]]\x7d \x7d\x7d".toList = none := by
  have hspelt : spelt linkInTemplate = "\x7b\x7bb|[[c]]\x7d \x7d\x7d".toList := by decide
  have hnested : Nested linkInTemplate := nested_iff_leaves.mpr rfl
  have hlink : Spaced [.opens .doubleSquare, .plain 'c', .closes .doubleSquare, .plain '\x7d',
      .plain ' ', .closes .doubleCurly] :=
    .bracket rfl (by decide) (.plain (by decide) (.bracket rfl (by decide)
      (.plain (by decide) (.plain (by decide) (.bracket rfl (by decide) .nil)))))
  have hspaced : Spaced linkInTemplate :=
    .bracket rfl (by decide) (.plain (by decide) (.plain (by decide) hlink))
  exact ⟨hspelt, hnested, hspaced, (unbalancedBracket?_pairs _).2.1 _ hspelt hnested hspaced⟩

-- -----------------------------------------------------------------------------------------
-- Counting square brackets
-- -----------------------------------------------------------------------------------------

/-- The front of a text never closes more square brackets than it opens, and the text closes all. -/
structure Level (t : Text) : Prop where
  front : ∀ p, p <+: t → p.count ']' ≤ p.count '['
  total : t.count ']' = t.count '['

theorem level_of_not_mem (ho : '[' ∉ t) (hc : ']' ∉ t) : Level t where
  front p hp := by
    rw [List.count_eq_zero.mpr fun h => hc (hp.subset h)]
    exact Nat.zero_le _
  total := by rw [List.count_eq_zero.mpr ho, List.count_eq_zero.mpr hc]

theorem Level.append (hu : Level u) (hv : Level v) : Level (u ++ v) where
  front p hp := by
    rcases prefix_append_cases hp with hp | ⟨q, rfl, hq⟩
    · exact hu.front p hp
    · rw [List.count_append, List.count_append, hu.total]
      exact Nat.add_le_add_left (hv.front q hq) _
  total := by rw [List.count_append, List.count_append, hu.total, hv.total]

theorem level_flatten {ts : List Text} (h : ∀ t ∈ ts, Level t) : Level ts.flatten := by
  induction ts with
  | nil => exact level_of_not_mem List.not_mem_nil List.not_mem_nil
  | cons t ts ih =>
    rw [List.forall_mem_cons] at h
    exact h.1.append (ih h.2)

/-- Inside the text, some square bracket is open at every place. -/
def Deep (t : Text) : Prop := ∀ p, p <+: t → p ≠ [] → p ≠ t → p.count ']' < p.count '['

theorem Level.deep_single (h : Level t) : Deep ('[' :: (t ++ [']'])) := by
  rintro p hp hne hwhole
  obtain ⟨c, p, rfl⟩ := List.exists_cons_of_ne_nil hne
  rw [List.cons_prefix_cons] at hp
  obtain ⟨rfl, hp⟩ := hp
  rcases List.prefix_concat_iff.mp hp with rfl | hp
  · exact absurd rfl hwhole
  · have hfront := h.front p hp
    simp only [List.count_cons, beq_iff_eq, Char.reduceEq, if_true, if_false]
    omega

theorem Level.single (h : Level t) : Level ('[' :: (t ++ [']'])) where
  front p hp := by
    rcases eq_or_ne p [] with rfl | hne
    · simp
    rcases eq_or_ne p ('[' :: (t ++ [']'])) with rfl | hwhole
    · simp [h.total]
    · exact Nat.le_of_lt (h.deep_single p hp hne hwhole)
  total := by simp [h.total]

theorem Level.double (h : Level t) : Level ("[[".toList ++ (t ++ "]]".toList)) := by
  have heq : "[[".toList ++ (t ++ "]]".toList) = '[' :: ('[' :: (t ++ [']']) ++ [']']) := by simp
  rw [heq]
  exact h.single.single

theorem Level.deep (h : Level t) : Deep ("[[".toList ++ (t ++ "]]".toList)) := by
  have heq : "[[".toList ++ (t ++ "]]".toList) = '[' :: ('[' :: (t ++ [']']) ++ [']']) := by simp
  rw [heq]
  exact h.single.deep_single

/-- The end of a level text opens no more brackets than it closes. -/
theorem Level.behind (h : Level t) (hs : s <:+ t) : s.count '[' ≤ s.count ']' := by
  obtain ⟨p, rfl⟩ := hs
  have hfront := h.front p (List.prefix_append p s)
  have htotal := h.total
  rw [List.count_append, List.count_append] at htotal
  omega

/-- Where level texts join, no text comes about in which a bracket is open at every place. -/
theorem free_flatten {L : Text → Prop} {ts : List Text} (hL : ∀ w, L w → w ≠ [] ∧ Deep w)
    (hlevel : ∀ t ∈ ts, Level t) (hfree : ∀ t ∈ ts, Free L t) : Free L ts.flatten := by
  induction ts with
  | nil => exact fun w hw hi => (hL w hw).1 (List.infix_nil.mp hi)
  | cons t ts ih =>
    rw [List.forall_mem_cons] at hlevel hfree
    intro w hw hi
    rw [List.flatten_cons, List.infix_append_iff_ne_nil] at hi
    rcases hi with hi | hi | ⟨a, b, ha, hb, rfl, hsuffix, -⟩
    · exact hfree.1 w hw hi
    · exact ih hlevel.2 hfree.2 w hw hi
    · have hdeep := (hL _ hw).2 a (List.prefix_append a b) ha (by simpa using hb)
      exact absurd hdeep (Nat.not_lt.mpr (hlevel.1.behind hsuffix))

theorem Scanned.plain_mem (h : Scanned ts t) (hc : .plain c ∈ ts) : c ≠ '[' ∧ c ≠ ']' := by
  induction h with
  | nil => cases hc
  | cons hread _ ih =>
    rcases List.mem_cons.mp hc with rfl | hc
    · exact ⟨hread.1, hread.2.1⟩
    · exact ih hc

theorem Nested.level (h : Nested ts) (hplain : ∀ c, .plain c ∈ ts → c ≠ '[' ∧ c ≠ ']') :
    Level (spelt ts) := by
  induction h with
  | nil => exact level_of_not_mem List.not_mem_nil List.not_mem_nil
  | @plain ts c _ ih =>
    obtain ⟨ho, hc⟩ := hplain c List.mem_cons_self
    exact (level_of_not_mem (t := [c]) (by simpa using ho.symm) (by simpa using hc.symm)).append
      (ih fun d hd => hplain d (List.mem_cons_of_mem _ hd))
  | @pair inner ts b _ _ ihinner ihts =>
    have hinner := ihinner fun c hc => hplain c (by simp [hc])
    have hts := ihts fun c hc => hplain c (by simp [hc])
    have hpair : Level (b.opening ++ (spelt inner ++ b.closing)) := by
      cases b with
      | doubleSquare => exact hinner.double
      | square => exact hinner.single
      | doubleCurly =>
        have hmark : ∀ t : Text, t = opening .doubleCurly ∨ t = closing .doubleCurly → Level t := by
          rintro t (rfl | rfl) <;> exact level_of_not_mem (by decide) (by decide)
        exact (hmark _ (.inl rfl)).append (hinner.append (hmark _ (.inr rfl)))
    have heq : spelt (.opens b :: (inner ++ .closes b :: ts)) =
        b.opening ++ (spelt inner ++ b.closing) ++ spelt ts := by
      simp [spelt, Token.text]
    rw [heq]
    exact hpair.append hts

/-- Brackets in pairs are level. -/
theorem level_of_unbalancedBracket? (h : unbalancedBracket? t = none) : Level t := by
  obtain ⟨ts, hs, hnested⟩ := unbalancedBracket?_eq_none_iff.mp h
  rw [← hs.spelt_eq]
  exact hnested.level fun c => hs.plain_mem

end Wikitext.Bracket
