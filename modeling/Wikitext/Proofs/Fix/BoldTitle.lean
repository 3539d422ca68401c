import Wikitext.Fix.BoldTitle
import Wikitext.Proofs.Brackets.Pairs
import Wikitext.Proofs.Fix.Unmasked
import Wikitext.Proofs.Pattern.Pieces
import Wikitext.Proofs.Text.Basic

/-!
# Where the title is put in bold

The first mention of a title is looked for in the first line of prose, and brackets are counted from
the beginning of that line on. Where no single square brackets stand in between, counting finds every
link and every template that is opened there, so the mention lies inside none if the lines above it
have their brackets in pairs (`boldTitle_outside`). What is opened in a line above and not yet closed
is not seen (`boldTitle_inTemplate`).
-/

namespace Wikitext

open Pattern

-- -----------------------------------------------------------------------------------------
-- Counting brackets
-- -----------------------------------------------------------------------------------------

namespace Text

variable {piece : Text}

theorem occurrences_nil (hpiece : piece ≠ []) : occurrences piece [] = 0 := by
  rw [occurrences, cut_nil hpiece]
  rfl

theorem occurrences_piece (hpiece : piece ≠ []) (t : Text) :
    occurrences piece (piece ++ t) = occurrences piece t + 1 := by
  rw [occurrences, cut_piece hpiece, List.length_cons, length_cut hpiece, Nat.add_sub_cancel]

theorem occurrences_cons (hpiece : piece ≠ []) (hno : ¬ piece <+: c :: t) :
    occurrences piece (c :: t) = occurrences piece t := by
  obtain ⟨part, parts, ht⟩ := exists_cut hpiece t
  rw [occurrences, occurrences, cut_cons hpiece hno ht, ht, List.length_cons, List.length_cons]

end Text

namespace Bracket

/-- What is opened is closed or still open. -/
theorem count_leaves (h : leaves bs ts = some cs) (b : Bracket) :
    bs.count b + ts.count (.opens b) = cs.count b + ts.count (.closes b) := by
  fun_induction leaves bs ts with
  | case1 =>
    obtain rfl := Option.some.inj h
    rfl
  | case2 bs c ts ih => simpa using ih h
  | case3 bs b' ts ih =>
    have hcount := ih h
    simp only [List.count_cons, beq_iff_eq, Token.opens.injEq, reduceCtorEq, if_false] at hcount ⊢
    omega
  | case4 => cases h
  | case5 bs b' ts ih =>
    have hcount := ih h
    simp only [List.count_cons, beq_iff_eq, Token.closes.injEq, reduceCtorEq, if_false] at hcount ⊢
    omega
  | case6 => cases h

/-- The token is a bracket of two characters. -/
def Token.IsDouble : Token → Bool
  | .opens b | .closes b => b != .square
  | .plain _ => false

/-- The token is a single square bracket. -/
def Token.IsSingle : Token → Bool
  | .opens b | .closes b => b == .square
  | .plain _ => false

theorem Token.text_of_isDouble {token : Token} (h : token.IsDouble = true) :
    ∃ d ∈ ['[', ']', '\x7b', '\x7d'], token.text = [d, d] := by
  rcases token with (_ | _ | _) | (_ | _ | _) | c
  · exact ⟨'[', by simp, rfl⟩
  · exact ⟨'\x7b', by simp, rfl⟩
  · cases h
  · exact ⟨']', by simp, rfl⟩
  · exact ⟨'\x7d', by simp, rfl⟩
  · cases h
  · cases h

/-- No bracket of two characters begins in another token. -/
theorem Token.occurrences_other {token other : Token} (h : token.IsDouble = true)
    (hread : other.Read r) (hsingle : other.IsSingle = false) (hne : other ≠ token) :
    Text.occurrences token.text (other.text ++ r) = Text.occurrences token.text r := by
  have hstep : ∀ c t, ¬ token.text <+: c :: t →
      Text.occurrences token.text (c :: t) = Text.occurrences token.text t :=
    fun c t => Text.occurrences_cons token.text_ne_nil
  cases other with
  | plain c =>
    -- a bracket of two characters that begins with `c` needs another `c` behind it
    obtain ⟨d, hd, htext⟩ := Token.text_of_isDouble h
    refine hstep c r ?_
    rintro ⟨s, hs⟩
    rw [htext] at hs
    obtain ⟨rfl, rfl⟩ := List.cons.inj hs
    obtain ⟨hopens, hcloses, hcurly⟩ := hread
    simp_all
  | opens b | closes b =>
    rcases token with (_ | _ | _) | (_ | _ | _) | _ <;> cases b <;>
      simp_all [text, opening, closing, IsDouble, IsSingle]

/-- Counting the occurrences of a bracket of two characters counts the tokens. -/
theorem Scanned.occurrences_eq (h : Scanned ts t) (hsingle : ∀ token ∈ ts, token.IsSingle = false)
    {token : Token} (htoken : token.IsDouble = true) :
    Text.occurrences token.text t = ts.count token := by
  induction h with
  | nil => exact Text.occurrences_nil token.text_ne_nil
  | @cons r ts other hread _ ih =>
    rw [List.forall_mem_cons] at hsingle
    by_cases hsame : other = token
    · rw [hsame, Text.occurrences_piece token.text_ne_nil, List.count_cons_self, ih hsingle.2]
    · rw [Token.occurrences_other htoken hread hsingle.1 hsame, ih hsingle.2,
        List.count_cons_of_ne hsame]

end Bracket

-- -----------------------------------------------------------------------------------------
-- Brackets in front of a place
-- -----------------------------------------------------------------------------------------

namespace Fix

open Wikitext.Bracket (Token Scanned Nested leaves count_leaves)

theorem isOpen_eq_false : isOpen opening closing t = false ↔
    Text.occurrences opening.toList t ≤ Text.occurrences closing.toList t := by
  rw [isOpen, decide_eq_false_iff_not, Nat.not_lt]

/-- Outside links and templates, a bracket of two characters is closed as often as it is opened. -/
theorem count_of_isOutside (h : isOutside t = true) (hs : Scanned ts t)
    (hsingle : ∀ token ∈ ts, token.IsSingle = false) (b : Bracket) :
    ts.count (.opens b) ≤ ts.count (.closes b) := by
  simp only [isOutside, Bool.and_eq_true, Bool.not_eq_true', isOpen_eq_false] at h
  cases b with
  | doubleSquare =>
    rw [← hs.occurrences_eq hsingle rfl, ← hs.occurrences_eq hsingle rfl]
    exact h.1
  | doubleCurly =>
    rw [← hs.occurrences_eq hsingle rfl, ← hs.occurrences_eq hsingle rfl]
    exact h.2
  | square =>
    have hnone : Token.opens .square ∉ ts := fun hmem => nomatch hsingle _ hmem
    rw [List.count_eq_zero.mpr hnone]
    exact Nat.zero_le _

/-- What is open behind such a text was open in front of it. -/
theorem count_of_leaves (h : isOutside t = true) (hs : Scanned ts t)
    (hsingle : ∀ token ∈ ts, token.IsSingle = false) (hleaves : leaves bs ts = some cs) (b : Bracket) :
    cs.count b ≤ bs.count b := by
  have hcount := count_leaves hleaves b
  have hle := count_of_isOutside h hs hsingle b
  omega

-- -----------------------------------------------------------------------------------------
-- The line of the mention
-- -----------------------------------------------------------------------------------------

/-- Where the first heading begins. -/
def leadLength (t : Text) : Nat :=
  match firstHeading.find? t with
  | some m => m.offset t.length
  | none => t.length

/-- The text in front of the first heading. -/
def lead (t : Text) : Text := t.take (leadLength t)

/-- A mention of the title in a line: what stands in front of it, the mention and the rest. -/
theorem exists_mention (h : boldMention? title line = some line') :
    ∃ before named after, line = before ++ (named ++ after) ∧
      line' = before ++ (bold named ++ after) ∧ isOutside before = true := by
  obtain ⟨m, hm, rfl⟩ := Option.map_eq_some_iff.mp h
  obtain ⟨p, hp⟩ : ∃ p : Pattern, mention title = p.compile := by
    unfold mention
    exact ⟨_, rfl⟩
  rw [hp] at hm
  obtain ⟨_, before, named, hline, htakes⟩ := takes_of_mem_matches (List.mem_of_find?_eq_some hm)
  have hoffset : m.offset line.length = before.length := by
    rw [Match.offset, htakes.startLeft, hline]
    simp only [List.length_append]
    omega
  have hfront : line.take (m.offset line.length) = before := by
    rw [hoffset, hline, List.take_left]
  have hout := List.find?_some hm
  refine ⟨before, named, m.after, hline, ?_, by rwa [hfront] at hout⟩
  rw [hfront, htakes.text, List.append_assoc]

/-- The lines up to the first one of prose stay, and so do those behind it. -/
theorem exists_line (h : boldInLines? title lines = some lines') :
    ∃ front line line' below, lines = front ++ line :: below ∧ lines' = front ++ line' :: below ∧
      (∀ l ∈ front, isProse l = false) ∧ isProse line = true ∧
      boldMention? title line = some line' := by
  induction lines generalizing lines' with
  | nil => cases h
  | cons line lines ih =>
    rw [boldInLines?] at h
    split at h
    · rename_i hprose
      obtain ⟨line', hline, rfl⟩ := Option.map_eq_some_iff.mp h
      exact ⟨[], line, line', lines, rfl, rfl, by simp, hprose, hline⟩
    · rename_i hprose
      obtain ⟨lines', hlines, rfl⟩ := Option.map_eq_some_iff.mp h
      obtain ⟨front, l, l', below, rfl, rfl, hfront, hl, hbold⟩ := ih hlines
      exact ⟨line :: front, l, l', below, rfl, rfl,
        List.forall_mem_cons.mpr ⟨Bool.eq_false_iff.mpr hprose, hfront⟩, hl, hbold⟩

/-- The title is put in bold where it is mentioned in the first line of prose: the lines above that
line, what stands in front of the mention in it, the mention, and the rest of the text. -/
structure Emboldened (title t above before named after : Text) : Prop where
  text : t = above ++ (before ++ (named ++ after))
  result : boldTitle title t = above ++ (before ++ (bold named ++ after))
  lines : ∃ front rest below, linesOf (lead t) = front ++ (before ++ (named ++ rest)) :: below ∧
    front.flatten = above ∧ (∀ line ∈ front, isProse line = false) ∧
    isProse (before ++ (named ++ rest)) = true
  outside : isOutside before = true

/-- If the lead has no link of the article to itself, the lines of the lead are gone through. -/
theorem boldTitle_eq (hlink : (selfLink (Text.trim title)).find? (lead t) = none) :
    boldTitle title t =
      if (Text.trim title).isEmpty then t
      else if Text.includes (lead t) boldMark then t
      else match boldInLines? (Text.trim title) (linesOf (lead t)) with
        | some lines => lines.flatten ++ t.drop (leadLength t)
        | none => t := by
  calc boldTitle title t = if (Text.trim title).isEmpty then t
      else if Text.includes (lead t) boldMark then t
      else match (selfLink (Text.trim title)).find? (lead t) with
        | some m =>
          (lead t).take (m.offset (lead t).length) ++
            bold (((m.group? 1).orElse fun _ => m.group? 2).getD []) ++ m.after ++
              t.drop (leadLength t)
        | none =>
          match boldInLines? (Text.trim title) (linesOf (lead t)) with
          | some lines => lines.flatten ++ t.drop (leadLength t)
          | none => t := rfl
    _ = _ := by rw [hlink]

theorem exists_lines (hlink : (selfLink (Text.trim title)).find? (lead t) = none)
    (hne : boldTitle title t ≠ t) : ∃ lines,
      boldInLines? (Text.trim title) (linesOf (lead t)) = some lines ∧
        boldTitle title t = lines.flatten ++ t.drop (leadLength t) := by
  rw [boldTitle_eq hlink] at hne ⊢
  have htitle : ¬ (Text.trim title).isEmpty = true := fun h => hne (if_pos h)
  rw [if_neg htitle] at hne ⊢
  have hmark : ¬ Text.includes (lead t) boldMark = true := fun h => hne (if_pos h)
  rw [if_neg hmark] at hne ⊢
  cases hlines : boldInLines? (Text.trim title) (linesOf (lead t)) with
  | none =>
    rw [hlines] at hne
    exact absurd rfl hne
  | some lines => exact ⟨lines, rfl, rfl⟩

/-- If the lead has no link of the article to itself, what is put in bold is a mention. -/
theorem exists_emboldened (hlink : (selfLink (Text.trim title)).find? (lead t) = none)
    (hne : boldTitle title t ≠ t) : ∃ above before named after,
      Emboldened title t above before named after := by
  obtain ⟨lines, hlines, hresult⟩ := exists_lines hlink hne
  obtain ⟨front, line, line', below, hlead, rfl, hfront, hprose, hline⟩ := exists_line hlines
  obtain ⟨before, named, rest, rfl, rfl, hout⟩ := exists_mention hline
  refine ⟨front.flatten, before, named, rest ++ (below.flatten ++ t.drop (leadLength t)),
    ?_, ?_, ⟨front, rest, below, hlead, rfl, hfront, hprose⟩, hout⟩
  · calc t = lead t ++ t.drop (leadLength t) := (List.take_append_drop _ t).symm
      _ = (linesOf (lead t)).flatten ++ t.drop (leadLength t) := by rw [flatten_linesOf]
      _ = _ := by simp [hlead]
  · rw [hresult]
    simp

/-- A mention that is put in bold lies in no link and no template that is open there, if the brackets
in the lines above are in pairs and no single square bracket stands in front of it in its line. -/
theorem boldTitle_outside (hlink : (selfLink (Text.trim title)).find? (lead t) = none)
    (hne : boldTitle title t ≠ t) : ∃ above before named after,
      Emboldened title t above before named after ∧
        ∀ ts us cs, Scanned ts above → Nested ts → Scanned us before →
          (∀ token ∈ us, token.IsSingle = false) → leaves [] (ts ++ us) = some cs → cs = [] := by
  obtain ⟨above, before, named, after, h⟩ := exists_emboldened hlink hne
  refine ⟨above, before, named, after, h, fun ts us cs _ hnested hus hsingle hleaves => ?_⟩
  rw [Wikitext.Bracket.leaves_append, hnested.leaves, Option.bind_some] at hleaves
  refine List.eq_nil_iff_forall_not_mem.mpr fun b hb => ?_
  have hcount : cs.count b ≤ 0 := count_of_leaves h.outside hus hsingle hleaves b
  exact absurd (List.count_pos_iff.mpr hb) (Nat.not_lt.mpr hcount)

/-- A template that is opened in a line above is not seen. -/
theorem boldTitle_inTemplate :
    unbalancedBracket? "\x7b\x7bQuote|text=\n".toList = some ⟨0, 2⟩ ∧
      boldTitle "Paris".toList "\x7b\x7bQuote|text=\nParis is a feast.\n\x7d\x7d".toList =
        "\x7b\x7bQuote|text=\n'''Paris''' is a feast.\n\x7d\x7d".toList := by
  decide +kernel

end Fix

end Wikitext
