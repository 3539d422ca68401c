import Wikitext.Proofs.Pattern.Shape
import Wikitext.Proofs.Pattern.Words
import Wikitext.Proofs.Text.Kinds

/-!
# Matches and what stands around them

A pattern with anchors reads a piece of a text or not, depending on what stands around it. A search
passes over a place only if nothing can be read there (`Vacant`); so a text with its matches replaced
is the text, up to its first match, with that match replaced, and so on behind it
(`replaces_replaceAll`). A pattern that asks for word boundaries and for nothing else of its
surroundings cannot tell characters of one kind around it apart (`Reads.around`).
-/

namespace Wikitext

open Pattern Regex

-- -----------------------------------------------------------------------------------------
-- Places that a search passes over
-- -----------------------------------------------------------------------------------------

/-- Nothing that the pattern reads begins in `u`, between the character `b` and the text `r`. -/
def Vacant (p : Pattern) (b : Option Char) (u r : Text) : Prop :=
  ∀ a k w s gs, u = a ++ k → k ≠ [] → k ++ r = w ++ s → ¬ p.Reads (lastOf b a) w s gs

variable {p : Pattern} {f : Match → Text}

/-- Nothing begins in the text. -/
theorem vacant_iff (hn : p.nullable = false) :
    Vacant p b t [] ↔ ∀ a w r gs, t = a ++ (w ++ r) → ¬ p.Reads (lastOf b a) w r gs := by
  constructor
  · intro h a w r gs ht hreads
    refine h a (w ++ r) w r gs ht (fun hnil => ?_) (List.append_nil _) hreads
    exact hreads.ne_nil hn (List.append_eq_nil_iff.mp hnil).1
  · intro h a k w r gs ht _ hk
    rw [List.append_nil] at hk
    exact h a w r gs (hk ▸ ht)

/-- No word of a pattern stands in a text that a search passes over. -/
theorem Vacant.free (h : Vacant p b u r) (hp : p.Lexical) : Free p.Words u := by
  rintro w hw ⟨a, s, rfl⟩
  have hne := hp.ne_nil w hw
  obtain ⟨gs, hw⟩ := hw
  exact h a (w ++ s) w (s ++ r) gs (by simp) (by simp [hne]) (by simp)
    (hw.anywhere hp.anchorless _ _)

theorem Vacant.behind (h : Vacant p b (u ++ v) r) : Vacant p (lastOf b u) v r := by
  rintro a k w s gs rfl hk hw
  rw [← lastOf_append]
  exact h (u ++ a) k w s gs (by simp) hk hw

/-- There is one place in a text where something begins and in front of which nothing does. -/
theorem Vacant.eq_of_reads (h : Vacant p b u (w ++ r)) (h' : Vacant p b u' (w' ++ r'))
    (hw : p.Reads (lastOf b u) w r gs) (hw' : p.Reads (lastOf b u') w' r' gs')
    (heq : u ++ (w ++ r) = u' ++ (w' ++ r')) : u = u' := by
  rcases List.append_eq_append_iff.mp heq with ⟨k, rfl, hk⟩ | ⟨k, rfl, hk⟩
  · obtain rfl : k = [] := by_contra fun hne => h' u k w r gs rfl hne hk.symm hw
    exact (List.append_nil u).symm
  · obtain rfl : k = [] := by_contra fun hne => h u' k w' r' gs' rfl hne hk.symm hw'
    exact List.append_nil u'

theorem Regex.Quiet.vacant (hp : p.steady = true) (hc : c.In t) (hq : Quiet t p.compile c left)
    (hr : c.rest = u ++ r) (hleft : ∀ n ∈ left, n ≤ r.length) : Vacant p c.before u r := by
  rintro a k w s gs rfl hk hw
  have hpos := List.length_pos_iff.mpr hk
  refine hq.not_reads hp hc (r := s) (by rw [hr, List.append_assoc, hw]) fun n hn => ?_
  have hle := hleft n hn
  rw [← hw, List.length_append]
  omega

/-- A search finds nothing only where there is nothing to read. -/
theorem Regex.vacant_of_find?_none (hp : p.steady = true) (h : p.compile.find? t = none) :
    Vacant p none t [] := by
  have hfind := searchFrom_finding hp (.start t) (Memo.sound_empty t p.compile)
  rw [find?, findFrom?] at h
  generalize p.compile.searchFrom _ _ _ = result at hfind h
  cases hfind with
  | hit => cases h
  | nowhere hq => exact hq.vacant hp (.start t) (List.append_nil t).symm (by simp)

theorem Regex.pieces_of_not_isMatch {r : Regex} (h : r.isMatch t = false) : r.pieces t = [.kept t] := by
  rw [isMatch, find?, findFrom?] at h
  rw [pieces, piecesFrom]
  cases hs : r.searchFrom (Cursor.ofText t).rest (Cursor.ofText t) { marks := r.marks } with
  | error => rfl
  | ok result =>
    rw [hs] at h
    cases h

/-- There is nothing to read in front of what a search finds. -/
theorem Regex.vacant_of_find? (hp : p.steady = true) (h : p.compile.find? t = some m)
    (hsplit : Splits p t m u w) : Vacant p none u (w ++ m.after) := by
  have hfind := searchFrom_finding hp (.start t) (Memo.sound_empty t p.compile)
  rw [find?, findFrom?] at h
  generalize p.compile.searchFrom _ _ _ = result at hfind h
  cases hfind with
  | nowhere => cases h
  | hit hm =>
    cases h
    refine hm.quiet.vacant hp (.start t) hsplit.text fun n hn => ?_
    obtain rfl := Option.some.inj hn
    rw [List.length_append, ← hsplit.takes.startLeft]

-- -----------------------------------------------------------------------------------------
-- A text with its matches replaced
-- -----------------------------------------------------------------------------------------

/-- The text, which stands behind `b`, is cut up at the matches that a search finds, each with what
stands before it. -/
inductive Searched (p : Pattern) : Option Char → Text → List (Text × Match) → Text → Prop
  | rest : Vacant p b t [] → Searched p b t [] t
  | hit : Vacant p b u (w ++ r) → Takes p m (lastOf b u) w r →
      Searched p (lastOf (lastOf b u) w) r parts tail →
      Searched p b (u ++ (w ++ r)) ((u, m) :: parts) tail

theorem searched_of_found (hp : p.steady = true) (hc : c.In t) (h : Found t p.compile c ps)
    (hcuts : Cuts p c.before c.rest ps) :
    ∃ parts tail, Searched p c.before c.rest parts tail ∧ ps = piecesOf parts tail := by
  induction h with
  | @last c hq =>
    exact ⟨[], c.rest, .rest (hq.vacant hp hc (List.append_nil _).symm (by simp)), rfl⟩
  | @hit c m ps u hu hm _ ih =>
    have hway := List.mem_of_head? hm.first
    have hstop : m.stop.In t := (Program.steady_compile hp _).in_of_mem_ways hm.inText _ hway
    obtain ⟨w, hw, -⟩ := (Exact.compile hp _).sound hu.placed hway
    have hvacant : Vacant p c.before u (w ++ m.stop.rest) :=
      hm.quiet.vacant hp hc (hu.rest.trans (by rw [hw.rest])) fun n hn => by
        obtain rfl : m.start.left = n := by simpa using hn
        exact Nat.le_of_eq (hu.placed.trans (congrArg List.length hw.rest))
    generalize c.rest = rest at *
    cases hcuts with
    | kept hcuts =>
      cases hcuts with
      | @hit _ _ w' r _ htakes hcuts =>
        obtain rfl : w' = w := htakes.text.symm.trans (hw.take_eq hu.placed)
        obtain rfl : m.stop.rest = r := htakes.after
        have hbefore : m.stop.before = lastOf (lastOf c.before u) w' := by rw [hw.before, hu.before]
        obtain ⟨parts, tail, h, rfl⟩ := ih hstop (hbefore ▸ hcuts)
        exact ⟨(u, m) :: parts, tail, .hit hvacant htakes (hbefore ▸ h), rfl⟩

theorem exists_searched (hp : p.steady = true) (hn : p.nullable = false) (t : Text) :
    ∃ parts tail, Searched p none t parts tail ∧ p.compile.pieces t = piecesOf parts tail :=
  searched_of_found hp (.start t) (found_pieces hp hn t) (cuts_pieces p t)

/-- The second text is the first one, which stands behind `b`, with the matches replaced. -/
inductive Replaces (p : Pattern) (f : Match → Text) : Option Char → Text → Text → Prop
  | rest : Vacant p b t [] → Replaces p f b t t
  | hit : Vacant p b u (w ++ r) → Takes p m (lastOf b u) w r →
      Replaces p f (lastOf (lastOf b u) w) r r' → Replaces p f b (u ++ (w ++ r)) (u ++ (f m ++ r'))

theorem Searched.replaces (h : Searched p b t parts tail) (f : Match → Text) :
    Replaces p f b t (parts.flatMap (fun part => part.1 ++ f part.2) ++ tail) := by
  induction h with
  | rest hvacant => exact .rest hvacant
  | hit hvacant hm _ ih => simpa using Replaces.hit hvacant hm ih

theorem replaces_replaceAll (hp : p.steady = true) (hn : p.nullable = false) (f : Match → Text)
    (t : Text) : Replaces p f none t (p.compile.replaceAll f t) := by
  obtain ⟨parts, tail, h, hpieces⟩ := exists_searched hp hn t
  rw [replaceAll_of_pieces hpieces]
  exact h.replaces f

theorem replaces_apply (hp : p.steady = true) (hn : p.nullable = false) (f : Match → Text) (t : Text) :
    Replaces p f none t ((Fix.Replacement.of p f).apply t) :=
  replaces_replaceAll hp hn f t

/-- Where nothing can be read, nothing is replaced. -/
theorem Replaces.eq_self (h : Replaces p f b t t') (hn : p.nullable = false) (hc : Vacant p b t []) :
    t' = t := by
  cases h with
  | rest => rfl
  | hit _ hm _ => exact absurd hm.reads ((vacant_iff hn).mp hc _ _ _ _ rfl)

theorem apply_of_vacant (hp : p.steady = true) (hn : p.nullable = false)
    (hc : Vacant p none t []) : (Fix.Replacement.of p f).apply t = t :=
  (replaces_apply hp hn f t).eq_self hn hc

-- -----------------------------------------------------------------------------------------
-- What a pattern sees of its surroundings
-- -----------------------------------------------------------------------------------------

/-- Both are word characters, or neither is one. -/
def SameKind (x y : Option Char) : Prop := Chars.inWord x = Chars.inWord y

protected theorem SameKind.symm (h : SameKind x y) : SameKind y x := Eq.symm h

theorem SameKind.lastOf (h : SameKind b b') (w : Text) : SameKind (lastOf b w) (lastOf b' w) := by
  cases w with
  | nil => exact h
  | cons x w => rfl

theorem SameKind.head (h : SameKind r.head? r'.head?) (w : Text) :
    SameKind (w ++ r).head? (w ++ r').head? := by
  cases w with
  | nil => exact h
  | cons x w => rfl

namespace Pattern

theorem Spells.exists_reads {p : Pattern} (h : p.Spells b w r) : ∃ gs, p.Reads b w r gs := by
  induction h with
  | empty => exact ⟨[], .empty⟩
  | char hx => exact ⟨[], .char hx⟩
  | anchor ha hb hr => exact ⟨[], .anchor ha hb hr⟩
  | seq _ _ ihp ihq =>
    obtain ⟨gs, hp⟩ := ihp
    obtain ⟨gs', hq⟩ := ihq
    exact ⟨gs' ++ gs, .seq hp hq⟩
  | left _ ih =>
    obtain ⟨gs, h⟩ := ih
    exact ⟨gs, .left h⟩
  | right _ ih =>
    obtain ⟨gs, h⟩ := ih
    exact ⟨gs, .right h⟩
  | @capture _ _ w _ i _ ih =>
    obtain ⟨gs, h⟩ := ih
    exact ⟨(i, w) :: gs, .capture h⟩
  | stop => exact ⟨[], .stop⟩
  | round hround _ _ ihp ihq =>
    obtain ⟨gs, hp⟩ := ihp
    obtain ⟨gs', hq⟩ := ihq
    exact ⟨gs' ++ gs, .round hround hp hq⟩

theorem Settles.words {p : Pattern} (h : p.Settles b w r) (hp : p.anchorless = true) : p.Words w := by
  obtain ⟨gs, hreads⟩ := h.spells.exists_reads
  exact ⟨gs, hreads.anywhere hp none []⟩

theorem reads_boundary : boundary.Reads b w r gs ↔ w = [] ∧ gs = [] ∧ ¬ SameKind b r.head? := by
  constructor
  · rintro ⟨⟩
    rename_i c ha hb hr
    subst hb hr
    simpa [SameKind, Chars.inWord, Anchor.holds, Cursor.wordBefore, Cursor.wordAfter] using ha
  · rintro ⟨rfl, rfl, hkind⟩
    refine .anchor (c := ⟨b, r, r.length, 0⟩) ?_ rfl rfl
    simpa [SameKind, Chars.inWord, Anchor.holds, Cursor.wordBefore, Cursor.wordAfter] using hkind

theorem Reads.not_mem {p : Pattern} (h : p.Reads b w r gs) (hp : p.avoids [c] = true) : c ∉ w :=
  fun hc => h.avoids hp c hc List.mem_cons_self

/-- Where no other character can occur, all characters are of the kind. -/
theorem Reads.all {p : Pattern} {ok : Char → Bool} (h : p.Reads b w r gs)
    (hp : ∀ c, ok c = false → p.avoids [c] = true) : ∀ c ∈ w, ok c = true := by
  intro c hc
  by_contra hok
  exact h.not_mem (hp c (Bool.eq_false_iff.mpr hok)) hc

/-- The anchors of the pattern, if it has any, are word boundaries. -/
def bounded : Pattern → Bool
  | .empty | .char _ => true
  | .anchor a => a == .wordBoundary
  | .seq a b | .alt a b => a.bounded && b.bounded
  | .capture _ a | .times _ _ _ a => a.bounded

theorem bounded_of_anchorless {p : Pattern} (h : p.anchorless = true) : p.bounded = true := by
  induction p with
  | empty | char => rfl
  | anchor => cases h
  | seq p q ihp ihq | alt p q ihp ihq =>
    simp only [anchorless, Bool.and_eq_true] at h
    simp [bounded, ihp h.1, ihq h.2]
  | capture _ p ih | times _ _ _ p ih => exact ih h

theorem Reads.around {p : Pattern} (h : p.Reads b w r gs) (hp : p.bounded = true)
    (hb : SameKind b b') (hr : SameKind r.head? r'.head?) : p.Reads b' w r' gs := by
  induction h generalizing b' r' with
  | empty => exact .empty
  | char hx => exact .char hx
  | @anchor b r a c ha hbefore hrest =>
    obtain rfl : a = .wordBoundary := by simpa [bounded] using hp
    refine .anchor (c := ⟨b', r', r'.length, 0⟩) ?_ rfl rfl
    subst hbefore hrest
    simp only [Anchor.holds, Cursor.wordBefore, Cursor.wordAfter, SameKind, Chars.inWord] at ha hb hr ⊢
    rwa [← hb, ← hr]
  | seq _ _ iha ihb =>
    simp only [bounded, Bool.and_eq_true] at hp
    exact .seq (iha hp.1 hb (hr.head _)) (ihb hp.2 (hb.lastOf _) hr)
  | left _ ih =>
    simp only [bounded, Bool.and_eq_true] at hp
    exact .left (ih hp.1 hb hr)
  | right _ ih =>
    simp only [bounded, Bool.and_eq_true] at hp
    exact .right (ih hp.2 hb hr)
  | capture _ ih => exact .capture (ih hp hb hr)
  | stop => exact .stop
  | round hround _ _ iha ihb =>
    exact .round hround (iha hp hb (hr.head _)) (ihb hp (hb.lastOf _) hr)

end Pattern

end Wikitext
