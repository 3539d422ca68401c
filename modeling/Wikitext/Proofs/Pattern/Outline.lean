import Wikitext.Proofs.Pattern.Memory
import Wikitext.Proofs.Text.Division

/-!
# Searching for words that do not overlap

A search overlooks nothing: at one place it finds the first way to match there (`matchAt_is`), and
what it passes over on the way to a match are places where there is none (`found_pieces`).

A pattern without anchors spells the same words wherever it stands (`Words`). Where these do not
overlap, its matches in a text are the words of the one division of the text (`Outlined.divided`),
whatever the order in which the search tries the ways to match.
-/

namespace Wikitext

-- -----------------------------------------------------------------------------------------
-- What a search overlooks
-- -----------------------------------------------------------------------------------------

theorem Cursor.In.exists_past {c : Cursor} (hc : c.In t) (hr : c.rest = u ++ r) :
    ∃ c', c'.In t ∧ c.Past u c' := by
  induction u generalizing c with
  | nil => exact ⟨c, hc, .refl hc.placed⟩
  | cons x u ih =>
    obtain ⟨c', hc', hpast⟩ := ih (hc.next hr) rfl
    exact ⟨c', hc', (Cursor.Past.one hc.placed hr).trans hpast⟩

namespace Regex

variable {p : Pattern}

/-- What is learnt at one place does not change what is found at another. -/
theorem matchAt_is (hp : p.steady = true) (hc : c.In t) (hs : memo.Sound t p.compile) :
    (p.compile.matchAt c memo).Is t p.compile (p.compile.program.ways c).head? := by
  have hk : ∀ way ∈ p.compile.program.ways c, Program.Answers t p.compile
      (fun stop captures _ => .found stop captures) (fun c captures => some ⟨c, captures⟩) way.stop :=
    fun way _ captures _ _ => @Outcome.Is.found _ _ ⟨way.stop, captures⟩
  have h := Program.walk_answers (Program.marked_compile hp) (Program.steady_compile hp _)
    ⟨fun hm => hm, hc, hk, by simp⟩ [] memo hs
  have hfirst : ∀ ways : List Way,
      Goal.first (fun c captures => some ⟨c, captures⟩) [] ways = ways.head? := by
    intro ways
    cases ways <;> simp [Goal.first]
  rwa [Goal.after, hfirst] at h

theorem matchAt_first (hp : p.steady = true) (hc : c.In t) (hs : memo.Sound t p.compile)
    (hm : p.compile.matchAt c memo = .found stop captures) :
    (p.compile.program.ways c).head? = some ⟨stop, captures⟩ := by
  have hat := matchAt_is hp hc hs
  rw [hm] at hat
  generalize (p.compile.program.ways c).head? = way at hat ⊢
  cases hat
  rfl

theorem matchAt_failed (hp : p.steady = true) (hc : c.In t) (hs : memo.Sound t p.compile)
    (hm : p.compile.matchAt c memo = .failed memo') :
    p.compile.program.ways c = [] ∧ memo'.Sound t p.compile := by
  have hat := matchAt_is hp hc hs
  rw [hm] at hat
  generalize hways : (p.compile.program.ways c).head? = way at hat
  cases hat with
  | failed hs' => exact ⟨List.head?_eq_none_iff.mp hways, hs'⟩

-- -----------------------------------------------------------------------------------------
-- The first match
-- -----------------------------------------------------------------------------------------

/-- No match begins at a place of the text up to `c` from which more than `left` is left. -/
def Quiet (t : Text) (r : Regex) (c : Cursor) (left : Option Nat) : Prop :=
  ∀ c' : Cursor, c'.In t → c'.left ≤ c.left → (∀ n ∈ left, n < c'.left) → r.program.ways c' = []

theorem Quiet.step {c : Cursor} (hc : c.In t) (h : r.program.ways c = [])
    (hq : Quiet t r (c.past x rest) left) : Quiet t r c left := by
  intro c' hc' hle hlt
  rcases Nat.lt_or_ge c'.left c.left with h' | h'
  · exact hq c' hc' (Nat.le_sub_one_of_lt h') hlt
  · rwa [hc'.eq_of_left hc (Nat.le_antisymm hle h')]

/-- The match is the first one at or after the place, and the preferred one where it begins. -/
structure Leftmost (t : Text) (r : Regex) (c : Cursor) (m : Match) : Prop where
  start : ∃ u, c.Past u m.start
  inText : m.start.In t
  quiet : Quiet t r c (some m.start.left)
  first : (r.program.ways m.start).head? = some ⟨m.stop, m.captures⟩

theorem Leftmost.here {r : Regex} (hc : c.In t) (h : (r.program.ways c).head? = some way) :
    Leftmost t r c ⟨c, way.stop, way.captures⟩ where
  start := ⟨[], .refl hc.placed⟩
  inText := hc
  quiet _ _ hle hlt := absurd (hlt _ rfl) (Nat.not_lt.mpr hle)
  first := h

theorem Leftmost.step {c : Cursor} (hc : c.In t) (hr : c.rest = x :: rest) (h : r.program.ways c = [])
    (hm : Leftmost t r (c.past x rest) m) : Leftmost t r c m where
  start := by
    obtain ⟨u, hu⟩ := hm.start
    exact ⟨[x] ++ u, (Cursor.Past.one hc.placed hr).trans hu⟩
  inText := hm.inText
  quiet := hm.quiet.step hc h
  first := hm.first

/-- The result of a search from a place on. -/
inductive Finding (t : Text) (r : Regex) (c : Cursor) : Except Memo (Match × Memo) → Prop
  | hit : Leftmost t r c m → memo.Sound t r → Finding t r c (.ok (m, memo))
  | nowhere : Quiet t r c none → memo.Sound t r → Finding t r c (.error memo)

theorem Finding.step {c : Cursor} (hc : c.In t) (hr : c.rest = x :: rest) (h : r.program.ways c = [])
    (hf : Finding t r (c.past x rest) result) : Finding t r c result := by
  cases hf with
  | hit hm hs => exact .hit (hm.step hc hr h) hs
  | nowhere hq hs => exact .nowhere (hq.step hc h) hs

theorem searchFrom_finding (hp : p.steady = true) (hc : c.In t) (hs : memo.Sound t p.compile) :
    Finding t p.compile c (p.compile.searchFrom c.rest c memo) := by
  generalize hr : c.rest = rest
  fun_induction searchFrom p.compile rest c memo with
  | case1 rest c memo stop captures hm =>
    exact .hit (.here hc (matchAt_first hp hc hs hm)) hs
  | case2 c memo memo' hm =>
    obtain ⟨hnone, hs'⟩ := matchAt_failed hp hc hs hm
    refine .nowhere (fun c' hc' _ _ => ?_) hs'
    have hleft : c'.left = c.left := by
      have hzero : c.left = 0 := hc.placed.trans (congrArg List.length hr)
      omega
    rwa [hc'.eq_of_left hc hleft]
  | case3 c memo memo' hm x rest ih =>
    obtain ⟨hnone, hs'⟩ := matchAt_failed hp hc hs hm
    exact (ih (hc.next hr) hs' rfl).step hc hr hnone

/-- A search finds something exactly where the pattern can be read. -/
theorem isMatch_iff (hp : p.steady = true) :
    p.compile.isMatch t = true ↔
      ∃ u w r gs, t = u ++ (w ++ r) ∧ p.Reads (lastOf none u) w r gs := by
  rw [isMatch, Option.isSome_iff_exists]
  constructor
  · rintro ⟨m, hm⟩
    obtain ⟨u, w, hsplit⟩ := splits_of_find? hm
    exact ⟨u, w, m.after, _, hsplit.text, hsplit.takes.reads⟩
  · rintro ⟨u, w, r, gs, rfl, hreads⟩
    have hfind := searchFrom_finding hp (.start (u ++ (w ++ r))) (Memo.sound_empty _ _)
    rw [find?, findFrom?]
    generalize p.compile.searchFrom _ _ _ = result at hfind
    cases hfind with
    | hit => exact ⟨_, rfl⟩
    | nowhere hq =>
      obtain ⟨c, hc, hpast⟩ := (Cursor.In.start (u ++ (w ++ r))).exists_past rfl
      have hle := hpast.left_eq (Cursor.placed_ofText _)
      obtain ⟨way, hway, -⟩ := (Exact.compile hp _).complete hc.placed (hpast.rest_eq rfl)
        (hpast.before ▸ hreads)
      have hnone : p.compile.program.ways c = [] := hq c hc (by omega) (by simp)
      change way ∈ p.compile.program.ways c at hway
      simp [hnone] at hway

-- -----------------------------------------------------------------------------------------
-- All matches
-- -----------------------------------------------------------------------------------------

/-- A text cut up at the matches from a place on. -/
inductive Found (t : Text) (r : Regex) : Cursor → List Piece → Prop
  | last : Quiet t r c none → Found t r c [.kept c.rest]
  | hit : c.Past u m.start → Leftmost t r c m → Found t r m.stop ps →
      Found t r c (.kept u :: .hit m :: ps)

/-- By induction on what is left of the text, which every match shortens. -/
theorem found_piecesFrom (hp : p.steady = true) (hn : p.nullable = false) (hc : c.In t)
    (hs : memo.Sound t p.compile) (fresh : Bool) :
    Found t p.compile c (p.compile.piecesFrom c fresh memo) := by
  induction hl : c.left using Nat.strongRecOn generalizing c fresh memo with
  | _ n ih =>
    subst hl
    rw [piecesFrom]
    have hfind := searchFrom_finding hp hc hs
    generalize p.compile.searchFrom c.rest c memo = result at hfind
    cases hfind with
    | nowhere hq _ => exact .last hq
    | @hit m memo hm hs =>
      obtain ⟨u, hu⟩ := hm.start
      have hway := List.mem_of_head? hm.first
      obtain ⟨w, hw, hreads⟩ := (Exact.compile hp _).sound hu.placed hway
      have hpos := List.length_pos_iff.mpr (hreads.ne_nil hn)
      have hstart := hu.left_eq hc.placed
      have hstop : m.start.left = w.length + m.stop.left := hw.left_eq hu.placed
      have hshorter : m.stop.left < c.left ∧ ¬ m.isEmpty = true := by
        simp only [Match.isEmpty, beq_iff_eq]
        omega
      have hbetween : between c m.start = .kept u := by rw [between, hu.take_eq hc.placed]
      have hin := (Program.steady_compile hp _).in_of_mem_ways hm.inText _ hway
      simp only [dif_pos hshorter, hbetween]
      exact .hit hu hm (ih _ hshorter.1 hin hs false rfl)

theorem found_pieces {p : Pattern} (hp : p.steady = true) (hn : p.nullable = false) (t : Text) :
    Found t p.compile (Cursor.ofText t) (p.compile.pieces t) :=
  found_piecesFrom hp hn (.start t) (Memo.sound_empty t _) true

end Regex

-- -----------------------------------------------------------------------------------------
-- Words
-- -----------------------------------------------------------------------------------------

namespace Pattern

/-- The pattern looks at nothing but what it consumes. -/
def anchorless : Pattern → Bool
  | .empty | .char _ => true
  | .anchor _ => false
  | .seq a b | .alt a b => a.anchorless && b.anchorless
  | .capture _ a | .times _ _ _ a => a.anchorless

theorem Reads.anywhere {p : Pattern} (h : p.Reads b w r gs) (hp : p.anchorless = true)
    (b' : Option Char) (r' : Text) : p.Reads b' w r' gs := by
  induction h generalizing b' r' with
  | empty => exact .empty
  | char hx => exact .char hx
  | anchor => cases hp
  | seq _ _ iha ihb =>
    simp only [anchorless, Bool.and_eq_true] at hp
    exact .seq (iha hp.1 _ _) (ihb hp.2 _ _)
  | left _ ih =>
    simp only [anchorless, Bool.and_eq_true] at hp
    exact .left (ih hp.1 _ _)
  | right _ ih =>
    simp only [anchorless, Bool.and_eq_true] at hp
    exact .right (ih hp.2 _ _)
  | capture _ ih => exact .capture (ih hp _ _)
  | stop => exact .stop
  | round hr _ _ iha ihb => exact .round hr (iha hp _ _) (ihb hp _ _)

/-- What the pattern spells when it stands alone. -/
def Words (p : Pattern) (w : Text) : Prop := ∃ gs, p.Reads none w [] gs

/-- The pattern is searched for words: each of them has a character, and does not depend on what is
around it. -/
structure Lexical (p : Pattern) : Prop where
  steady : p.steady = true
  nullable : p.nullable = false
  anchorless : p.anchorless = true

theorem Lexical.ne_nil {p : Pattern} (hp : p.Lexical) : ∀ w, p.Words w → w ≠ [] := by
  rintro w ⟨gs, hw⟩
  exact hw.ne_nil hp.nullable

end Pattern

open Pattern Regex

variable {p : Pattern}

/-- Nothing can be read where the search finds nothing. -/
theorem Regex.Quiet.not_reads (hp : p.steady = true) (hc : c.In t) (hq : Quiet t p.compile c left)
    (hr : c.rest = a ++ (w ++ r)) (hleft : ∀ n ∈ left, n < (w ++ r).length) :
    ¬ p.Reads (lastOf c.before a) w r gs := by
  intro hreads
  obtain ⟨c', hc', hpast⟩ := hc.exists_past hr
  have hrest := hpast.rest_eq hr
  have hle := hpast.left_eq hc.placed
  have hlen : c'.left = (w ++ r).length := hc'.placed.trans (congrArg List.length hrest)
  have hnone := hq c' hc' (by omega) (hlen ▸ hleft)
  obtain ⟨way, hway, -⟩ := (Exact.compile hp _).complete hc'.placed hrest (hpast.before ▸ hreads)
  change way ∈ p.compile.program.ways c' at hway
  simp [hnone] at hway

theorem Regex.Quiet.not_words (hp : p.Lexical) (hc : c.In t) (hq : Quiet t p.compile c left)
    (hr : c.rest = a ++ (w ++ r)) (hleft : ∀ n ∈ left, n < (w ++ r).length) : ¬ p.Words w := by
  rintro ⟨gs, hw⟩
  exact hq.not_reads hp.steady hc hr hleft (hw.anywhere hp.anchorless _ _)

/-- No word stands where the search finds nothing. -/
theorem Regex.Quiet.free (hp : p.Lexical) (hc : c.In t) (hq : Quiet t p.compile c left)
    (hr : c.rest = u ++ r) (hleft : ∀ n ∈ left, n ≤ r.length) : Free p.Words u := by
  rintro w hw ⟨a, b, rfl⟩
  have hpos := List.length_pos_iff.mpr (hp.ne_nil w hw)
  refine hq.not_words hp hc (r := b ++ r) (by simpa using hr) (fun n hn => ?_) hw
  have hle := hleft n hn
  simp only [List.length_append]
  omega

/-- A search finds nothing exactly where no word stands. -/
theorem isMatch_eq_false_iff (hp : p.Lexical) : p.compile.isMatch t = false ↔ Free p.Words t := by
  rw [Bool.eq_false_iff, Ne, isMatch_iff hp.steady]
  constructor
  · rintro h w ⟨gs, hw⟩ ⟨u, r, rfl⟩
    exact h ⟨u, w, r, gs, List.append_assoc .., hw.anywhere hp.anchorless _ _⟩
  · rintro h ⟨u, w, r, gs, rfl, hw⟩
    exact h w ⟨gs, hw.anywhere hp.anchorless _ _⟩ ⟨u, r, List.append_assoc ..⟩

-- -----------------------------------------------------------------------------------------
-- Outlines
-- -----------------------------------------------------------------------------------------

/-- The match is the word `w`, with the text `r` after it. -/
structure Stands (p : Pattern) (m : Match) (w r : Text) : Prop where
  text : m.text = w
  after : m.after = r
  startLeft : m.start.left = w.length + r.length
  stopLeft : m.stop.left = r.length
  reads : p.Reads none w [] m.captures.texts

/-- A text cut up at the matches of a pattern, each with what stands before it. -/
inductive Outlined (p : Pattern) : Text → List (Text × Match) → Text → Prop
  | nil : Free p.Words u → Outlined p u [] u
  | cons : Free p.Words u → Stands p m w r → Outlined p r parts tail →
      Outlined p (u ++ (w ++ r)) ((u, m) :: parts) tail

/-- The pieces of a text that is cut up so. -/
def piecesOf (parts : List (Text × Match)) (tail : Text) : List Piece :=
  parts.flatMap (fun part => [.kept part.1, .hit part.2]) ++ [.kept tail]

theorem outlined_of_found (hp : p.Lexical) (hc : c.In t) (h : Found t p.compile c ps) :
    ∃ parts tail, Outlined p c.rest parts tail ∧ ps = piecesOf parts tail := by
  induction h with
  | @last c hq =>
    exact ⟨[], c.rest, .nil (hq.free hp hc (r := []) (by simp) (by simp)), rfl⟩
  | @hit c m ps u hu hm _ ih =>
    have hway := List.mem_of_head? hm.first
    have hstop : m.stop.In t := (Program.steady_compile hp.steady _).in_of_mem_ways hm.inText _ hway
    obtain ⟨parts, tail, h, rfl⟩ := ih hstop
    obtain ⟨w, hw, hreads⟩ := (Exact.compile hp.steady _).sound hu.placed hway
    have hfree : Free p.Words u := hm.quiet.free hp hc hu.rest fun n hn => by
      obtain rfl : m.start.left = n := by simpa using hn
      exact Nat.le_of_eq hu.placed
    have hstart : m.start.left = w.length + m.stop.rest.length := by
      rw [hw.left_eq hu.placed, hstop.placed]
    rw [hu.rest, hw.rest]
    exact ⟨(u, m) :: parts, tail, .cons hfree ⟨hw.take_eq hu.placed, rfl, hstart, hstop.placed,
      hreads.anywhere hp.anchorless _ _⟩ h, rfl⟩

theorem exists_outline (hp : p.Lexical) (t : Text) :
    ∃ parts tail, Outlined p t parts tail ∧ p.compile.pieces t = piecesOf parts tail :=
  outlined_of_found hp (.start t) (found_pieces hp.steady hp.nullable t)

theorem matches_of_pieces {r : Regex} (h : r.pieces t = piecesOf parts tail) :
    r.matches' t = parts.map (·.2) := by
  rw [matches_eq_hits, h, piecesOf]
  clear h
  induction parts with
  | nil => rfl
  | cons part parts ih =>
    rw [List.map_cons, ← ih]
    rfl

theorem Regex.replaceAll_congr {r : Regex} {f g : Match → Text} (h : ∀ m ∈ r.matches' t, f m = g m) :
    r.replaceAll f t = r.replaceAll g t := by
  simp only [matches_eq_hits, mem_hits] at h
  refine List.flatMap_congr fun piece hpiece => ?_
  cases piece with
  | kept => rfl
  | hit m => exact h m hpiece

theorem replaceAll_of_pieces {r : Regex} (h : r.pieces t = piecesOf parts tail) (f : Match → Text) :
    r.replaceAll f t = parts.flatMap (fun part => part.1 ++ f part.2) ++ tail := by
  rw [replaceAll, h, piecesOf, List.flatMap_append, List.flatMap_assoc]
  simp

/-- What stands around the matches. -/
def Regex.outside (r : Regex) (t : Text) : List Text :=
  (r.pieces t).filterMap fun
    | .kept t => some t
    | .hit _ => none

theorem outside_of_pieces {r : Regex} (h : r.pieces t = piecesOf parts tail) :
    r.outside t = parts.map (·.1) ++ [tail] := by
  rw [Regex.outside, h, piecesOf]
  clear h
  induction parts with
  | nil => rfl
  | cons part parts ih => exact congrArg (part.1 :: ·) ih

namespace Outlined

/-- The words of an outline, each with what stands before it. -/
def texts (parts : List (Text × Match)) : List (Text × Text) :=
  parts.map fun part => (part.1, part.2.text)

theorem divided (h : Outlined p t parts tail) : Divided p.Words t (texts parts) tail := by
  induction h with
  | nil hu => exact .nil hu
  | cons hu hm _ ih =>
    rw [texts, List.map_cons, hm.text]
    exact .cons hu ⟨_, hm.reads⟩ ih

theorem text_eq (h : Outlined p t parts tail) :
    t = parts.flatMap (fun part => part.1 ++ part.2.text) ++ tail := by
  have ht := h.divided.text_eq
  rwa [texts, List.flatMap_map] at ht

theorem reads (h : Outlined p t parts tail) :
    ∀ part ∈ parts, p.Reads none part.2.text [] part.2.captures.texts := by
  induction h with
  | nil => simp
  | cons _ hm _ ih => exact List.forall_mem_cons.mpr ⟨hm.text.symm ▸ hm.reads, ih⟩

/-- Where the matches stand in a text of which this is the end. -/
theorem stretches (h : Outlined p r parts tail) (ht : t.length = n + r.length) :
    parts.map (fun part => Stretch.ofMatch t part.2) = stretchesFrom n (texts parts) := by
  induction h generalizing n with
  | nil => rfl
  | @cons u m w r parts tail hu hm _ ih =>
    simp only [List.length_append] at ht
    have hstretch : Stretch.ofMatch t m = ⟨n + u.length, n + u.length + w.length⟩ := by
      rw [Stretch.ofMatch, hm.startLeft, hm.stopLeft, Stretch.mk.injEq]
      omega
    rw [List.map_cons, texts, List.map_cons, stretchesFrom, hm.text, hstretch,
      ih (n := n + u.length + w.length) (by omega)]
    rfl

/-- Words in the place of the matches. -/
theorem rewrite (h : Outlined p t parts tail) {f : Match → Text}
    (hf : ∀ part ∈ parts, p.Words (f part.2)) :
    Divided p.Words (parts.flatMap (fun part => part.1 ++ f part.2) ++ tail)
      (parts.map fun part => (part.1, f part.2)) tail := by
  induction h with
  | nil hu => exact .nil hu
  | cons hu _ _ ih =>
    rw [List.forall_mem_cons] at hf
    have hrest := ih hf.2
    simp only [List.flatMap_cons, List.map_cons, List.append_assoc]
    exact .cons hu hf.1 hrest

end Outlined

-- -----------------------------------------------------------------------------------------
-- Words that do not overlap
-- -----------------------------------------------------------------------------------------

/-- A match for every word of the division, and no others. -/
theorem texts_matches (hp : p.Lexical) (hsep : Separate p.Words) (h : Divided p.Words t parts tail) :
    (p.compile.matches' t).map (·.text) = parts.map (·.2) := by
  obtain ⟨parts', tail', hout, hpieces⟩ := exists_outline hp t
  obtain ⟨rfl, -⟩ := hout.divided.unique hsep h
  rw [matches_of_pieces hpieces, Outlined.texts, List.map_map, List.map_map]
  rfl

/-- What is put in the place of each word of the division. -/
theorem replaceAll_of_divided (hp : p.Lexical) (hsep : Separate p.Words) (g : Text → Text)
    (h : Divided p.Words t parts tail) :
    p.compile.replaceAll (fun m => g m.text) t =
      parts.flatMap (fun part => part.1 ++ g part.2) ++ tail := by
  obtain ⟨parts', tail', hout, hpieces⟩ := exists_outline hp t
  obtain ⟨rfl, rfl⟩ := hout.divided.unique hsep h
  rw [replaceAll_of_pieces hpieces, Outlined.texts, List.flatMap_map]

/-- A text is searched apart on both sides of a word. -/
theorem search_around (hp : p.Lexical) (hsep : Separate p.Words) (hw : p.Words w) (u r : Text) :
    (p.compile.matches' (u ++ (w ++ r))).map (·.text) =
        (p.compile.matches' u).map (·.text) ++ w :: (p.compile.matches' r).map (·.text) ∧
      ∀ g : Text → Text, p.compile.replaceAll (fun m => g m.text) (u ++ (w ++ r)) =
        p.compile.replaceAll (fun m => g m.text) u ++
          (g w ++ p.compile.replaceAll (fun m => g m.text) r) := by
  obtain ⟨parts, a, h⟩ := Divided.exists_parts hp.ne_nil u
  obtain ⟨parts', tail, h'⟩ := Divided.exists_parts hp.ne_nil r
  have hall := h.around hw h'
  refine ⟨?_, fun g => ?_⟩
  · rw [texts_matches hp hsep h, texts_matches hp hsep h', texts_matches hp hsep hall,
      List.map_append, List.map_cons]
  · rw [replaceAll_of_divided hp hsep g h, replaceAll_of_divided hp hsep g h',
      replaceAll_of_divided hp hsep g hall]
    simp

/-- A text in which no word begins makes no difference to what is found behind it. -/
theorem search_behind (hp : p.Lexical) (hsep : Separate p.Words)
    (hhead : ∀ w, p.Words w → w.head? = some c) (hs : c ∉ s) (t : Text) :
    (p.compile.matches' (s ++ t)).map (·.text) = (p.compile.matches' t).map (·.text) ∧
      ∀ g : Text → Text, p.compile.replaceAll (fun m => g m.text) (s ++ t) =
        s ++ p.compile.replaceAll (fun m => g m.text) t := by
  obtain ⟨parts, tail, h⟩ := Divided.exists_parts hp.ne_nil t
  obtain ⟨parts', tail', h', hwords, hall⟩ := h.prepend hhead hs
  refine ⟨?_, fun g => ?_⟩
  · rw [texts_matches hp hsep h, texts_matches hp hsep h', hwords]
  · rw [replaceAll_of_divided hp hsep g h, replaceAll_of_divided hp hsep g h', hall]

/-- The search finds every word that stands in the text. -/
theorem found_iff (hp : p.Lexical) (hsep : Separate p.Words) (t w : Text) :
    (∃ m ∈ p.compile.matches' t, m.text = w) ↔ p.Words w ∧ w <:+: t := by
  obtain ⟨parts, tail, hdiv⟩ := Divided.exists_parts hp.ne_nil t
  have htexts := texts_matches hp hsep hdiv
  have hmem := fun s => hdiv.mem_placesFrom (s := s) (w := w) hsep 0
  rw [← List.mem_map, htexts, ← placesFrom_snd 0, List.mem_map]
  constructor
  · rintro ⟨⟨s, w⟩, hplace, rfl⟩
    obtain ⟨a, b, hw, rfl, -⟩ := (hmem s).mp hplace
    exact ⟨hw, a, b, List.append_assoc a w b⟩
  · rintro ⟨hw, a, b, ht⟩
    exact ⟨(_, w), (hmem _).mpr ⟨a, b, hw, by rw [← ht, List.append_assoc], rfl⟩, rfl⟩

theorem reads_of_mem_matches (hp : p.Lexical) (hm : m ∈ p.compile.matches' t) :
    p.Reads none m.text [] m.captures.texts := by
  obtain ⟨parts, tail, hout, hpieces⟩ := exists_outline hp t
  rw [matches_of_pieces hpieces] at hm
  obtain ⟨part, hpart, rfl⟩ := List.mem_map.mp hm
  exact hout.reads part hpart

theorem Outlined.places (h : Outlined p t parts tail) :
    parts.map (fun part => (Stretch.ofMatch t part.2, part.2.text)) = placesFrom 0 (texts parts) := by
  rw [placesFrom, ← h.stretches (Nat.zero_add _).symm, texts, List.map_map]
  exact List.zip_map'.symm

/-- The matches whose texts are to count are the words of a division of their own. -/
theorem exists_division (hp : p.Lexical) (hsep : Separate p.Words) (keep : Text → Bool) (t : Text) :
    ∃ parts tail, Divided (fun w => p.Words w ∧ keep w = true) t parts tail ∧
      ((p.compile.matches' t).filter fun m => keep m.text).map
        (fun m => (Stretch.ofMatch t m, m.text)) = placesFrom 0 parts := by
  classical
  obtain ⟨parts, tail, hout, hpieces⟩ := exists_outline hp t
  have hsome : ∀ w, p.Words w ∧ keep w = true → p.Words w := fun w hw => hw.1
  obtain ⟨parts', tail', h', hplaces⟩ := hout.divided.filter hsep hsome
  refine ⟨parts', tail', h', ?_⟩
  rw [hplaces, ← hout.places, matches_of_pieces hpieces, List.filter_map, List.filter_map, List.map_map]
  refine congrArg (List.map _) (List.filter_congr fun part hpart => ?_)
  have hword : p.Words part.2.text := ⟨_, hout.reads part hpart⟩
  simp [hword]

-- -----------------------------------------------------------------------------------------
-- Words in the place of words
-- -----------------------------------------------------------------------------------------

/-- Replacing words by words keeps the gaps, and the new words are found again. -/
theorem matches_replaceAll (hp : p.Lexical) (hsep : Separate p.Words) {f : Match → Text}
    (hf : ∀ m ∈ p.compile.matches' t, p.Words (f m)) :
    (p.compile.matches' (p.compile.replaceAll f t)).map (·.text) = (p.compile.matches' t).map f ∧
      p.compile.outside (p.compile.replaceAll f t) = p.compile.outside t := by
  obtain ⟨parts, tail, hout, hpieces⟩ := exists_outline hp t
  obtain ⟨parts', tail', hout', hpieces'⟩ := exists_outline hp (p.compile.replaceAll f t)
  rw [matches_of_pieces hpieces] at hf ⊢
  have hdiv := hout.rewrite fun part hpart => hf part.2 (List.mem_map_of_mem hpart)
  rw [← replaceAll_of_pieces hpieces f] at hdiv
  obtain ⟨htexts, rfl⟩ := hout'.divided.unique hsep hdiv
  have hgaps := congrArg (List.map Prod.fst) htexts
  have hwords := congrArg (List.map Prod.snd) htexts
  simp only [Outlined.texts, List.map_map] at hgaps hwords
  rw [matches_of_pieces hpieces', outside_of_pieces hpieces, outside_of_pieces hpieces',
    List.map_map, List.map_map]
  exact ⟨hwords, congrArg (· ++ [tail']) hgaps⟩

theorem replaceAll_eq_self (hp : p.Lexical) {f : Match → Text}
    (hf : ∀ m ∈ p.compile.matches' t, f m = m.text) : p.compile.replaceAll f t = t := by
  obtain ⟨parts, tail, hout, hpieces⟩ := exists_outline hp t
  rw [matches_of_pieces hpieces, List.forall_mem_map] at hf
  nth_rewrite 2 [hout.text_eq]
  rw [replaceAll_of_pieces hpieces]
  exact congrArg (· ++ tail) (List.flatMap_congr fun part hpart => congrArg (part.1 ++ ·) (hf part hpart))

/-- Where no word stands, nothing is replaced. -/
theorem replaceAll_of_free (hp : p.Lexical) (h : Free p.Words t) (f : Match → Text) :
    p.compile.replaceAll f t = t :=
  replaceAll_eq_self hp fun _ hm =>
    absurd (infix_of_mem_matches hm) (h _ ⟨_, reads_of_mem_matches hp hm⟩)

theorem Outlined.length_le (h : Outlined p t parts tail) {f : Match → Text}
    (hf : ∀ m, m.text.length ≤ (f m).length) :
    t.length ≤ (parts.flatMap (fun part => part.1 ++ f part.2) ++ tail).length := by
  induction h with
  | nil => exact Nat.le_refl _
  | @cons u m w r parts tail _ hm _ ih =>
    have hle := hf m
    rw [hm.text] at hle
    simp only [List.flatMap_cons, List.length_append] at ih ⊢
    omega

/-- If something longer is put in the place of every match, a text stays as it is only if no word
stands in it. -/
theorem replaceAll_eq_self_iff (hp : p.Lexical) {f : Match → Text}
    (hf : ∀ m, m.text.length < (f m).length) : p.compile.replaceAll f t = t ↔ Free p.Words t := by
  refine ⟨fun heq => ?_, fun h => replaceAll_of_free hp h f⟩
  obtain ⟨parts, tail, hout, hpieces⟩ := exists_outline hp t
  rw [replaceAll_of_pieces hpieces] at heq
  cases hout with
  | nil hfree => exact hfree
  | @cons u m w r parts tail _ hm hrest =>
    have hle := hrest.length_le fun m => Nat.le_of_lt (hf m)
    have hlt := hf m
    have hlength := congrArg List.length heq
    rw [hm.text] at hlt
    simp only [List.flatMap_cons, List.length_append] at hle hlength
    omega

end Wikitext
