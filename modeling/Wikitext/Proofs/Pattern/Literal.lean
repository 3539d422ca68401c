import Wikitext.Proofs.Pattern.Pieces
import Wikitext.Proofs.Text.Basic

/-!
# Searching a fixed text

A search for a fixed text overlooks nothing: the pieces that it gives are the parts between the
occurrences, as a text is cut at a fixed piece, with a hit after each of them but the last
(`fills_pieces`). So replacing the matches replaces the occurrences (`replaceAll_ofText`). A search
for nothing finds it in front of every character and at the end (`spaced_pieces`).
-/

namespace Wikitext

open Pattern

-- -----------------------------------------------------------------------------------------
-- At one place
-- -----------------------------------------------------------------------------------------

theorem Cursor.Past.skip {c : Cursor} (hc : c.Placed) (h : c.rest = u ++ r) :
    c.Past u (c.skip u.length) := by
  induction u generalizing c with
  | nil => exact .refl hc
  | cons x u ih =>
    have hone := Cursor.Past.one hc h
    have hadvance : c.advance = c.past x (u ++ r) := by simp [Cursor.advance, h]
    rw [List.length_cons, Cursor.skip, hadvance]
    exact hone.trans (ih hone.placed rfl)

namespace Program

/-- The first character of a fixed text is matched before the others. -/
theorem walk_ofText_cons (x : Char) (u : Text) (s : Site) :
    ∃ s', ∀ k, (compile (ofText (x :: u)) s).1.walk k =
      (Program.char (· == x)).walk ((compile (ofText u) s').1.walk k) := by
  cases u with
  | nil => exact ⟨s, fun _ => rfl⟩
  | cons y u => exact ⟨{ s with shared := s.shared || (single x).branches }, fun _ => rfl⟩

theorem walk_ofText (u : Text) (s : Site) (k : Continuation) (c : Cursor) (captures : Captures)
    (memo : Memo) :
    (compile (ofText u) s).1.walk k c captures memo =
      if u <+: c.rest then k (c.skip u.length) captures memo else .failed memo := by
  induction u generalizing s c with
  | nil =>
    rw [if_pos List.nil_prefix]
    rfl
  | cons x u ih =>
    obtain ⟨s', hs⟩ := walk_ofText_cons x u s
    rw [hs]
    simp only [walk]
    cases hr : c.rest with
    | nil => simp
    | cons y rest =>
      have hadvance : c.advance = c.past y rest := by simp [Cursor.advance, hr]
      by_cases hx : y = x
      · subst hx
        simp only [BEq.rfl, if_true, ih, List.length_cons, Cursor.skip, hadvance, Cursor.past,
          List.cons_prefix_cons, true_and]
      · simp [hx, Ne.symm hx]

end Program

namespace Regex

variable {u : Text}

theorem matchAt_ofText (u : Text) (c : Cursor) (memo : Memo) :
    (ofText u).compile.matchAt c memo =
      if u <+: c.rest then .found (c.skip u.length) [] else .failed memo :=
  Program.walk_ofText u _ _ c [] memo

-- -----------------------------------------------------------------------------------------
-- The first occurrence
-- -----------------------------------------------------------------------------------------

/-- The first part of the text, before the first occurrence. -/
structure First (u : Text) (c : Cursor) (m : Match) (part : Text) : Prop where
  start : c.Past part m.start
  stop : m.start.Past u m.stop
  cut : Text.cut u c.rest = part :: Text.cut u m.stop.rest

/-- By induction on the text; an occurrence is found where cutting finds it. -/
theorem searchFrom_ofText (hu : u ≠ []) (hc : c.Placed) (memo : Memo) :
    (Text.cut u c.rest = [c.rest] ∧ (ofText u).compile.searchFrom c.rest c memo = .error memo) ∨
      ∃ m part, First u c m part ∧ (ofText u).compile.searchFrom c.rest c memo = .ok (m, memo) := by
  generalize ht : c.rest = t
  induction t generalizing c with
  | nil =>
    refine .inl ⟨Text.cut_nil hu, ?_⟩
    rw [searchFrom, matchAt_ofText, ht, if_neg (by simpa using hu)]
  | cons x t ih =>
    rw [searchFrom, matchAt_ofText, ht]
    by_cases hstarts : u <+: x :: t
    · obtain ⟨r, hr⟩ := hstarts
      have hpast := Cursor.Past.skip hc (ht.trans hr.symm)
      have hrest : r = (c.skip u.length).rest :=
        List.append_cancel_left (hr.trans (ht.symm.trans hpast.rest))
      refine .inr ⟨⟨c, c.skip u.length, []⟩, [], ⟨.refl hc, hpast, ?_⟩, ?_⟩
      · rw [ht, ← hr, Text.cut_piece hu, hrest]
      · rw [if_pos ⟨r, hr⟩]
    · have hone := Cursor.Past.one hc ht
      rw [if_neg hstarts]
      rcases ih hone.placed rfl with ⟨hcut, hsearch⟩ | ⟨m, part, hfirst, hsearch⟩
      · exact .inl ⟨Text.cut_cons hu hstarts hcut, hsearch⟩
      · refine .inr ⟨m, x :: part, ⟨hone.trans hfirst.start, hfirst.stop, ?_⟩, hsearch⟩
        rw [ht]
        exact Text.cut_cons hu hstarts hfirst.cut

end Regex

-- -----------------------------------------------------------------------------------------
-- All occurrences
-- -----------------------------------------------------------------------------------------

/-- Parts of a text as pieces, with a hit of `u` between every two. -/
inductive Fills (u : Text) : List Text → List Piece → Prop
  | last : Fills u [part] [.kept part]
  | hit : m.text = u → Fills u parts ps → Fills u (part :: parts) (.kept part :: .hit m :: ps)

/-- By induction on what is left of the text, which every hit shortens. -/
theorem fills_piecesFrom (hu : u ≠ []) (hc : c.Placed) (fresh : Bool) (memo : Memo) :
    Fills u (Text.cut u c.rest) ((ofText u).compile.piecesFrom c fresh memo) := by
  induction hn : c.left using Nat.strongRecOn generalizing c fresh memo with
  | _ n ih =>
    subst hn
    rw [Regex.piecesFrom]
    rcases Regex.searchFrom_ofText hu hc memo with ⟨hcut, hsearch⟩ | ⟨m, part, hfirst, hsearch⟩
    · rw [hsearch, hcut]
      exact .last
    · have hlength : 0 < u.length := List.length_pos_iff.mpr hu
      have hstart := hfirst.start.left_eq hc
      have hstop := hfirst.stop.left_eq hfirst.start.placed
      have hshorter : m.stop.left < c.left ∧ ¬ m.isEmpty = true := by
        simp only [Match.isEmpty, beq_iff_eq]
        omega
      have hbetween : Regex.between c m.start = .kept part := by
        rw [Regex.between, hfirst.start.take_eq hc]
      rw [hsearch, hfirst.cut]
      simp only [dif_pos hshorter, hbetween]
      exact .hit (hfirst.stop.take_eq hfirst.start.placed)
        (ih _ hshorter.1 hfirst.stop.placed false memo rfl)

theorem fills_pieces (hu : u ≠ []) (t : Text) :
    Fills u (Text.cut u t) ((ofText u).compile.pieces t) :=
  fills_piecesFrom hu (Cursor.placed_ofText t) true _

namespace Fills

theorem replaced (h : Fills u parts ps) (new : Text) :
    (ps.flatMap fun | .kept t => t | .hit _ => new) = Text.join new parts := by
  induction h with
  | last => simp [Text.join]
  | hit _ h ih =>
    rw [List.flatMap_cons, List.flatMap_cons, ih]
    cases h <;> simp [Text.join]

theorem hits (h : Fills u parts ps) :
    (hits ps).map (·.text) = List.replicate (parts.length - 1) u := by
  induction h with
  | last => rfl
  | hit hm h ih =>
    rw [Wikitext.hits, Wikitext.hits, List.map_cons, ih, hm]
    cases h <;> rfl

end Fills

theorem replaceAll_ofText (hu : u ≠ []) (new t : Text) :
    (ofText u).compile.replaceAll (fun _ => new) t = Text.replace u new t :=
  (fills_pieces hu t).replaced new

theorem matches_ofText (hu : u ≠ []) (t : Text) :
    ((ofText u).compile.matches' t).map (·.text) = List.replicate (Text.occurrences u t) u := by
  rw [matches_eq_hits]
  exact (fills_pieces hu t).hits

-- -----------------------------------------------------------------------------------------
-- Nothing to search
-- -----------------------------------------------------------------------------------------

/-- The characters of a text as pieces, with an empty hit before each of them and at the end. -/
inductive Spaced : Text → List Piece → Prop
  | nil : m.text = [] → Spaced [] [.kept [], .hit m]
  | cons : m.text = [] → Spaced t ps → Spaced (x :: t) (.kept [] :: .hit m :: .kept [x] :: ps)

theorem searchFrom_nothing (t : Text) (c : Cursor) (memo : Memo) :
    (ofText []).compile.searchFrom t c memo = .ok (⟨c, c, []⟩, memo) := by
  cases t <;> rfl

theorem text_nothing (c : Cursor) : (Match.mk c c []).text = [] := by simp [Match.text]

theorem between_self (c : Cursor) : Regex.between c c = .kept [] := by simp [Regex.between]

theorem spaced_piecesFrom (hc : c.Placed) (memo : Memo) :
    Spaced c.rest ((ofText []).compile.piecesFrom c true memo) := by
  generalize ht : c.rest = t
  induction t generalizing c memo with
  | nil =>
    rw [Regex.piecesFrom, searchFrom_nothing]
    simp only [Nat.lt_irrefl, false_and, dite_false, Bool.not_true, Bool.false_and,
      Bool.false_eq_true, if_false, between_self, ht]
    exact .nil (text_nothing c)
  | cons x t ih =>
    have hnext : (c.past x t).left < c.left := by
      have hleft := (Cursor.Past.one hc ht).left_eq hc
      simp only [List.length_singleton] at hleft
      omega
    have hrest := ih (Cursor.placed_past hc ht) memo rfl
    rw [Regex.piecesFrom, searchFrom_nothing]
    simp only [Nat.lt_irrefl, false_and, dite_false, Bool.not_true, Bool.false_and,
      Bool.false_eq_true, if_false, between_self, ht, hnext, dite_true]
    exact .cons (text_nothing c) hrest

theorem spaced_pieces (t : Text) : Spaced t ((ofText []).compile.pieces t) :=
  spaced_piecesFrom (Cursor.placed_ofText t) _

namespace Spaced

theorem replaced (h : Spaced t ps) (new : Text) :
    (ps.flatMap fun | .kept t => t | .hit _ => new) = t.flatMap (fun c => new ++ [c]) ++ new := by
  induction h with
  | nil => simp
  | cons _ _ ih => simp [ih]

theorem hits (h : Spaced t ps) : (hits ps).map (·.text) = List.replicate (t.length + 1) [] := by
  induction h with
  | nil hm => simp [Wikitext.hits, hm]
  | cons hm _ ih => simp [Wikitext.hits, hm, ih, List.replicate_succ]

end Spaced

theorem replaceAll_nothing (new t : Text) :
    (ofText []).compile.replaceAll (fun _ => new) t = t.flatMap (fun c => new ++ [c]) ++ new :=
  (spaced_pieces t).replaced new

theorem matches_nothing (t : Text) :
    ((ofText []).compile.matches' t).map (·.text) = List.replicate (t.length + 1) [] := by
  rw [matches_eq_hits]
  exact (spaced_pieces t).hits

end Wikitext
