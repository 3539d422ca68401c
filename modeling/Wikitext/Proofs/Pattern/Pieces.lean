import Wikitext.Pattern.Search
import Wikitext.Proofs.Pattern.Found

/-!
# How a search cuts up a text

`cuts_pieces`: the pieces that a search gives make up the text, in order, and
every hit among them is a text that the pattern takes where it stands: it
settles there, and the groups have the texts that it read for them.
-/

namespace Wikitext

/-- The match is `w`, between the character `b` and the text `r`. -/
structure Takes (p : Pattern) (m : Match) (b : Option Char) (w r : Text) : Prop where
  text : m.text = w
  before : m.before = b
  after : m.after = r
  settles : p.Settles b w r
  reads : p.Reads b w r m.captures.texts
  startLeft : m.start.left = w.length + r.length
  stopLeft : m.stop.left = r.length

/-- Cutting `t`, which stands after the character `b`, into pieces. -/
inductive Cuts (p : Pattern) : Option Char → Text → List Piece → Prop
  | nil : Cuts p b [] []
  | kept : Cuts p (lastOf b u) r ps → Cuts p b (u ++ r) (.kept u :: ps)
  | hit : Takes p m b w r → Cuts p (lastOf b w) r ps → Cuts p b (w ++ r) (.hit m :: ps)

namespace Regex

/-- What the search reads is what it settles on, since both lead to the same place. -/
theorem matchAt_found {p : Pattern} (hc : c.Placed)
    (h : p.compile.matchAt c memo = .found stop captures) :
    ∃ w, c.Past w stop ∧ p.Settles c.before w stop.rest ∧
      p.Reads c.before w stop.rest captures.texts := by
  have hk : Continuation.Final fun stop captures _ => .found stop captures :=
    fun c captures _ => ⟨c, captures, rfl⟩
  obtain ⟨w, c', cs, m, hp, hw, hf⟩ := Finishes.compile p _ hk hc h
  obtain ⟨v, c'', new, m', hp', hv, hf'⟩ := Consumes.compile p _ hc h
  cases hf
  cases hf'
  obtain rfl : w = v := List.append_cancel_right (hp.rest.symm.trans hp'.rest)
  rw [List.append_nil]
  exact ⟨w, hp, hw, hv⟩

/-- A match with the texts before it and in it. -/
structure Finds (p : Pattern) (c : Cursor) (m : Match) (u w : Text) : Prop where
  start : c.Past u m.start
  stop : m.start.Past w m.stop
  settles : p.Settles m.start.before w m.stop.rest
  reads : p.Reads m.start.before w m.stop.rest m.captures.texts

theorem searchFrom_ok {p : Pattern} (hc : c.Placed)
    (h : p.compile.searchFrom c.rest c memo = .ok (m, memo')) : ∃ u w, Finds p c m u w := by
  generalize ht : c.rest = t at h
  fun_induction searchFrom p.compile t c memo with
  | case1 t c memo stop captures hm =>
    cases h
    obtain ⟨w, hp, hw, hr⟩ := matchAt_found hc hm
    exact ⟨[], w, .refl hc, hp, hw, hr⟩
  | case2 => cases h
  | case3 c memo memo' hm x t ih =>
    obtain ⟨u, w, hf⟩ := ih (Cursor.placed_past hc ht) rfl h
    exact ⟨x :: u, w, (Cursor.Past.one hc ht).trans hf.start, hf.stop, hf.settles, hf.reads⟩

namespace Finds

theorem text_eq {p : Pattern} (h : Finds p c m u w) : m.text = w :=
  h.stop.take_eq h.start.placed

theorem between_eq {p : Pattern} (hc : c.Placed) (h : Finds p c m u w) :
    between c m.start = .kept u := by
  rw [between, h.start.take_eq hc]

theorem rest_eq {p : Pattern} (h : Finds p c m u w) : c.rest = u ++ (w ++ m.stop.rest) := by
  rw [h.start.rest, h.stop.rest]

theorem takes {p : Pattern} (h : Finds p c m u w) : Takes p m (lastOf c.before u) w m.after :=
  h.start.before ▸ ⟨h.text_eq, rfl, rfl, h.settles, h.reads,
    by rw [h.start.placed, h.stop.rest, List.length_append, Match.after], h.stop.placed⟩

/-- Pieces for the text after a match complete the pieces up to it. -/
theorem cuts {p : Pattern} (hc : c.Placed) (h : Finds p c m u w)
    (hs : Cuts p m.stop.before m.stop.rest ps) :
    Cuts p c.before c.rest (between c m.start :: .hit m :: ps) := by
  rw [h.stop.before, h.start.before] at hs
  rw [h.between_eq hc, h.rest_eq]
  exact .kept (.hit h.takes hs)

end Finds

theorem finds_of_findFrom? {p : Pattern} (hc : c.Placed) (h : p.compile.findFrom? c = some m) :
    ∃ u w, Finds p c m u w := by
  unfold findFrom? at h
  split at h
  · rename_i hs
    cases h
    exact searchFrom_ok hc hs
  · cases h

/-- A match found in a whole text, with the texts before it and in it. -/
structure Splits (p : Pattern) (t : Text) (m : Match) (u w : Text) : Prop where
  text : t = u ++ (w ++ m.after)
  offset : m.offset t.length = u.length
  stop : t.length - m.stop.left = u.length + w.length
  takes : Takes p m (lastOf none u) w m.after

theorem Splits.nothing_before {p : Pattern} (h : Splits p t m u w) (hm : m.offset t.length = 0) :
    u = [] := List.eq_nil_of_length_eq_zero (h.offset.symm.trans hm)

theorem splits_of_find? {p : Pattern} (h : p.compile.find? t = some m) :
    ∃ u w, Splits p t m u w := by
  obtain ⟨u, w, hf⟩ := finds_of_findFrom? (Cursor.placed_ofText t) h
  have hu : t.length = u.length + m.start.left := hf.start.left_eq (Cursor.placed_ofText t)
  have hw : m.start.left = w.length + m.stop.left := hf.stop.left_eq hf.start.placed
  exact ⟨u, w, hf.rest_eq, by rw [Match.offset]; omega, by omega, hf.takes⟩

/-- By induction on the length of the rest, which every piece but an empty match shortens; an
empty match is followed by a kept character or the end. -/
theorem cuts_piecesFrom (p : Pattern) (hc : c.Placed) (fresh : Bool) (memo : Memo) :
    Cuts p c.before c.rest (p.compile.piecesFrom c fresh memo) := by
  induction hn : c.left using Nat.strongRecOn generalizing c fresh memo with
  | _ n ih =>
    subst hn
    have further : ∀ (c' : Cursor) x rest, c'.Placed → c'.left ≤ c.left → c'.rest = x :: rest →
        ∀ memo, Cuts p c'.before c'.rest (.kept [x] ::
          if _h : (c'.past x rest).left < c.left then
            p.compile.piecesFrom (c'.past x rest) true memo
          else []) := by
      intro c' x rest hc' hle hr memo
      have hlt : (c'.past x rest).left < c.left := by
        have := (Cursor.Past.one hc' hr).left_eq hc'
        simp only [List.length_singleton] at this
        omega
      rw [dif_pos hlt, hr]
      exact .kept (u := [x]) (ih _ hlt (Cursor.placed_past hc' hr) true memo rfl)
    rw [piecesFrom]
    split
    · have hk := Cuts.kept (p := p) (b := c.before) (u := c.rest) .nil
      rwa [List.append_nil] at hk
    · rename_i m memo' hs
      obtain ⟨u, w, hf⟩ := searchFrom_ok hc hs
      split
      · rename_i hm
        exact hf.cuts hc (ih _ hm.1 hf.stop.placed false _ rfl)
      · split
        · split
          · rename_i hr
            rw [hr]
            exact .nil
          · rename_i x rest hr
            exact further c x rest hc (Nat.le_refl _) hr _
        · refine hf.cuts hc ?_
          split
          · rename_i hr
            rw [hr]
            exact .nil
          · rename_i x rest hr
            have hle : m.stop.left ≤ c.left := by
              have h₁ := hf.start.left_eq hc
              have h₂ := hf.stop.left_eq hf.start.placed
              omega
            exact further m.stop x rest hf.stop.placed hle hr _

theorem cuts_pieces (p : Pattern) (t : Text) : Cuts p none t (p.compile.pieces t) :=
  cuts_piecesFrom p (Cursor.placed_ofText t) true _

end Regex

-- -----------------------------------------------------------------------------------------
-- The matches among the pieces
-- -----------------------------------------------------------------------------------------

def hits : List Piece → List Match
  | [] => []
  | .kept _ :: ps => hits ps
  | .hit m :: ps => m :: hits ps

theorem matches_eq_hits (r : Regex) (t : Text) : r.matches' t = hits (r.pieces t) := by
  unfold Regex.matches'
  induction r.pieces t with
  | nil => rfl
  | cons piece ps ih => cases piece <;> simpa [hits] using ih

theorem mem_hits : m ∈ hits ps ↔ .hit m ∈ ps := by
  induction ps with
  | nil => simp [hits]
  | cons piece ps ih => cases piece <;> simp [hits, ih]

/-- Where a hit stands in the text. -/
theorem Cuts.takes_of_hit {p : Pattern} (hc : Cuts p b t ps) (hm : .hit m ∈ ps) :
    ∃ b' u w, t = u ++ (w ++ m.after) ∧ Takes p m b' w m.after := by
  induction hc with
  | nil => simp at hm
  | @kept b v r ps _ ih =>
    obtain ⟨b', u, w, rfl, ht⟩ := ih ((List.mem_cons.mp hm).resolve_left (by simp))
    exact ⟨b', v ++ u, w, (List.append_assoc _ _ _).symm, ht⟩
  | @hit n b v r ps ht _ ih =>
    rcases List.mem_cons.mp hm with hm | hm
    · cases hm
      exact ⟨b, [], v, by rw [ht.after, List.nil_append], ht.after ▸ ht⟩
    · obtain ⟨b', u, w, rfl, ht'⟩ := ih hm
      exact ⟨b', v ++ u, w, (List.append_assoc _ _ _).symm, ht'⟩

theorem takes_of_mem_matches {p : Pattern} (hm : m ∈ p.compile.matches' t) :
    ∃ b u w, t = u ++ (w ++ m.after) ∧ Takes p m b w m.after :=
  (Regex.cuts_pieces p t).takes_of_hit (mem_hits.mp (matches_eq_hits _ t ▸ hm))

theorem infix_of_mem_matches {p : Pattern} (hm : m ∈ p.compile.matches' t) : m.text <:+: t := by
  obtain ⟨_, u, w, ht, htakes⟩ := takes_of_mem_matches hm
  exact ⟨u, m.after, by rw [htakes.text, List.append_assoc, ← ht]⟩

end Wikitext
