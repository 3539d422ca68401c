import Wikitext.Proofs.Category.Name
import Wikitext.Proofs.Fix.Names
import Wikitext.Proofs.Pattern.Words

/-!
# Reading category links

A category link is read in one way (`Link.unique`): its name and its key are what stands in front of
its first pipe and from there on, whatever part of the white space around the name the search counts
as part of it. So what a search tells of a link depends on the text of the link alone (`read_match`).
-/

namespace Wikitext.Category

open Pattern Fix

-- -----------------------------------------------------------------------------------------
-- Links
-- -----------------------------------------------------------------------------------------

/-- Spaces and tabs stand in gaps. -/
def inGap (c : Char) : Bool := " \t".toList.contains c

def Gap (g : Text) : Prop := ∀ c ∈ g, inGap c = true

/-- Characters that a category name may have. -/
def Nameable (x : Text) : Prop := ∀ c ∈ x, (!"[]|\n".toList.contains c) = true

instance (x : Text) : Decidable (Nameable x) :=
  inferInstanceAs (Decidable (∀ c ∈ x, (!"[]|\n".toList.contains c) = true))

/-- Characters that a sort key may have. -/
def Sortable (x : Text) : Prop := ∀ c ∈ x, (!"[]\n".toList.contains c) = true

/-- A text that differs from the other one in letter case only. -/
abbrev SameCaseless (t w : Text) : Prop := List.Forall₂ (fun x y => anyCase (· == x) y = true) t w

/-- A sort key with its pipe, or nothing. -/
inductive KeyPart : Text → Prop
  | absent : KeyPart []
  | present : Sortable key → KeyPart ('|' :: key)

/-- The text is a link to the namespace, with `x` for a name and the key part `k`. -/
inductive Link (ns : Text) : Text → Text → Text → Prop
  | intro : Gap g → SameCaseless ns n → Gap g' → Nameable x → KeyPart k →
      Link ns ("[[".toList ++ (g ++ (n ++ (g' ++ (':' :: (x ++ (k ++ "]]".toList))))))) x k

theorem sameCaseless_self (t : Text) : SameCaseless t t :=
  List.forall₂_same.mpr fun x _ => by simp [anyCase]

theorem Gap.blank (h : Gap g) : Blank g := by
  have hall : ∀ c ∈ " \t".toList, Chars.isBlank c = true := by decide
  exact fun c hc => hall c (List.contains_iff_mem.mp (h c hc))

theorem Gap.nameable (h : Gap g) : Nameable g := by
  have hall : ∀ c ∈ " \t".toList, (!"[]|\n".toList.contains c) = true := by decide
  exact fun c hc => hall c (List.contains_iff_mem.mp (h c hc))

theorem Nameable.append (hx : Nameable x) (hy : Nameable y) : Nameable (x ++ y) := fun c hc =>
  (List.mem_append.mp hc).elim (hx c) (hy c)

-- -----------------------------------------------------------------------------------------
-- The pattern of links
-- -----------------------------------------------------------------------------------------

/-- What the search for links looks for. -/
def linkPattern (ns : Text) : Pattern :=
  (categoryLink (lit "[[" ++ gap ++ ofText ns ++ gap ++ lit ":" ++ gap)).caseless

/-- A link up to its name. -/
def front (ns : Text) : Pattern :=
  lit "[[" ++ gap ++ (ofText ns).caseless ++ gap ++ lit ":" ++ gap

theorem linkPattern_eq (ns : Text) :
    linkPattern ns = front ns ++ group 1 categoryName ++ gap ++ opt (group 2 sortKey) ++ lit "]]" := by
  have hopen : (lit "[[").caseless = lit "[[" := caseless_ofText (by decide)
  have hcolon : (lit ":").caseless = lit ":" := caseless_ofText (by decide)
  have hclose : (lit "]]").caseless = lit "]]" := caseless_ofText (by decide)
  have hpipe : (lit "|").caseless = lit "|" := caseless_ofText (by decide)
  have hgap : gap.caseless = gap := congrArg many (caseless_oneOf (by decide))
  have hname : categoryName.caseless = categoryName := congrArg manyLazy (caseless_noneOf (by decide))
  have hkey : (many (noneOf "[]\n")).caseless = many (noneOf "[]\n") :=
    congrArg many (caseless_noneOf (by decide))
  have hsort : sortKey.caseless = sortKey := by rw [sortKey, caseless_append, hpipe, hkey]
  have hgroup : (opt (group 2 sortKey)).caseless = opt (group 2 sortKey) := by
    change opt (group 2 sortKey.caseless) = _
    rw [hsort]
  have hgroup' : (group 1 categoryName).caseless = group 1 categoryName := by
    change group 1 categoryName.caseless = _
    rw [hname]
  simp only [linkPattern, categoryLink, front, caseless_append, hopen, hcolon, hclose, hgap, hgroup,
    hgroup']

theorem anchorless_front (ns : Text) : (front ns).anchorless = true := by
  simp only [front, anchorless_append, anchorless_caseless, anchorless_ofText, lit]
  rfl

theorem forms_gap : gap.Forms w gs ↔ Gap w ∧ gs = [] := forms_run

theorem words_gap : gap.Words w ↔ Gap w :=
  ⟨fun ⟨_, h⟩ => (forms_gap.mp h).1, fun h => ⟨[], forms_gap.mpr ⟨h, rfl⟩⟩⟩

theorem forms_front : (front ns).Forms w gs ↔ gs = [] ∧ ∃ g n g' g'', Gap g ∧ SameCaseless ns n ∧
    Gap g' ∧ Gap g'' ∧ w = "[[".toList ++ (g ++ (n ++ (g' ++ (':' :: g'')))) := by
  have hns : (ofText ns).caseless.anchorless = true := by
    rw [anchorless_caseless, anchorless_ofText]
  have h₁ : (lit "[[" ++ gap).anchorless = true := rfl
  have h₂ : (lit "[[" ++ gap ++ (ofText ns).caseless).anchorless = true := by
    rw [anchorless_append, h₁, hns, Bool.and_true]
  have h₃ : (lit "[[" ++ gap ++ (ofText ns).caseless ++ gap).anchorless = true := by
    rw [anchorless_append, h₂]
    rfl
  have h₄ : (lit "[[" ++ gap ++ (ofText ns).caseless ++ gap ++ lit ":").anchorless = true := by
    rw [anchorless_append, h₃]
    rfl
  rw [front, forms_append h₄ rfl]
  constructor
  · rintro ⟨_, g'', _, _, rfl, rfl, h₄', hr₅⟩
    obtain ⟨_, _, _, _, rfl, rfl, h₃', hr₄⟩ := (forms_append h₃ rfl).mp h₄'
    obtain ⟨_, g', _, _, rfl, rfl, h₂', hr₃⟩ := (forms_append h₂ rfl).mp h₃'
    obtain ⟨_, n, _, _, rfl, rfl, h₁', hr₂⟩ := (forms_append h₁ hns).mp h₂'
    obtain ⟨_, g, _, _, rfl, rfl, hr₀, hr₁⟩ := (forms_append rfl rfl).mp h₁'
    obtain ⟨rfl, rfl⟩ := forms_ofText.mp hr₀
    obtain ⟨hg, rfl⟩ := forms_gap.mp hr₁
    obtain ⟨hn, rfl⟩ := forms_ofText_caseless.mp hr₂
    obtain ⟨hg', rfl⟩ := forms_gap.mp hr₃
    obtain ⟨rfl, rfl⟩ := forms_ofText.mp hr₄
    obtain ⟨hg'', rfl⟩ := forms_gap.mp hr₅
    exact ⟨rfl, g, n, g', g'', hg, hn, hg', hg'', by simp⟩
  · rintro ⟨rfl, g, n, g', g'', hg, hn, hg', hg'', rfl⟩
    refine ⟨"[[".toList ++ g ++ n ++ g' ++ ":".toList, g'', [], [], by simp, rfl, ?_,
      forms_gap.mpr ⟨hg'', rfl⟩⟩
    refine (forms_append h₃ rfl).mpr ⟨_, _, [], [], rfl, rfl, ?_, forms_ofText.mpr ⟨rfl, rfl⟩⟩
    refine (forms_append h₂ rfl).mpr ⟨_, _, [], [], rfl, rfl, ?_, forms_gap.mpr ⟨hg', rfl⟩⟩
    refine (forms_append h₁ hns).mpr ⟨_, _, [], [], rfl, rfl, ?_,
      forms_ofText_caseless.mpr ⟨hn, rfl⟩⟩
    exact (forms_append rfl rfl).mpr ⟨_, _, [], [], rfl, rfl, forms_ofText.mpr ⟨rfl, rfl⟩,
      forms_gap.mpr ⟨hg, rfl⟩⟩

/-- The groups of a link with the given name and key part. -/
def groupsOf (name k : Text) : Groups := if k = [] then [(1, name)] else [(2, k), (1, name)]

theorem forms_sortKey : sortKey.Forms w gs ↔ gs = [] ∧ ∃ key, Sortable key ∧ w = '|' :: key := by
  rw [sortKey, forms_append rfl rfl]
  constructor
  · rintro ⟨_, key, _, _, rfl, rfl, hr₀, hr₁⟩
    obtain ⟨rfl, rfl⟩ := forms_ofText.mp hr₀
    obtain ⟨hkey, rfl⟩ := forms_run.mp hr₁
    exact ⟨rfl, key, hkey, rfl⟩
  · rintro ⟨rfl, key, hkey, rfl⟩
    exact ⟨['|'], key, [], [], rfl, rfl, forms_ofText.mpr ⟨rfl, rfl⟩, forms_run.mpr ⟨hkey, rfl⟩⟩

theorem forms_keyPart : (opt (group 2 sortKey)).Forms k gs ↔
    KeyPart k ∧ gs = if k = [] then [] else [(2, k)] := by
  rw [forms_opt, forms_group]
  constructor
  · rintro (⟨rfl, rfl⟩ | ⟨gs, rfl, h⟩)
    · exact ⟨.absent, rfl⟩
    · obtain ⟨rfl, key, hkey, rfl⟩ := forms_sortKey.mp h
      exact ⟨.present hkey, rfl⟩
  · rintro ⟨hk, rfl⟩
    cases hk with
    | absent => exact .inl ⟨rfl, rfl⟩
    | present hkey => exact .inr ⟨[], rfl, forms_sortKey.mpr ⟨rfl, _, hkey, rfl⟩⟩

theorem forms_linkPattern : (linkPattern ns).Forms w gs ↔ ∃ f name g k, (front ns).Forms f [] ∧
    Nameable name ∧ Gap g ∧ KeyPart k ∧ gs = groupsOf name k ∧
      w = f ++ (name ++ (g ++ (k ++ "]]".toList))) := by
  have h₁ : (front ns ++ group 1 categoryName).anchorless = true := by
    rw [anchorless_append, anchorless_front]
    rfl
  have h₂ : (front ns ++ group 1 categoryName ++ gap).anchorless = true := by
    rw [anchorless_append, h₁]
    rfl
  have h₃ : (front ns ++ group 1 categoryName ++ gap ++ opt (group 2 sortKey)).anchorless = true := by
    rw [anchorless_append, h₂]
    rfl
  rw [linkPattern_eq, forms_append h₃ rfl]
  constructor
  · rintro ⟨_, _, _, _, rfl, rfl, h₃', hr₄⟩
    obtain ⟨_, k, _, _, rfl, rfl, h₂', hr₃⟩ := (forms_append h₂ rfl).mp h₃'
    obtain ⟨_, g, _, _, rfl, rfl, h₁', hr₂⟩ := (forms_append h₁ rfl).mp h₂'
    obtain ⟨f, name, _, _, rfl, rfl, hf, hr₁⟩ := (forms_append (anchorless_front ns) rfl).mp h₁'
    obtain ⟨_, rfl, hinner⟩ := forms_group.mp hr₁
    obtain ⟨hname, rfl⟩ := forms_run.mp hinner
    obtain ⟨hg, rfl⟩ := forms_gap.mp hr₂
    obtain ⟨hk, rfl⟩ := forms_keyPart.mp hr₃
    obtain ⟨rfl, rfl⟩ := forms_ofText.mp hr₄
    obtain ⟨rfl, -⟩ := forms_front.mp hf
    refine ⟨f, name, g, k, hf, hname, hg, hk, ?_, by simp⟩
    unfold groupsOf
    split <;> rfl
  · rintro ⟨f, name, g, k, hf, hname, hg, hk, rfl, rfl⟩
    refine ⟨f ++ name ++ g ++ k, "]]".toList, groupsOf name k, [], by simp, rfl, ?_,
      forms_ofText.mpr ⟨rfl, rfl⟩⟩
    refine (forms_append h₂ rfl).mpr ⟨_, k, [(1, name)], _, rfl, ?_, ?_,
      forms_keyPart.mpr ⟨hk, rfl⟩⟩
    · unfold groupsOf
      split <;> rfl
    refine (forms_append h₁ rfl).mpr ⟨_, g, [(1, name)], [], rfl, rfl, ?_, forms_gap.mpr ⟨hg, rfl⟩⟩
    exact (forms_append (anchorless_front ns) rfl).mpr ⟨f, name, [], [(1, name)], rfl, rfl, hf,
      forms_group.mpr ⟨[], rfl, forms_run.mpr ⟨hname, rfl⟩⟩⟩

-- -----------------------------------------------------------------------------------------
-- Links and readings
-- -----------------------------------------------------------------------------------------

/-- What a search tells of a link, whose name may have white space around it. -/
theorem link_of_forms (h : (linkPattern ns).Forms w gs) :
    ∃ x k name, Link ns w x k ∧ gs = groupsOf name k ∧ normalName name = normalName x := by
  obtain ⟨f, name, g, k, hf, hname, hg, hk, rfl, rfl⟩ := forms_linkPattern.mp h
  obtain ⟨-, g₁, n, g₂, g₃, hg₁, hn, hg₂, hg₃, rfl⟩ := forms_front.mp hf
  refine ⟨g₃ ++ (name ++ g), k, name, ?_, rfl, ?_⟩
  · have hx := hg₃.nameable.append (hname.append hg.nameable)
    have hlink := Link.intro hg₁ hn hg₂ hx hk
    simpa using hlink
  · rw [normalName_blank_append hg₃.blank, normalName_append_blank hg.blank]

theorem forms_of_link (h : Link ns w x k) : (linkPattern ns).Forms w (groupsOf x k) := by
  obtain ⟨hg, hn, hg', hx, hk⟩ := h
  rename_i g n g'
  refine forms_linkPattern.mpr ⟨"[[".toList ++ (g ++ (n ++ (g' ++ [':']))), x, [], k, ?_, hx,
    by simp [Gap], hk, rfl, by simp⟩
  exact forms_front.mpr ⟨rfl, g, n, g', [], hg, hn, hg', by simp [Gap], rfl⟩

theorem words_linkPattern : (linkPattern ns).Words w ↔ ∃ x k, Link ns w x k := by
  constructor
  · rintro ⟨gs, h⟩
    obtain ⟨x, k, -, hlink, -⟩ := link_of_forms h
    exact ⟨x, k, hlink⟩
  · rintro ⟨x, k, h⟩
    exact ⟨_, forms_of_link h⟩

-- -----------------------------------------------------------------------------------------
-- One reading
-- -----------------------------------------------------------------------------------------

theorem inGap_of_sameCase (h : anyCase (· == x) y = true) : inGap y = inGap x := by
  have hall : ∀ c ∈ " \t".toList, Chars.Caseless c := by decide
  refine Bool.eq_iff_iff.mpr ⟨fun hy => ?_, fun hx => ?_⟩
  · have hc := hall y (List.contains_iff_mem.mp hy)
    simp only [anyCase, hc.variants, List.any_cons, List.any_nil, Bool.or_false, Bool.or_self,
      beq_iff_eq] at h
    exact h ▸ hy
  · have hc := hall x (List.contains_iff_mem.mp hx)
    rw [anyCase_single hc, beq_iff_eq] at h
    exact h ▸ hx

theorem SameCaseless.takeWhile_gap (h : SameCaseless ns n) :
    (n.takeWhile inGap).length = (ns.takeWhile inGap).length := by
  induction h with
  | nil => rfl
  | cons hxy _ ih =>
    simp only [List.takeWhile_cons, inGap_of_sameCase hxy]
    split
    · simp [ih]
    · rfl

theorem Gap.append (h : Gap g) (h' : Gap g') : Gap (g ++ g') := fun c hc =>
  (List.mem_append.mp hc).elim (h c) (h' c)

theorem Gap.dropWhile (h : Gap g) (r : Text) : (g ++ ':' :: r).dropWhile inGap = ':' :: r :=
  Text.dropWhile_append_stop h fun c hc => by
    obtain rfl : ':' = c := by simpa using hc
    rfl

theorem SameCaseless.gap (h : SameCaseless ns n)
    (hns : (ns.takeWhile inGap).length = ns.length) : Gap n := by
  have hlen : (n.takeWhile inGap).length = n.length := by
    rw [h.takeWhile_gap, hns, h.length_eq]
  exact List.takeWhile_eq_self_iff.mp ((List.takeWhile_prefix inGap).eq_of_length hlen)

theorem SameCaseless.length_takeWhile (h : SameCaseless ns n)
    (hns : (ns.takeWhile inGap).length ≠ ns.length) (hg : Gap g) (r : Text) :
    ((g ++ (n ++ r)).takeWhile inGap).length = g.length + (ns.takeWhile inGap).length := by
  have hn : (n.takeWhile inGap).length ≠ n.length := by
    rwa [h.takeWhile_gap, ← h.length_eq]
  rw [List.takeWhile_append_of_pos hg, List.takeWhile_append, if_neg hn, List.length_append,
    h.takeWhile_gap]

/-- What follows the first colon after the namespace. The gap before the namespace goes as far as
all the gaps at the start, less those that the namespace itself begins with. -/
theorem front_unique (hg : Gap g) (hn : SameCaseless ns n) (hg' : Gap g') (hh : Gap h)
    (hm : SameCaseless ns m) (hh' : Gap h')
    (he : g ++ (n ++ (g' ++ (':' :: r))) = h ++ (m ++ (h' ++ (':' :: s)))) : r = s := by
  by_cases hns : (ns.takeWhile inGap).length = ns.length
  · have hleft := (hg.append ((hn.gap hns).append hg')).dropWhile r
    have hright := (hh.append ((hm.gap hns).append hh')).dropWhile s
    simp only [List.append_assoc] at hleft hright
    rw [he, hright] at hleft
    exact (List.cons.inj hleft).2.symm
  · have hlen : g.length = h.length := by
      have hleft := hn.length_takeWhile hns hg (g' ++ (':' :: r))
      have hright := hm.length_takeWhile hns hh (h' ++ (':' :: s))
      rw [he] at hleft
      omega
    obtain ⟨-, he⟩ := List.append_inj he hlen
    obtain ⟨-, he⟩ := List.append_inj he (hn.length_eq.symm.trans hm.length_eq)
    have hrest := hg'.dropWhile r
    rw [he, hh'.dropWhile s] at hrest
    exact (List.cons.inj hrest).2.symm

theorem KeyPart.head (h : KeyPart k) : k = [] ∨ ∃ key, k = '|' :: key := by
  cases h with
  | absent => exact .inl rfl
  | present => exact .inr ⟨_, rfl⟩

/-- A name and a key part are told apart by the first pipe. -/
theorem name_unique (hx : Nameable x) (hk : KeyPart k) (hy : Nameable y) (hl : KeyPart l)
    (he : x ++ k = y ++ l) : x = y ∧ k = l := by
  have hpipe : ∀ {x}, Nameable x → ∀ c ∈ x, (c != '|') = true := by
    intro x hx c hc
    have hall := hx c hc
    rw [bne_iff_ne]
    rintro rfl
    revert hall
    decide
  have hstop : ∀ {k}, KeyPart k → ∀ c ∈ k.head?, (c != '|') = false := by
    intro k hk
    rcases hk.head with rfl | ⟨key, rfl⟩ <;> simp
  exact Text.append_inj_of_stop (hpipe hx) (hstop hk) (hpipe hy) (hstop hl) he

/-- A link has one name and one key. -/
theorem Link.unique (h : Link ns w x k) (h' : Link ns w y l) : x = y ∧ k = l := by
  obtain ⟨hg, hn, hg', hx, hk⟩ := h
  rename_i g n g'
  generalize hw : "[[".toList ++ (g ++ (n ++ (g' ++ (':' :: (x ++ (k ++ "]]".toList)))))) = w at h'
  obtain ⟨hh, hm, hh', hy, hl⟩ := h'
  have hrest := front_unique hg hn hg' hh hm hh' (List.append_cancel_left hw)
  rw [← List.append_assoc, ← List.append_assoc] at hrest
  exact name_unique hx hk hy hl (List.append_cancel_right hrest)

-- -----------------------------------------------------------------------------------------
-- What a search tells of a link
-- -----------------------------------------------------------------------------------------

theorem Nameable.not_mem_brackets (h : Nameable x) : ∀ c ∈ x, c ∉ ['[', ']'] := by
  intro c hc hm
  have hall : ∀ c ∈ ['[', ']'], (!"[]|\n".toList.contains c) = false := by decide
  have hno := hall c hm
  rw [h c hc] at hno
  cases hno

theorem enclosing_linkPattern (hns : Nameable ns) : (linkPattern ns).Enclosing '[' ']' := by
  have hclosed : CaseClosure ['[', ']'] ['[', ']'] := by decide
  have hname : (ofText ns).caseless.avoids ['[', ']'] = true :=
    avoids_caseless hclosed (avoids_ofText hns.not_mem_brackets)
  have hanchor : (ofText ns).caseless.anchorless = true := by
    rw [anchorless_caseless, anchorless_ofText]
  have hsteady : (ofText ns).caseless.steady = true := by rw [steady_caseless, steady_ofText]
  have hgap : gap.avoids ['[', ']'] = true := by decide
  have hcolon : (lit ":").avoids ['[', ']'] = true := by decide
  have hgroup : (group 1 categoryName).avoids ['[', ']'] = true := by decide
  have hkey : (opt (group 2 sortKey)).avoids ['[', ']'] = true := by decide
  have hopening : Opening '[' ']' (front ns) :=
    (((((Opening.brackets '[' ']').append rfl hgap).append hanchor hname).append rfl hgap).append
      rfl hcolon).append rfl hgap
  have hall := (((hopening.append (q := group 1 categoryName) rfl hgroup).append rfl hgap).append
    (q := opt (group 2 sortKey)) rfl hkey).enclosing (by decide) (by
      simp only [front, steady_append, hsteady]
      rfl)
  rw [linkPattern_eq]
  exact hall

section
variable {p : Profile} {v : Vocabulary} (hv : Vocabulary.ofProfile p = .ok v)
  (hns : Nameable p.categoryNamespace)
include hv

theorem category_eq : v.category = (linkPattern p.categoryNamespace).compile :=
  (names_ofProfile hv).category

include hns

/-- What is told of a match is what its text says. -/
theorem read_match (hm : m ∈ v.category.matches' t) : ∃ x k, Link p.categoryNamespace m.text x k ∧
    nameOf m = normalName x ∧ m.group? 2 = if k = [] then none else some k := by
  rw [category_eq hv] at hm
  have hreads := reads_of_mem_matches (enclosing_linkPattern hns).toLexical hm
  obtain ⟨x, k, name, hlink, hgs, hname⟩ := link_of_forms hreads
  refine ⟨x, k, hlink, ?_, ?_⟩
  · have hgroup : m.group 1 = name := by
      rw [Match.group, m.group?_eq (by decide), hgs, groupsOf]
      split <;> rfl
    rw [nameOf, hgroup, hname]
  · rw [m.group?_eq (by decide), hgs, groupsOf]
    split <;> rfl

end

end Wikitext.Category
