import Wikitext.Proofs.Fix.CitationDates
import Wikitext.Proofs.Fix.Harmless
import Wikitext.Proofs.Fix.Passes

/-!
# What stays of citation templates

The rules for pages and addresses turn fields of other parameters into fields of other parameters
(`Renews`), and the one for empty fields takes away fields without a date; so none of them changes the
dates that a search finds. All of them keep a template a template, with nothing of it outside
(`Inside`): what they replace begins at the sign of a field and has no braces, and so does what they put
there. One pass after the other, each template is repaired on its own, and what is around the templates
stays (`templates_citations`).
-/

namespace Wikitext.Fix.Citations

open Pattern
open Category (Gap words_gap)

-- -----------------------------------------------------------------------------------------
-- Fields of other parameters
-- -----------------------------------------------------------------------------------------

/-- The name of the parameter has a letter that is in none of the names for dates. -/
def Foreign (g : Text) : Prop := ∃ a r, g = a ++ '=' :: r ∧ '=' ∉ a ∧ ('p' ∈ a ∨ 'u' ∈ a)

theorem Foreign.append (h : Foreign g) (s : Text) : Foreign (g ++ s) := by
  obtain ⟨a, r, rfl, ha⟩ := h
  exact ⟨a, r ++ s, by simp, ha⟩

theorem Has.exists_name (h : Has g p) :
    ∃ a r, g = a ++ '=' :: r ∧ ∀ c ∈ a, c ∉ "|=pu\x7b\x7d".toList := by
  obtain ⟨hp, s, hg, -⟩ := h
  obtain ⟨a, k, hkey, ha, -⟩ := words_key hp.key
  rw [Parts.text_append, hkey, List.cons_append, List.cons.injEq, List.append_assoc,
    List.cons_append] at hg
  exact ⟨a, _, hg.2, ha⟩

theorem Foreign.idle (h : Foreign g) : Idle '|' datePattern g := by
  rw [idle_iff]
  intro p hp
  obtain ⟨a, r, rfl, ha, hletter⟩ := h
  obtain ⟨a', r', heq, ha'⟩ := hp.exists_name
  obtain ⟨rfl, -⟩ := append_cons_inj ha (fun hmem => ha' '=' hmem (by decide)) heq
  rcases hletter with hmem | hmem
  · exact ha' 'p' hmem (by decide)
  · exact ha' 'u' hmem (by decide)

/-- The beginning of a field of another parameter becomes another one. -/
inductive Renews : Text → Text → Prop
  | intro : Plain x → Plain x' → Foreign x → Foreign x' → Renews ('|' :: x) ('|' :: x')

/-- The beginning of the field of a parameter, up to the value. -/
def parameter (name : Text) : Pattern := lit "|" ++ gap ++ ofText name ++ gap ++ lit "=" ++ gap

def pageRange : Pattern :=
  ([.out (lit "page"), .group 2 (gap ++ lit "=" ++ gap ++ many1 digit ++ gap ++ dash ++ gap ++
    many1 digit)].map Item.whole).foldl (· ++ ·) (group 1 (lit "|" ++ gap))

def pagesWithHyphen : Pattern :=
  ([.group 2 (many1 digit), .out gap, .out (lit "-"), .out gap, .group 3 (many1 digit)].map
    Item.whole).foldl (· ++ ·) (group 1 (parameter "pages".toList)) ++ boundary

def bareAddress : Pattern :=
  ([.group 2 (lit "www.")].map Item.whole).foldl (· ++ ·) (group 1 (parameter "url".toList))

def emptyField : Pattern := lit "|" ++ gap ++ lit "|"

def asPages (m : Match) : Text := m.group 1 ++ "pages".toList ++ m.group 2

def withDash (m : Match) : Text := m.group 1 ++ m.group 2 ++ "–".toList ++ m.group 3

def withScheme (m : Match) : Text := m.group 1 ++ "http://".toList ++ m.group 2

theorem citationTable_eq : citationTable = [.of pageRange asPages, .of pagesWithHyphen withDash,
    .of bareAddress withScheme, .of emptyField fun _ => ['|']] := rfl

theorem foreign_parameter (hg : Gap g) (hg' : Gap g') {name : Text} (hname : '=' ∉ name)
    (hletter : 'p' ∈ name ∨ 'u' ∈ name) (r : Text) : Foreign (g ++ (name ++ (g' ++ '=' :: r))) := by
  have hgap : ∀ {g}, Gap g → '=' ∉ g := fun hg hmem => absurd (hg '=' hmem) (by decide)
  refine ⟨g ++ (name ++ g'), r, by simp, ?_, ?_⟩
  · simp [hgap hg, hgap hg', hname]
  · exact hletter.imp (by simp +contextual) (by simp +contextual)

/-- The beginning of a field. -/
theorem words_bar (h : (lit "|" ++ gap).Words w) : ∃ g, w = '|' :: g ∧ Gap g := by
  obtain ⟨_, g, rfl, hbar, hg⟩ := (words_append rfl rfl).mp h
  obtain rfl := words_ofText.mp hbar
  exact ⟨g, rfl, words_gap.mp hg⟩

theorem words_parameter (h : (parameter name).Words w) : ∃ g g' g'', Gap g ∧ Gap g' ∧ Gap g'' ∧
    w = '|' :: (g ++ (name ++ (g' ++ '=' :: g''))) := by
  have hname : (lit "|" ++ gap ++ ofText name).anchorless = true := by
    rw [anchorless_append, anchorless_ofText]
    rfl
  have hgap : (lit "|" ++ gap ++ ofText name ++ gap).anchorless = true := by
    rw [anchorless_append, hname]
    rfl
  have hequals : (lit "|" ++ gap ++ ofText name ++ gap ++ lit "=").anchorless = true := by
    rw [anchorless_append, hgap]
    rfl
  obtain ⟨_, g'', rfl, h, hg''⟩ := (words_append hequals rfl).mp h
  obtain ⟨_, _, rfl, h, hsign⟩ := (words_append hgap rfl).mp h
  obtain ⟨_, g', rfl, h, hg'⟩ := (words_append hname rfl).mp h
  obtain ⟨_, _, rfl, h, hn⟩ := (words_append rfl (anchorless_ofText _)).mp h
  obtain ⟨g, rfl, hg⟩ := words_bar h
  obtain rfl := words_ofText.mp hsign
  obtain rfl := words_ofText.mp hn
  exact ⟨g, g', g'', hg, words_gap.mp hg', words_gap.mp hg'', by simp⟩

theorem renews_pageRange {m : Match}
    (h : pageRange.Reads b w r m.captures.texts) : Renews w (asPages m) := by
  obtain ⟨_, _, hbar, hws, rfl, hgs⟩ := (reads_items rfl rfl rfl).mp h
  obtain ⟨⟩ | ⟨hname, ⟨⟩ | ⟨⟨_, hrange⟩, ⟨⟩⟩⟩ := hws
  obtain ⟨g, rfl, hg⟩ := words_bar hbar
  obtain rfl := words_ofText.mp hname
  have hplain : Plain _ := hrange.avoids (by decide)
  have hvalue : ∀ p ∈ [gap, many1 digit, gap, dash, gap, many1 digit], p.anchorless = true := by decide
  obtain ⟨_, y, _, _, rfl, -, hequals, -⟩ := (reads_foldl hvalue (q := gap ++ lit "=")).mp hrange
  obtain ⟨g', _, rfl, hg', hsign⟩ := (words_append rfl rfl).mp ⟨_, hequals.anywhere rfl none []⟩
  obtain rfl := words_ofText.mp hsign
  have hg' := words_gap.mp hg'
  rw [asPages, m.group_eq_of_texts hgs (by decide) rfl, m.group_eq_of_texts hgs (by decide) rfl]
  have hfield : ∀ name : Text, Plain name → '=' ∉ name → 'p' ∈ name →
      Plain (g ++ (name ++ (g' ++ '=' :: y))) ∧ Foreign (g ++ (name ++ (g' ++ '=' :: y))) :=
    fun _ hname hsign hletter => ⟨(plain_of_gap hg).append (hname.append (by simpa using hplain)),
      foreign_parameter hg hg' hsign (.inl hletter) y⟩
  have hold := hfield "page".toList (by decide) (by decide) (by decide)
  have hnew := hfield "pages".toList (by decide) (by decide) (by decide)
  simpa using Renews.intro hold.1 hnew.1 hold.2 hnew.2

theorem renews_parameter {name : Text} (hk : (parameter name).Words k) (hname : Plain name)
    (hsign : '=' ∉ name) (hletter : 'p' ∈ name ∨ 'u' ∈ name) (hx : Plain x) (hx' : Plain x') :
    Renews (k ++ x) (k ++ x') := by
  obtain ⟨g, g', g'', hg, hg', hg'', rfl⟩ := words_parameter hk
  have hfield : ∀ {x}, Plain x → Plain (g ++ (name ++ (g' ++ '=' :: (g'' ++ x)))) ∧
      Foreign (g ++ (name ++ (g' ++ '=' :: (g'' ++ x)))) := fun hx =>
    ⟨(plain_of_gap hg).append (hname.append ((plain_of_gap hg').append
      (.cons (by decide) ((plain_of_gap hg'').append hx)))), foreign_parameter hg hg' hsign hletter _⟩
  simpa using Renews.intro (hfield hx).1 (hfield hx').1 (hfield hx).2 (hfield hx').2

theorem renews_pagesWithHyphen {m : Match}
    (h : pagesWithHyphen.Reads b w r m.captures.texts) : Renews w (withDash m) := by
  generalize hgs : m.captures.texts = gs at h
  obtain ⟨hw, hend⟩ := reads_seq_iff.mp h
  obtain ⟨rfl, rfl, -⟩ := reads_boundary.mp hend
  obtain ⟨k, _, hk, hws, rfl, rfl⟩ := (reads_items rfl rfl rfl).mp hw
  obtain ⟨⟩ | ⟨⟨_, hn⟩, ⟨⟩ | ⟨hg, ⟨⟩ | ⟨hhyphen, ⟨⟩ | ⟨hg', ⟨⟩ | ⟨⟨_, hn'⟩, ⟨⟩⟩⟩⟩⟩⟩ := hws
  obtain rfl := words_ofText.mp hhyphen
  have hplain : Plain _ := hn.avoids (by decide)
  have hplain' : Plain _ := hn'.avoids (by decide)
  rw [withDash, m.group_eq_of_texts hgs (by decide) rfl, m.group_eq_of_texts hgs (by decide) rfl,
    m.group_eq_of_texts hgs (by decide) rfl]
  simp only [List.append_nil, List.append_assoc]
  refine renews_parameter hk (by decide) (by decide) (by decide) ?_ ?_
  · exact hplain.append ((plain_of_gap (words_gap.mp hg)).append (.append (by decide)
      ((plain_of_gap (words_gap.mp hg')).append (hplain'.append (by decide)))))
  · exact hplain.append (.append (by decide) hplain')

theorem renews_bareAddress {m : Match}
    (h : bareAddress.Reads b w r m.captures.texts) : Renews w (withScheme m) := by
  obtain ⟨k, _, hk, hws, rfl, hgs⟩ := (reads_items rfl rfl rfl).mp h
  obtain ⟨⟩ | ⟨hstart, ⟨⟩⟩ := hws
  obtain rfl := words_ofText.mp hstart
  rw [withScheme, m.group_eq_of_texts hgs (by decide) rfl, m.group_eq_of_texts hgs (by decide) rfl,
    List.append_assoc]
  exact renews_parameter hk (by decide) (by decide) (by decide) (by decide) (by decide)

theorem headed_parameter (name : Text) (h : '|' ∉ name) : Headed '|' (parameter name) := by
  have hname : (ofText name).avoids ['|'] = true :=
    avoids_ofText fun c hc hbar => h (List.mem_singleton.mp hbar ▸ hc)
  exact (((((Headed.sign '|').append (q := gap) (by decide)).append hname).append (q := gap)
    (by decide)).append (q := lit "=") (by decide)).append (q := gap) (by decide)

theorem fielded_pageRange : Fielded '|' pageRange where
  toHeaded := (((Headed.sign '|').append (q := gap) (by decide)).group.append (q := lit "page")
    (by decide)).append (by decide)
  steady := rfl
  nullable := rfl
  bounded := rfl
  sign := by decide

theorem fielded_bareAddress : Fielded '|' bareAddress where
  toHeaded := (headed_parameter _ (by decide)).group.append (by decide)
  steady := rfl
  nullable := rfl
  bounded := rfl
  sign := by decide

theorem fielded_pagesWithHyphen : Fielded '|' pagesWithHyphen where
  toHeaded := ((((((headed_parameter _ (by decide)).group.append (by decide)).append (by decide)).append
    (by decide)).append (by decide)).append (by decide)).append (by decide)
  steady := rfl
  nullable := rfl
  bounded := rfl
  sign := by decide

-- -----------------------------------------------------------------------------------------
-- The rules leave dates alone
-- -----------------------------------------------------------------------------------------

/-- Fields of other parameters are found, and rewritten. -/
structure Renewing (p : Pattern) (f : Match → Text) : Prop extends Fielded '|' p where
  renews : ∀ {b w r} {m : Match}, p.Reads b w r m.captures.texts → Renews w (f m)

theorem Renewing.fieldDates_eq (hp : Renewing p f) (h : ByField '|' p f gs ms gs')
    (hgs : ∀ g ∈ gs, '|' ∉ g) (hgs' : ∀ g ∈ gs', '|' ∉ g) : fieldDates gs' = fieldDates gs := by
  induction h with
  | nil => rfl
  | keep _ _ ih =>
    rw [List.forall_mem_cons] at hgs hgs'
    rw [fieldDates_cons, fieldDates_cons, ih hgs.2 hgs'.2]
  | @hit x s m x' gs ms gs' hreads _ hf _ ih =>
    rw [List.forall_mem_cons] at hgs hgs'
    have hrenews := hp.renews hreads
    rw [hf] at hrenews
    cases hrenews with
    | intro _ _ hx hx' =>
      rw [fieldDates_cons, fieldDates_cons, ih hgs.2 hgs'.2, dates_of_idle (hx.append s).idle hgs.1,
        dates_of_idle (hx'.append s).idle hgs'.1]

theorem Renewing.dates_eq (hp : Renewing p f) (t : Text) :
    dates ((Replacement.of p f).apply t) = dates t := by
  have hnew : ∀ m ∈ p.compile.matches' t, ∃ x, f m = '|' :: x ∧ '|' ∉ x := by
    intro m hm
    obtain ⟨b, w, r, -, htakes⟩ := takes_of_mem_matches hm
    generalize hf : f m = v
    cases hf ▸ hp.renews htakes.reads with
    | intro _ hx' => exact ⟨_, rfl, hx'.not_mem⟩
  obtain ⟨g, gs, gs', hsplit, hsplit', hfields⟩ := byField_replaceAll hp.toFielded t hnew
  have hsame := hp.fieldDates_eq hfields (bars_of_splitOn hsplit) (bars_of_splitOn hsplit')
  exact (Citations.dates_eq hsplit').trans (hsame.trans (Citations.dates_eq hsplit).symm)

theorem renewing_pageRange : Renewing pageRange asPages where
  toFielded := fielded_pageRange
  renews := renews_pageRange

theorem renewing_pagesWithHyphen : Renewing pagesWithHyphen withDash where
  toFielded := fielded_pagesWithHyphen
  renews := renews_pagesWithHyphen

theorem renewing_bareAddress : Renewing bareAddress withScheme where
  toFielded := fielded_bareAddress
  renews := renews_bareAddress

theorem lexical_emptyField : emptyField.Lexical := ⟨rfl, rfl, rfl⟩

theorem words_emptyField (h : emptyField.Words w) : ∃ g, w = '|' :: (g ++ ['|']) ∧ Gap g := by
  obtain ⟨_, _, rfl, h, hbar⟩ := (words_append rfl rfl).mp h
  obtain ⟨g, rfl, hg⟩ := words_bar h
  obtain rfl := words_ofText.mp hbar
  exact ⟨g, rfl, hg⟩

theorem idle_of_gap (h : Gap g) : Idle '|' datePattern g := by
  rw [idle_iff]
  intro p hp
  obtain ⟨a, r, rfl, -⟩ := hp.exists_name
  exact absurd (h '=' (by simp)) (by decide)

theorem fieldDates_append (gs gs' : List Text) :
    fieldDates (gs ++ gs') = fieldDates gs ++ fieldDates gs' := List.flatMap_append

/-- Fields with nothing in them have no date. -/
theorem fieldDates_of_outlined (h : Outlined emptyField t parts tail) : ∃ g gs gs',
    Text.splitOn '|' t = g :: gs ∧
      Text.splitOn '|' (parts.flatMap (fun part => part.1 ++ ['|']) ++ tail) = g :: gs' ∧
      fieldDates gs' = fieldDates gs := by
  induction h with
  | @nil u =>
    obtain ⟨g, gs, hsplit⟩ := Text.exists_splitOn '|' u
    exact ⟨g, gs, gs, hsplit, by simpa using hsplit, rfl⟩
  | @cons u m w r parts tail _ hm _ ih =>
    obtain ⟨k, gs, gs', hr, hr', hdates⟩ := ih
    obtain ⟨g, rfl, hg⟩ := words_emptyField ⟨_, hm.reads⟩
    obtain ⟨a, us, hu⟩ := Text.exists_splitOn '|' u
    have hbar := (plain_of_gap hg).not_mem
    refine ⟨a, us ++ g :: k :: gs, us ++ k :: gs', ?_, ?_, ?_⟩
    · simp only [List.cons_append, List.append_assoc, List.nil_append, Text.splitOn_append_cons, hu,
        Text.splitOn_of_not_mem hbar, hr]
    · simp only [List.flatMap_cons, List.cons_append, List.append_assoc, List.nil_append,
        Text.splitOn_append_cons, hu, hr']
    · simp only [fieldDates_append, fieldDates_cons, hdates, dates_of_idle (idle_of_gap hg) hbar,
        List.nil_append]

theorem dates_emptyField (t : Text) :
    dates ((Replacement.of emptyField fun _ => ['|']).apply t) = dates t := by
  obtain ⟨parts, tail, hout, hpieces⟩ := exists_outline lexical_emptyField t
  obtain ⟨g, gs, gs', hsplit, hsplit', hdates⟩ := fieldDates_of_outlined hout
  rw [← replaceAll_of_pieces hpieces fun _ => ['|']] at hsplit'
  exact (dates_eq hsplit').trans (hdates.trans (dates_eq hsplit).symm)

theorem dates_citationTable (t : Text) : dates (replaceUntilStable citationTable t) = dates t := by
  refine untilStable_related (R := fun t t' => dates t' = dates t) (fun _ => rfl)
    (fun h h' => h'.trans h) (fun t => ?_) t
  rw [citationTable_eq]
  simp only [replaceOnce, List.foldl_cons, List.foldl_nil, dates_emptyField,
    renewing_bareAddress.dates_eq, renewing_pagesWithHyphen.dates_eq, renewing_pageRange.dates_eq]

-- -----------------------------------------------------------------------------------------
-- Templates stay templates
-- -----------------------------------------------------------------------------------------

def opening : Pattern :=
  lit "\x7b\x7b" ++ gap ++
    (lit "cite" ++ oneOf " _" ++ many (noneOf "|\x7b\x7d") <|> lit "citation") ++ gap

def citationPattern : Pattern :=
  (opening ++ lit "|" ++ many (noneOf "\x7b\x7d") ++ lit "\x7d\x7d").caseless

theorem citationTemplate_eq : citationTemplate = citationPattern.compile := rfl

theorem caseless_citationPattern : citationPattern =
    opening.caseless ++ lit "|" ++ many (noneOf "\x7b\x7d") ++ lit "\x7d\x7d" := by
  have hbar : (lit "|").caseless = lit "|" := caseless_ofText (by decide)
  have hclose : (lit "\x7d\x7d").caseless = lit "\x7d\x7d" := caseless_ofText (by decide)
  have hbody : (many (noneOf "\x7b\x7d")).caseless = many (noneOf "\x7b\x7d") :=
    congrArg many (caseless_noneOf (by decide))
  rw [citationPattern, caseless_append, caseless_append, caseless_append, hbar, hclose, hbody]

theorem enclosing_citationPattern : citationPattern.Enclosing '{' '}' := by
  have hopen : (lit "\x7b\x7b").caseless = ofText ['{', '{'] := caseless_ofText (by decide)
  have hgap : gap.caseless.avoids ['{', '}'] = true := by decide
  have hname : (lit "cite" ++ oneOf " _" ++ many (noneOf "|\x7b\x7d") <|>
      lit "citation").caseless.avoids ['{', '}'] = true := by decide
  rw [caseless_citationPattern]
  refine Opening.enclosing ?_ (by decide) rfl
  simp only [opening, caseless_append, hopen]
  exact (((((Opening.brackets '{' '}').append rfl hgap).append rfl hname).append rfl hgap).append
    (q := lit "|") rfl (by decide)).append rfl (by decide)

/-- Without braces. -/
def Braceless (t : Text) : Prop := ∀ c ∈ t, (!"\x7b\x7d".toList.contains c) = true

instance (t : Text) : Decidable (Braceless t) :=
  inferInstanceAs (Decidable (∀ c ∈ t, (!"\x7b\x7d".toList.contains c) = true))

theorem Braceless.append (ht : Braceless t) (ht' : Braceless t') : Braceless (t ++ t') := fun c hc =>
  (List.mem_append.mp hc).elim (ht c) (ht' c)

theorem Braceless.not_mem (ht : Braceless t) : '}' ∉ t := fun hmem => by
  have hin := ht '}' hmem
  revert hin
  decide

theorem Plain.braceless (h : Plain t) : Braceless t := fun c hc => by
  have hbraces : ∀ c ∈ "\x7b\x7d".toList, c ∈ "|\x7b\x7d".toList := by decide
  have hout : c ∉ "\x7b\x7d".toList := fun hmem => h c hc (hbraces c hmem)
  simpa using hout

theorem words_citationPattern : citationPattern.Words w ↔ ∃ u y, opening.caseless.Words u ∧
    Braceless y ∧ w = u ++ '|' :: (y ++ ['}', '}']) := by
  rw [caseless_citationPattern, words_append rfl rfl]
  constructor
  · rintro ⟨_, _, rfl, h, hclose⟩
    obtain ⟨_, y, rfl, h, _, hy⟩ := (words_append rfl rfl).mp h
    obtain ⟨u, _, rfl, hu, hbar⟩ := (words_append rfl rfl).mp h
    obtain rfl := words_ofText.mp hclose
    obtain rfl := words_ofText.mp hbar
    exact ⟨u, y, hu, (forms_run.mp hy).1, by simp⟩
  · rintro ⟨u, y, hu, hy, rfl⟩
    have hlit : ∀ t, (ofText t).Words t := fun t => words_ofText.mpr rfl
    refine ⟨u ++ ("|".toList ++ y), _, by simp, ?_, hlit _⟩
    refine (words_append rfl rfl).mpr ⟨u ++ "|".toList, y, by simp, ?_, [], forms_run.mpr ⟨hy, rfl⟩⟩
    exact (words_append rfl rfl).mpr ⟨u, _, rfl, hu, hlit _⟩

/-- The text begins a field, and has no braces. -/
def Barred (w : Text) : Prop := ∃ x, w = '|' :: x ∧ Braceless x

/-- What is replaced begins a field, and so does what is put in its place. -/
structure Inside (p : Pattern) (f : Match → Text) : Prop where
  steady : p.steady = true
  nullable : p.nullable = false
  old : ∀ {m b w r}, Takes p m b w r → Barred w
  new : ∀ {m b w r}, Takes p m b w r → Barred (f m)

namespace Inside

variable {p : Pattern} {f : Match → Text} (hp : Inside p f)
include hp

/-- What stands in front of the fields stays. -/
theorem behind (h : Replaces p f b (u ++ t) t') (hu : '|' ∉ u) :
    ∃ v, t' = u ++ v ∧ Replaces p f (lastOf b u) t v := by
  generalize ht : u ++ t = s at h
  cases h with
  | rest hvacant =>
    subst ht
    exact ⟨t, rfl, .rest hvacant.behind⟩
  | @hit _ a w r m r' hvacant hm hrest =>
    obtain ⟨x, rfl, -⟩ := hp.old hm
    obtain ⟨k, rfl⟩ := exists_append_of_not_mem hu ht
    rw [List.append_assoc, List.append_cancel_left_eq] at ht
    subst ht
    rw [lastOf_append] at hm hrest
    exact ⟨k ++ (f m ++ r'), by simp, .hit hvacant.behind hm hrest⟩

/-- The end of the template stays: by induction on the matches, none of which reaches into it. -/
theorem closes (h : Replaces p f b t t') (ht : t = y ++ ['}', '}']) (hy : Braceless y) :
    ∃ y', t' = y' ++ ['}', '}'] ∧ Braceless y' := by
  induction h generalizing y with
  | rest => exact ⟨y, ht, hy⟩
  | @hit b u w r m r' _ hm _ ih =>
    obtain ⟨x, rfl, hx⟩ := hp.old hm
    obtain ⟨x', hnew, hx'⟩ := hp.new hm
    have hbar : Braceless ['|'] := by decide
    obtain ⟨k, rfl, rfl⟩ | ⟨k, -, hend⟩ := append_cases_of_not_mem (hbar.append hx).not_mem ht
    · obtain ⟨hu, hy⟩ := List.forall_mem_append.mp hy
      obtain ⟨y', rfl, hy'⟩ := ih rfl (List.forall_mem_append.mp hy).2
      exact ⟨u ++ ('|' :: x' ++ y'), by simp [hnew], Braceless.append hu ((hbar.append hx').append hy')⟩
    · have hmem : '|' ∈ ['}'] := by
        rw [hend]
        simp
      exact absurd hmem (by decide)

theorem begins (h : Replaces p f b ('|' :: t) t') : ∃ v, t' = '|' :: v := by
  generalize hs : '|' :: t = s at h
  cases h with
  | rest => exact ⟨t, hs.symm⟩
  | @hit _ u w r m r' _ hm =>
    obtain ⟨x', hnew, -⟩ := hp.new hm
    cases u with
    | nil => exact ⟨x' ++ r', by simp [hnew]⟩
    | cons c u =>
      obtain ⟨rfl, -⟩ := List.cons.inj hs
      exact ⟨_, rfl⟩

theorem words (h : citationPattern.Words w) : citationPattern.Words (p.compile.replaceAll f w) := by
  obtain ⟨u, y, hu, hy, rfl⟩ := words_citationPattern.mp h
  have hopening : '|' ∉ u := by
    obtain ⟨_, hu⟩ := hu
    exact hu.not_mem (by decide)
  have hall := replaces_replaceAll hp.steady hp.nullable f (u ++ '|' :: (y ++ ['}', '}']))
  obtain ⟨v, hv, hfields⟩ := hp.behind hall hopening
  obtain ⟨v', rfl⟩ := hp.begins hfields
  have hbar : Braceless ['|'] := by decide
  obtain ⟨y', hend, hy'⟩ := hp.closes (y := '|' :: y) hfields rfl (hbar.append hy)
  rw [hv]
  cases y' with
  | nil => cases hend
  | cons c y' =>
    obtain ⟨rfl, rfl⟩ := List.cons.inj hend
    exact words_citationPattern.mpr ⟨u, y', hu, (List.forall_mem_cons.mp hy').2, rfl⟩

end Inside

theorem barred_of_plain (h : Plain x) : Barred ('|' :: x) := ⟨x, rfl, h.braceless⟩

theorem Renews.barred (h : Renews w w') : Barred w ∧ Barred w' := by
  cases h with
  | intro hx hx' => exact ⟨barred_of_plain hx, barred_of_plain hx'⟩

theorem Renewing.inside (hp : Renewing p f) : Inside p f where
  steady := hp.steady
  nullable := hp.nullable
  old hm := (hp.renews hm.reads).barred.1
  new hm := (hp.renews hm.reads).barred.2

theorem inside_emptyField : Inside emptyField fun _ => ['|'] where
  steady := rfl
  nullable := rfl
  old hm := by
    obtain ⟨g, rfl, hg⟩ := words_emptyField ⟨_, hm.reads.anywhere rfl none []⟩
    exact ⟨g ++ ['|'], rfl, (plain_of_gap hg).braceless.append (by decide)⟩
  new _ := ⟨[], rfl, by decide⟩

theorem Parts.Valid.barred {p : Parts} (h : p.Valid) : Barred p.text := by
  obtain ⟨x, hx, hplain⟩ := h.exists_text
  exact hx ▸ barred_of_plain hplain

theorem inside_padDate : Inside datePattern padDate where
  steady := rfl
  nullable := rfl
  old hm := by
    obtain ⟨p, hp, rfl, -, -⟩ := reads_datePattern.mp hm.reads
    exact hp.barred
  new hm := by
    obtain ⟨p, hp, htext, hgs, -⟩ := reads_datePattern.mp hm.reads
    rw [padDate_eq hgs (hm.text.trans htext)]
    exact (Parts.valid_padded hp).barred

/-- One pass over the text of a template. -/
def repair (w : Text) : Text :=
  isoDateParameter.replaceAll padDate (replaceUntilStable citationTable w)

theorem words_citationTable (h : citationPattern.Words w) :
    citationPattern.Words (replaceUntilStable citationTable w) := by
  refine untilStable_related (R := fun t t' => citationPattern.Words t → citationPattern.Words t')
    (fun _ h => h) (fun h h' ht => h' (h ht)) (fun t ht => ?_) w h
  rw [citationTable_eq]
  exact inside_emptyField.words (renewing_bareAddress.inside.words
    (renewing_pagesWithHyphen.inside.words (renewing_pageRange.inside.words ht)))

theorem words_repair (h : citationPattern.Words w) : citationPattern.Words (repair w) := by
  rw [repair, isoDateParameter_eq]
  exact inside_padDate.words (words_citationTable h)

theorem dates_repair (w : Text) : dates (repair w) = (dates w).map Parts.padded := by
  rw [repair, dates_padDate, dates_citationTable]

-- -----------------------------------------------------------------------------------------
-- The fix
-- -----------------------------------------------------------------------------------------

/-- The texts of the citation templates. -/
def templates (t : Text) : List Text := (citationTemplate.matches' t).map (·.text)

/-- Each template is repaired, and what is around the templates stays. -/
theorem templates_pass (t : Text) :
    templates (citationTemplate.replaceAll repairCitation t) = (templates t).map repair ∧
      citationTemplate.outside (citationTemplate.replaceAll repairCitation t) =
        citationTemplate.outside t := by
  rw [templates, templates, citationTemplate_eq, List.map_map]
  refine matches_replaceAll enclosing_citationPattern.toLexical enclosing_citationPattern.separate
    fun m hm => words_repair ⟨_, reads_of_mem_matches enclosing_citationPattern.toLexical hm⟩

theorem templates_citations (t : Text) : templates (citations t) = (templates t).map repair^[maxPasses] ∧
    citationTemplate.outside (citations t) = citationTemplate.outside t := by
  rw [citations, untilStable_eq_iterate]
  induction maxPasses generalizing t with
  | zero => simp
  | succ n ih =>
    obtain ⟨htemplates, houtside⟩ := ih (citationTemplate.replaceAll repairCitation t)
    obtain ⟨hfirst, hkept⟩ := templates_pass t
    rw [Function.iterate_succ_apply, htemplates, houtside, hfirst, hkept, List.map_map,
      Function.iterate_succ]
    exact ⟨rfl, rfl⟩

theorem dates_iterate (n : Nat) (w : Text) :
    dates (repair^[n + 1] w) = (dates w).map Parts.padded := by
  induction n generalizing w with
  | zero => exact dates_repair w
  | succ n ih =>
    rw [Function.iterate_succ_apply, ih, dates_repair, List.map_map]
    exact List.map_congr_left fun p _ => p.padded_padded

/-- The date in the second match is that in the first one, in four, two and two digits; a value that is
no calendar date is the same text. -/
structure KeepsDate (m m' : Match) : Prop where
  key : m'.group 1 = m.group 1
  date : (Parts.ofMatch m').date? = (Parts.ofMatch m).date?
  padded : (Parts.ofMatch m).date?.isSome →
    (m'.group 2).length = 4 ∧ (m'.group 3).length = 2 ∧ (m'.group 4).length = 2
  text : (Parts.ofMatch m).date? = none → m'.text = m.text

/-- The match is the text of its parts. -/
def Spelt (m : Match) : Prop := (Parts.ofMatch m).Valid ∧ m.text = (Parts.ofMatch m).text

theorem spelt_of_mem_matches (h : m ∈ isoDateParameter.matches' t) : Spelt m := by
  obtain ⟨p, hp, htext, hgs⟩ := text_of_mem_matches h
  obtain rfl := Parts.ofMatch_eq hgs
  exact ⟨hp, htext⟩

theorem keepsDate (hm : Spelt m) (hm' : Spelt m')
    (h : Parts.ofMatch m' = (Parts.ofMatch m).padded) : KeepsDate m m' where
  key := (congrArg Parts.key h).trans (Parts.key_padded _)
  date := by rw [h, Parts.date?_padded]
  padded hdate := by
    obtain ⟨date, hdate⟩ := Option.isSome_iff_exists.mp hdate
    obtain ⟨hy, hd, hd'⟩ := hm.1.padded hdate
    rw [← h] at hy hd hd'
    exact ⟨hy.most.antisymm hy.least, hd.most.antisymm hd.least, hd'.most.antisymm hd'.least⟩
  text hdate := by rw [hm'.2, h, Parts.padded_of_none hdate, ← hm.2]

theorem forall₂_keepsDate (hms : ∀ m ∈ ms, Spelt m) (hms' : ∀ m ∈ ms', Spelt m)
    (h : ms'.map Parts.ofMatch = (ms.map Parts.ofMatch).map Parts.padded) :
    List.Forall₂ KeepsDate ms ms' := by
  induction ms generalizing ms' with
  | nil =>
    obtain rfl := List.map_eq_nil_iff.mp h
    exact .nil
  | cons m ms ih =>
    obtain ⟨m', ms', rfl, hm', hrest⟩ := List.map_eq_cons_iff.mp h
    rw [List.forall_mem_cons] at hms hms'
    exact .cons (keepsDate hms.1 hms'.1 hm') (ih hms.2 hms'.2 hrest)

/-- The fix changes nothing but citation templates, and it keeps the dates in them. -/
theorem citations_keep (t : Text) :
    citationTemplate.outside (citations t) = citationTemplate.outside t ∧
      List.Forall₂ (fun w w' => List.Forall₂ KeepsDate (isoDateParameter.matches' w)
        (isoDateParameter.matches' w')) (templates t) (templates (citations t)) := by
  obtain ⟨htemplates, houtside⟩ := templates_citations t
  refine ⟨houtside, ?_⟩
  rw [htemplates, List.forall₂_map_right_iff, List.forall₂_same]
  intro w _
  exact forall₂_keepsDate (fun _ => spelt_of_mem_matches) (fun _ => spelt_of_mem_matches)
    (dates_iterate (maxPasses - 1) w)

end Wikitext.Fix.Citations
