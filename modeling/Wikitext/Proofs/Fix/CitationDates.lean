import Wikitext.Fix.Citations
import Wikitext.Proofs.Category.Link
import Wikitext.Proofs.Pattern.Fields
import Wikitext.Proofs.Pattern.Phrase
import Wikitext.Proofs.Text.Number

/-!
# Dates in the fields of templates

A field of a template has one date at most (`Parts.Valid.unique`), and the search for dates finds the
dates of the fields (`dates_eq`), whatever else stands in the template. A date that is filled up with
zeros is the same calendar date, is found again, and is not filled up any more (`Parts.padded_padded`);
so the dates of a text in which dates are filled up are its dates, filled up (`dates_padDate`).
-/

namespace Wikitext.Fix.Citations

open Pattern
open Category (Gap words_gap)
open Chars (isDigit inWord)

-- -----------------------------------------------------------------------------------------
-- What a date is made of
-- -----------------------------------------------------------------------------------------

/-- The beginning of a field, up to the sign behind the name of its parameter. -/
def front : Pattern :=
  lit "|" ++ gap ++ firstOf [lit "access" ++ opt (lit "-") ++ lit "date", lit "date",
    lit "archive" ++ opt (lit "-") ++ lit "date"] ++ gap

def key : Pattern := (front ++ lit "=" ++ gap).caseless

def dateItems : Shape :=
  [.group 2 (exactly 4 digit), .out (lit "-"), .group 3 (between 1 2 digit), .out (lit "-"),
    .group 4 (between 1 2 digit)]

def datePattern : Pattern :=
  (dateItems.map Item.whole).foldl (· ++ ·) (group 1 key) ++ boundary

theorem isoDateParameter_eq : isoDateParameter = datePattern.compile := by
  have hdash : (lit "-").caseless = lit "-" := caseless_ofText (by decide)
  have hdigits : ∀ least most, (between least most digit).caseless = between least most digit :=
    fun least most => congrArg (times least (some most) true) caseless_digit
  have hyear : (exactly 4 digit).caseless = exactly 4 digit := hdigits 4 4
  refine congrArg Pattern.compile ?_
  change (group 1 key ++ group 2 (exactly 4 digit).caseless ++ (lit "-").caseless ++
    group 3 (between 1 2 digit).caseless ++ (lit "-").caseless ++
    group 4 (between 1 2 digit).caseless ++ boundary) = _
  rw [hdash, hyear, hdigits]
  rfl

/-- What the groups of a date are: the beginning of the field up to the value, the year, the month and
the day. -/
structure Parts where
  key : Text
  year : Text
  month : Text
  day : Text

namespace Parts

def ofMatch (m : Match) : Parts := ⟨m.group 1, m.group 2, m.group 3, m.group 4⟩

def text (p : Parts) : Text := p.key ++ (p.year ++ '-' :: (p.month ++ '-' :: p.day))

def groups (p : Parts) : Groups := [(4, p.day), (3, p.month), (2, p.year), (1, p.key)]

theorem ofMatch_eq {m : Match} {p : Parts} (h : m.captures.texts = p.groups) : ofMatch m = p := by
  rw [ofMatch, m.group_eq_of_texts h (by decide) rfl, m.group_eq_of_texts h (by decide) rfl,
    m.group_eq_of_texts h (by decide) rfl, m.group_eq_of_texts h (by decide) rfl]

end Parts

/-- As many digits as the bounds say. -/
structure Digits (least most : Nat) (t : Text) : Prop where
  least : least ≤ t.length
  most : t.length ≤ most
  digit : ∀ c ∈ t, isDigit c = true

theorem words_digits (hle : n ≤ k) : (between n k digit).Words t ↔ Digits n k t := by
  constructor
  · rintro ⟨gs, h⟩
    obtain ⟨hlen, hall, -⟩ := (forms_between hle).mp h
    exact ⟨hlen.1, hlen.2, hall⟩
  · exact fun h => ⟨[], (forms_between hle).mpr ⟨⟨h.least, h.most⟩, h.digit, rfl⟩⟩

theorem Digits.not_mem (h : Digits n k t) (hc : isDigit c = false) : c ∉ t := fun hmem => by
  rw [h.digit c hmem] at hc
  cases hc

/-- The parts are those of a date. -/
structure Parts.Valid (p : Parts) : Prop where
  key : Citations.key.Words p.key
  year : Digits 4 4 p.year
  month : Digits 1 2 p.month
  day : Digits 1 2 p.day

theorem Parts.Valid.inWord_last {p : Parts} (h : p.Valid) (b : Option Char) :
    inWord (lastOf b p.text) = true := by
  rcases List.eq_nil_or_concat p.day with hnil | ⟨d, c, hday⟩
  · have hlen := h.day.least
    simp [hnil] at hlen
  · have hdigit := h.day.digit c (by simp [hday])
    simp [Parts.text, hday, Chars.isWord_of_isDigit hdigit]

theorem spells_dateItems : dateItems.Spells ws ↔ ∃ y m d, Digits 4 4 y ∧ Digits 1 2 m ∧
    Digits 1 2 d ∧ ws = [y, "-".toList, m, "-".toList, d] := by
  constructor
  · intro h
    obtain ⟨⟩ | ⟨hy, ⟨⟩ | ⟨hdash, ⟨⟩ | ⟨hm, ⟨⟩ | ⟨hdash', ⟨⟩ | ⟨hd, ⟨⟩⟩⟩⟩⟩⟩ := h
    obtain rfl := words_ofText.mp hdash
    obtain rfl := words_ofText.mp hdash'
    exact ⟨_, _, _, (words_digits (by decide)).mp hy, (words_digits (by decide)).mp hm,
      (words_digits (by decide)).mp hd, rfl⟩
  · rintro ⟨y, m, d, hy, hm, hd, rfl⟩
    have hdash : (lit "-").Words "-".toList := words_ofText.mpr rfl
    exact .cons ((words_digits (by decide)).mpr hy) (.cons hdash
      (.cons ((words_digits (by decide)).mpr hm) (.cons hdash
        (.cons ((words_digits (by decide)).mpr hd) .nil))))

/-- What the pattern for dates reads. -/
theorem reads_datePattern : datePattern.Reads b w r gs ↔
    ∃ p : Parts, p.Valid ∧ w = p.text ∧ gs = p.groups ∧ inWord r.head? = false := by
  have hitems : ∀ {b w r gs}, ((dateItems.map Item.whole).foldl (· ++ ·) (group 1 key)).Reads b w r gs ↔
      _ := reads_items rfl rfl rfl
  constructor
  · intro h
    obtain ⟨hw, hend⟩ := reads_seq_iff.mp h
    obtain ⟨rfl, rfl, hkind⟩ := reads_boundary.mp hend
    obtain ⟨k, _, hk, hspells, rfl, rfl⟩ := hitems.mp hw
    obtain ⟨y, m, d, hy, hm, hd, rfl⟩ := spells_dateItems.mp hspells
    have hvalid : Parts.Valid ⟨k, y, m, d⟩ := ⟨hk, hy, hm, hd⟩
    have htext : k ++ [y, "-".toList, m, "-".toList, d].flatten = Parts.text ⟨k, y, m, d⟩ := by
      simp [Parts.text]
    refine ⟨⟨k, y, m, d⟩, hvalid, by rw [List.append_nil, htext], rfl, ?_⟩
    have hlast := hvalid.inWord_last b
    rw [htext] at hkind
    simpa [SameKind, hlast] using hkind
  · rintro ⟨p, hp, rfl, rfl, hr⟩
    have hspells := spells_dateItems.mpr ⟨_, _, _, hp.year, hp.month, hp.day, rfl⟩
    have htext : p.text = p.key ++ [p.year, "-".toList, p.month, "-".toList, p.day].flatten := by
      simp [Parts.text]
    refine Reads.append_nothing (hitems.mpr ⟨_, _, hp.key, hspells, htext, rfl⟩)
      (reads_boundary.mpr ⟨rfl, rfl, ?_⟩)
    simp [SameKind, hp.inWord_last, hr]

-- -----------------------------------------------------------------------------------------
-- Fields that have a date
-- -----------------------------------------------------------------------------------------

theorem headed_front : Headed '|' front.caseless := by
  have hbar : (lit "|").caseless = ofText ['|'] := caseless_ofText (by decide)
  have hname : (firstOf [lit "access" ++ opt (lit "-") ++ lit "date", lit "date",
      lit "archive" ++ opt (lit "-") ++ lit "date"]).caseless.avoids ['|'] = true := by decide
  have hgap : gap.caseless.avoids ['|'] = true := by decide
  simp only [front, caseless_append, hbar]
  exact (((Headed.sign '|').append hgap).append hname).append hgap

theorem words_key (h : key.Words k) : ∃ a g, k = '|' :: (a ++ '=' :: g) ∧
    (∀ c ∈ a, c ∉ "|=pu\x7b\x7d".toList) ∧ Gap g := by
  have hequals : (lit "=").caseless = lit "=" := caseless_ofText (by decide)
  have hgap : gap.caseless = gap := congrArg many (caseless_oneOf (by decide))
  have havoids : front.caseless.avoids "=pu\x7b\x7d".toList = true := by decide
  rw [key, caseless_append, caseless_append, hequals, hgap, words_append rfl rfl] at h
  obtain ⟨_, g, rfl, h, hg⟩ := h
  obtain ⟨f, _, rfl, ⟨_, hf⟩, hsign⟩ := (words_append rfl rfl).mp h
  obtain rfl := words_ofText.mp hsign
  obtain ⟨a, rfl, ha⟩ := headed_front.head hf
  refine ⟨a, g, by simp, fun c hc => ?_, words_gap.mp hg⟩
  have hout := hf.avoids havoids c (List.mem_cons_of_mem _ hc)
  have hbar : c ≠ '|' := fun he => ha (he ▸ hc)
  simpa [hbar] using hout

/-- Neither a sign between fields nor a brace. -/
def Plain (t : Text) : Prop := ∀ c ∈ t, c ∉ "|\x7b\x7d".toList

instance (t : Text) : Decidable (Plain t) :=
  inferInstanceAs (Decidable (∀ c ∈ t, c ∉ "|\x7b\x7d".toList))

theorem Plain.append (ht : Plain t) (ht' : Plain t') : Plain (t ++ t') := fun c hc =>
  (List.mem_append.mp hc).elim (ht c) (ht' c)

theorem Plain.cons (hc : c ∉ "|\x7b\x7d".toList) (ht : Plain t) : Plain (c :: t) :=
  List.forall_mem_cons.mpr ⟨hc, ht⟩

theorem Plain.not_mem (ht : Plain t) : '|' ∉ t := fun hmem => ht '|' hmem (by decide)

theorem Digits.plain (h : Digits n k t) : Plain t := by
  have hsigns : ∀ c ∈ "|\x7b\x7d".toList, isDigit c = false := by decide
  exact fun c hc hsign => h.not_mem (hsigns c hsign) hc

theorem plain_of_gap (h : Gap g) : Plain g := by
  have hgaps : ∀ c ∈ " \t".toList, c ∉ "|\x7b\x7d".toList := by decide
  exact fun c hc => hgaps c (List.contains_iff_mem.mp (h c hc))

theorem Digits.word (h : Digits n k t) : ∀ c ∈ t, Chars.isWord c = true := fun c hc =>
  Chars.isWord_of_isDigit (h.digit c hc)

/-- A gap ends where digits begin. -/
theorem Digits.not_inGap (h : Digits n k t) (hn : 0 < n) :
    ∀ c ∈ (t ++ r).head?, Category.inGap c = false := by
  obtain ⟨d, t, rfl⟩ := List.exists_cons_of_length_pos (hn.trans_le h.least)
  have hgaps : ∀ c ∈ " \t".toList, isDigit c = false := by decide
  intro c hc
  obtain rfl : d = c := by simpa using hc
  refine Bool.eq_false_iff.mpr fun hgap => ?_
  have hfalse := hgaps d (List.contains_iff_mem.mp hgap)
  rw [h.digit d List.mem_cons_self] at hfalse
  cases hfalse

theorem stops_of_not_inWord {s : Text} (h : inWord s.head? = false) :
    ∀ c ∈ s.head?, Chars.isWord c = false := by
  intro c hc
  rw [Option.mem_def.mp hc] at h
  exact h

namespace Parts

theorem text_append (p : Parts) (s : Text) :
    p.text ++ s = p.key ++ (p.year ++ '-' :: (p.month ++ '-' :: (p.day ++ s))) := by
  simp [text]

/-- A date is a part of one field. -/
theorem Valid.exists_text {p : Parts} (h : p.Valid) : ∃ x, p.text = '|' :: x ∧ Plain x := by
  obtain ⟨a, g, hkey, ha, hg⟩ := words_key h.key
  have hsigns : ∀ c ∈ "|\x7b\x7d".toList, c ∈ "|=pu\x7b\x7d".toList := by decide
  have hfront : Plain a := fun c hc hsign => ha c hc (hsigns c hsign)
  refine ⟨a ++ '=' :: (g ++ (p.year ++ '-' :: (p.month ++ '-' :: p.day))), by simp [text, hkey], ?_⟩
  exact hfront.append (.cons (by decide) ((plain_of_gap hg).append (h.year.plain.append
    (.cons (by decide) (h.month.plain.append (.cons (by decide) h.day.plain))))))

/-- A field has one date at most: the signs in it, the number of digits of the year, and where the
digits of the day end tell its parts. -/
theorem Valid.unique {p p' : Parts} (h : p.Valid) (h' : p'.Valid) (hs : inWord s.head? = false)
    (hs' : inWord s'.head? = false) (heq : p.text ++ s = p'.text ++ s') : p = p' := by
  obtain ⟨k, y, m, d⟩ := p
  obtain ⟨k', y', m', d'⟩ := p'
  obtain ⟨hk, hy, hm, hd⟩ := h
  obtain ⟨hk', hy', hm', hd'⟩ := h'
  dsimp only at *
  obtain ⟨a, g, rfl, ha, hg⟩ := words_key hk
  obtain ⟨a', g', rfl, ha', hg'⟩ := words_key hk'
  simp only [text_append, List.cons_append, List.cons.injEq, true_and, List.append_assoc] at heq
  have hequals : '=' ∈ "|=pu\x7b\x7d".toList := by decide
  obtain ⟨rfl, hvalue⟩ := append_cons_inj (fun hmem => ha '=' hmem hequals)
    (fun hmem => ha' '=' hmem hequals) heq
  obtain ⟨rfl, hdate⟩ := Text.append_inj_of_stop hg (hy.not_inGap (by decide)) hg'
    (hy'.not_inGap (by decide)) hvalue
  have hlen : y.length = y'.length :=
    (hy.most.antisymm hy.least).trans (hy'.most.antisymm hy'.least).symm
  obtain ⟨rfl, hmonth⟩ := List.append_inj hdate hlen
  obtain ⟨rfl, hday⟩ := append_cons_inj (hm.not_mem (by decide)) (hm'.not_mem (by decide))
    (List.cons.inj hmonth).2
  obtain ⟨rfl, -⟩ := Text.append_inj_of_stop hd.word (stops_of_not_inWord hs) hd'.word
    (stops_of_not_inWord hs') hday
  rfl

end Parts

theorem fielded_datePattern : Fielded '|' datePattern where
  head h := by
    obtain ⟨p, hp, rfl, -, -⟩ := reads_datePattern.mp h
    obtain ⟨x, hx, hplain⟩ := hp.exists_text
    exact ⟨x, hx, hplain.not_mem⟩
  before h _ := reads_datePattern.mpr (reads_datePattern.mp h)
  steady := rfl
  nullable := rfl
  bounded := rfl
  sign := by decide

/-- The field has the date. -/
def Has (g : Text) (p : Parts) : Prop :=
  p.Valid ∧ ∃ s, '|' :: g = p.text ++ s ∧ inWord s.head? = false

theorem Has.unique (h : Has g p) (h' : Has g p') : p = p' := by
  obtain ⟨hp, s, hg, hs⟩ := h
  obtain ⟨hp', s', hg', hs'⟩ := h'
  exact hp.unique hp' hs hs' (hg.symm.trans hg')

theorem idle_iff : Idle '|' datePattern g ↔ ∀ p, ¬ Has g p := by
  constructor
  · rintro h p ⟨hp, s, hg, hs⟩
    obtain ⟨x, hx, -⟩ := hp.exists_text
    rw [hx, List.cons_append, List.cons.injEq] at hg
    exact h x s p.groups hg.2 (reads_datePattern.mpr ⟨p, hp, hx.symm, rfl, hs⟩)
  · rintro h x s gs rfl hreads
    obtain ⟨p, hp, hx, -, hs⟩ := reads_datePattern.mp hreads
    exact h p ⟨hp, s, by rw [← hx, List.cons_append], hs⟩

-- -----------------------------------------------------------------------------------------
-- Calendar dates
-- -----------------------------------------------------------------------------------------

namespace Parts

/-- The calendar date that is written there, in ASCII digits, if it is one. -/
def date? (p : Parts) : Option (Nat × Nat × Nat) := do
  let year ← Text.number? 10 p.year
  let month ← Text.number? 10 p.month
  let day ← Text.number? 10 p.day
  if isCalendarDate year month day then some (year, month, day) else none

theorem date?_eq_some {p : Parts} : p.date? = some (y, m, d) ↔
    Text.number? 10 p.year = some y ∧ Text.number? 10 p.month = some m ∧
      Text.number? 10 p.day = some d ∧ isCalendarDate y m d = true := by
  simp only [date?, Option.bind_eq_bind, Option.bind_eq_some_iff, Option.ite_none_right_eq_some,
    Option.some.injEq, Prod.mk.injEq]
  constructor
  · rintro ⟨_, hy, _, hm, _, hd, hdate, rfl, rfl, rfl⟩
    exact ⟨hy, hm, hd, hdate⟩
  · rintro ⟨hy, hm, hd, hdate⟩
    exact ⟨_, hy, _, hm, _, hd, hdate, rfl, rfl, rfl⟩

/-- A date is filled up with zeros; what is no calendar date stays. -/
def padded (p : Parts) : Parts :=
  match p.date? with
  | some (year, month, day) =>
    ⟨p.key, Text.padded 4 year, Text.padded 2 month, Text.padded 2 day⟩
  | none => p

theorem key_padded (p : Parts) : p.padded.key = p.key := by
  unfold padded
  split <;> rfl

theorem padded_of_none {p : Parts} (h : p.date? = none) : p.padded = p := by
  rw [padded, h]

theorem padded_of_some {p : Parts} (h : p.date? = some (y, m, d)) :
    p.padded = ⟨p.key, Text.padded 4 y, Text.padded 2 m, Text.padded 2 d⟩ := by
  rw [padded, h]

theorem date?_padded (p : Parts) : p.padded.date? = p.date? := by
  cases h : p.date? with
  | none => rw [padded_of_none h, h]
  | some date =>
    obtain ⟨y, m, d⟩ := date
    obtain ⟨-, -, -, hdate⟩ := date?_eq_some.mp h
    rw [padded_of_some h]
    exact date?_eq_some.mpr ⟨Text.number?_padded _ _, Text.number?_padded _ _,
      Text.number?_padded _ _, hdate⟩

theorem padded_padded (p : Parts) : p.padded.padded = p.padded := by
  cases h : p.date? with
  | none => rw [padded_of_none h, padded_of_none h]
  | some date =>
    obtain ⟨y, m, d⟩ := date
    have hagain := (date?_padded p).trans h
    rw [padded_of_some hagain, key_padded, ← padded_of_some h]

theorem digits_padded (h : Digits n k t) (hk : 0 < k) (hnum : Text.number? 10 t = some i) :
    Digits k k (Text.padded k i) := by
  have hlt : i < 10 ^ k :=
    (Text.number?_lt hnum).trans_le (Nat.pow_le_pow_right (by decide) h.most)
  have hlen := Text.length_padded hk hlt
  exact ⟨hlen.ge, hlen.le, fun c hc => Chars.isDigit_of_isAsciiDigit (Text.isAsciiDigit_of_mem_padded hc)⟩

theorem Valid.padded {p : Parts} (h : p.Valid) (hdate : p.date? = some date) :
    Digits 4 4 p.padded.year ∧ Digits 2 2 p.padded.month ∧ Digits 2 2 p.padded.day := by
  obtain ⟨y, m, d⟩ := date
  obtain ⟨hy, hm, hd, -⟩ := date?_eq_some.mp hdate
  rw [padded_of_some hdate]
  exact ⟨digits_padded h.year (by decide) hy, digits_padded h.month (by decide) hm,
    digits_padded h.day (by decide) hd⟩

theorem valid_padded {p : Parts} (h : p.Valid) : p.padded.Valid := by
  cases hdate : p.date? with
  | none => rwa [padded_of_none hdate]
  | some date =>
    obtain ⟨hy, hm, hd⟩ := h.padded hdate
    have hwiden : ∀ {t}, Digits 2 2 t → Digits 1 2 t := fun h =>
      ⟨(Nat.le_succ 1).trans h.least, h.most, h.digit⟩
    exact ⟨(key_padded p).symm ▸ h.key, hy, hwiden hm, hwiden hd⟩

end Parts

/-- What is put in the place of a date. -/
theorem padDate_eq {p : Parts} {m : Match} (hm : m.captures.texts = p.groups) (htext : m.text = p.text) :
    padDate m = p.padded.text := by
  obtain rfl := Parts.ofMatch_eq hm
  cases hdate : (Parts.ofMatch m).date? with
  | some date =>
    obtain ⟨y, k, d⟩ := date
    obtain ⟨hyear, hmonth, hday, hcalendar⟩ := Parts.date?_eq_some.mp hdate
    dsimp only [Parts.ofMatch] at hyear hmonth hday
    rw [Parts.padded_of_some hdate, padDate, hyear, hmonth, hday]
    simp [hcalendar, Parts.text, Parts.ofMatch]
  | none =>
    rw [Parts.padded_of_none hdate, ← htext, padDate]
    split
    · rename_i y k d hyear hmonth hday
      refine if_neg fun hcalendar => ?_
      rw [Parts.date?_eq_some.mpr ⟨hyear, hmonth, hday, hcalendar⟩] at hdate
      cases hdate
    · rfl

-- -----------------------------------------------------------------------------------------
-- The search for dates
-- -----------------------------------------------------------------------------------------

theorem text_of_mem_matches (h : m ∈ isoDateParameter.matches' t) :
    ∃ p : Parts, p.Valid ∧ m.text = p.text ∧ m.captures.texts = p.groups := by
  rw [isoDateParameter_eq] at h
  obtain ⟨b, w, r, -, htakes⟩ := takes_of_mem_matches h
  obtain ⟨p, hp, rfl, hgs, -⟩ := reads_datePattern.mp htakes.reads
  exact ⟨p, hp, htakes.text, hgs⟩

/-- Dates are searched for, and filled up, field by field. -/
theorem byField_padDate (t : Text) : ∃ g gs gs', Text.splitOn '|' t = g :: gs ∧
    Text.splitOn '|' (isoDateParameter.replaceAll padDate t) = g :: gs' ∧
    ByField '|' datePattern padDate gs (isoDateParameter.matches' t) gs' := by
  have hnew : ∀ m ∈ isoDateParameter.matches' t, ∃ x, padDate m = '|' :: x ∧ '|' ∉ x := by
    intro m hm
    obtain ⟨p, hp, htext, hgs⟩ := text_of_mem_matches hm
    obtain ⟨x, hx, hplain⟩ := (Parts.valid_padded hp).exists_text
    exact ⟨x, (padDate_eq hgs htext).trans hx, hplain.not_mem⟩
  rw [isoDateParameter_eq] at hnew ⊢
  exact byField_replaceAll fielded_datePattern t hnew

/-- What is read of a field is its date. -/
theorem has_of_reads (h : datePattern.Reads none ('|' :: x) s gs) :
    ∃ p, Has (x ++ s) p ∧ gs = p.groups ∧ '|' :: x = p.text := by
  obtain ⟨p, hp, hx, hgs, hs⟩ := reads_datePattern.mp h
  exact ⟨p, ⟨hp, s, by rw [← hx, List.cons_append], hs⟩, hgs, hx⟩

/-- The dates that a search finds. -/
def dates (t : Text) : List Parts := (isoDateParameter.matches' t).map Parts.ofMatch

/-- The dates of the fields, each searched by itself. -/
def fieldDates (gs : List Text) : List Parts := gs.flatMap fun g => dates ('|' :: g)

theorem byField_field (hg : '|' ∉ g) :
    ∃ gs', ByField '|' datePattern padDate [g] (isoDateParameter.matches' ('|' :: g)) gs' := by
  obtain ⟨k, gs, gs', hsplit, -, hfields⟩ := byField_padDate ('|' :: g)
  rw [Text.splitOn_cons_self, Text.splitOn_of_not_mem hg, List.cons.injEq] at hsplit
  exact ⟨gs', hsplit.2 ▸ hfields⟩

theorem dates_of_idle (h : Idle '|' datePattern g) (hg : '|' ∉ g) : dates ('|' :: g) = [] := by
  obtain ⟨gs', hfields⟩ := byField_field hg
  rw [dates]
  generalize isoDateParameter.matches' ('|' :: g) = ms at *
  cases hfields with
  | keep _ hrest =>
    cases hrest
    rfl
  | hit hreads => exact absurd hreads (h _ _ _ rfl)

theorem dates_of_has (h : Has g p) (hg : '|' ∉ g) : dates ('|' :: g) = [p] := by
  obtain ⟨gs', hfields⟩ := byField_field hg
  rw [dates]
  generalize isoDateParameter.matches' ('|' :: g) = ms at *
  cases hfields with
  | keep hidle => exact absurd h (idle_iff.mp hidle p)
  | hit hreads _ _ hrest =>
    obtain ⟨p', hp', hgs, -⟩ := has_of_reads hreads
    obtain rfl := h.unique hp'
    cases hrest
    rw [List.map_singleton, Parts.ofMatch_eq hgs]

theorem fieldDates_cons (g : Text) (gs : List Text) :
    fieldDates (g :: gs) = dates ('|' :: g) ++ fieldDates gs := rfl

/-- Each field has its own date, and the one that it has when its date is filled up. -/
theorem dates_of_byField (h : ByField '|' datePattern padDate gs ms gs') (hgs : ∀ g ∈ gs, '|' ∉ g)
    (hgs' : ∀ g ∈ gs', '|' ∉ g) : ms.map Parts.ofMatch = fieldDates gs ∧
      fieldDates gs' = (fieldDates gs).map Parts.padded := by
  induction h with
  | nil => exact ⟨rfl, rfl⟩
  | keep hidle _ ih =>
    rw [List.forall_mem_cons] at hgs hgs'
    obtain ⟨hfound, hpadded⟩ := ih hgs.2 hgs'.2
    rw [fieldDates_cons, fieldDates_cons, dates_of_idle hidle hgs.1]
    exact ⟨hfound, hpadded⟩
  | @hit x s m x' gs ms gs' hreads htext hpad _ ih =>
    rw [List.forall_mem_cons] at hgs hgs'
    obtain ⟨hfound, hpadded⟩ := ih hgs.2 hgs'.2
    obtain ⟨p, hp, hgroups, hx⟩ := has_of_reads hreads
    have hnew : '|' :: x' = p.padded.text := by
      rw [← hpad, padDate_eq hgroups (htext.trans hx)]
    have hp' : Has (x' ++ s) p.padded := by
      obtain ⟨hvalid, s', hs', hend⟩ := hp
      obtain rfl : s = s' := by
        rw [← List.cons_append, hx] at hs'
        exact List.append_cancel_left hs'
      exact ⟨Parts.valid_padded hvalid, s, by rw [← hnew, List.cons_append], hend⟩
    rw [fieldDates_cons, fieldDates_cons, dates_of_has hp hgs.1, dates_of_has hp' hgs'.1, List.map_cons,
      Parts.ofMatch_eq hgroups, hfound, hpadded]
    exact ⟨rfl, rfl⟩

theorem bars_of_splitOn (h : Text.splitOn '|' t = g :: gs) : ∀ g ∈ gs, '|' ∉ g := fun _ hg =>
  Text.not_mem_of_mem_splitOn (t := t) (h ▸ List.mem_cons_of_mem _ hg)

/-- A search finds the dates of the fields, each of which has one or none. -/
theorem dates_eq (h : Text.splitOn '|' t = g :: gs) : dates t = fieldDates gs := by
  obtain ⟨g', gs', gs'', hsplit, hsplit', hfields⟩ := byField_padDate t
  obtain ⟨rfl, rfl⟩ := List.cons.inj (h.symm.trans hsplit)
  exact (dates_of_byField hfields (bars_of_splitOn hsplit) (bars_of_splitOn hsplit')).1

/-- Filling up the dates of a text. -/
theorem dates_padDate (t : Text) :
    dates (isoDateParameter.replaceAll padDate t) = (dates t).map Parts.padded := by
  obtain ⟨g, gs, gs', hsplit, hsplit', hfields⟩ := byField_padDate t
  rw [dates_eq hsplit, dates_eq hsplit']
  exact (dates_of_byField hfields (bars_of_splitOn hsplit) (bars_of_splitOn hsplit')).2

end Wikitext.Fix.Citations
