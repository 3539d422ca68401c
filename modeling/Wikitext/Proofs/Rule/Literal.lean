import Wikitext.Proofs.Pattern.Expansion
import Wikitext.Proofs.Pattern.Literal
import Wikitext.Proofs.Pattern.Reader
import Wikitext.Proofs.Rule.Append

/-!
# Literal rules

A rule that is no pattern searches the text that its keywords expand to, whatever signs that text
has, and puts another text in the place of each occurrence, whatever dollar signs that one has. So
a case sensitive rule does what replacing a fixed piece does (`apply_literal`). A rule that has
nothing left to find after the expansion still finds that, everywhere (`run_nothing`).
-/

namespace Wikitext

open Pattern

-- -----------------------------------------------------------------------------------------
-- The pattern of a literal rule
-- -----------------------------------------------------------------------------------------

theorem Keyword.expand_nil (p : Profile) (title : Text) (literally : Bool) :
    expand p title literally [] = [] := if_neg (by decide)

namespace Rule

variable {r : Rule} {p : Profile}

/-- The flags under which the rule's pattern is read. -/
def patternFlags (r : Rule) : Flags where
  caseless := !r.caseSensitive
  multiline := r.multiline
  dotAll := r.singleline

/-- Written flags are read as an empty group that leaves them in force. -/
theorem flags_yields (r : Rule) (t : Text) :
    (r.flags = [] ∧ r.patternFlags = {}) ∨
      (r.flags ++ t).head? = some '(' ∧
        Yields (skipSpace true) { rest := r.flags ++ t } () { rest := r.flags ++ t } ∧
        ∀ n, Yields (readAtom true (n + 6)) { rest := r.flags ++ t } .empty
          { rest := t, flags := r.patternFlags } := by
  obtain ⟨find, replace, caseSensitive, isRegex, multiline, singleline, minor, afterFixes, enabled,
    comment⟩ := r
  cases caseSensitive <;> cases multiline <;> cases singleline
  all_goals first
    | exact .inl ⟨rfl, rfl⟩
    | exact .inr ⟨rfl, rfl, fun n => rfl⟩

theorem length_le_escape (reserved : List Char) (t : Text) :
    t.length ≤ (escape reserved t).length := by
  induction t with
  | nil => exact Nat.le_refl _
  | cons c t ih =>
    rw [escape_cons]
    split <;> simp only [List.length_cons] <;> omega

/-- Flags and escaped text are read as the characters of the text. -/
theorem sequence_yields (r : Rule) (u : Text) (hn : u.length + 7 ≤ n) :
    Yields (readSequence true n) { rest := r.flags ++ escape reservedExtended u }
      (.inSequence ((u.map r.patternFlags.spelling).map .char))
      { rest := [], flags := r.patternFlags } := by
  have hplain : ∀ n, u.length < n → Yields (readSequence true n)
      { rest := escape reservedExtended u, flags := r.patternFlags } _ _ :=
    fun n => Yields.readSequence rfl rfl
  rcases r.flags_yields (escape reservedExtended u) with ⟨hflags, hno⟩ | ⟨hhead, hspace, hatom⟩
  · rw [hflags]
    rw [hno] at hplain ⊢
    exact hplain n (by omega)
  · obtain ⟨k, rfl⟩ : ∃ k, n = u.length + k + 6 + 1 := ⟨n - (u.length + 7), by omega⟩
    unfold Pattern.readSequence
    refine hspace.bind ((Yields.peek? hhead).bind ?_)
    refine (hatom _).bind ?_
    refine (Yields.readRepetitions (beginsPlainly_escape u) rfl _ _).bind ?_
    exact (hplain _ (by omega)).bind (Yields.pure _ _)

theorem read_writtenPattern (hliteral : r.isRegex = false) (p : Profile) (title : Text) :
    Expression.read (r.writtenPattern p title) = .ok {
      searcher := .plain (inOrder (((Keyword.expand p title false r.find).map
        r.patternFlags.spelling).map .char)).compile
      names := [] } := by
  have hpattern : r.writtenPattern p title =
      r.flags ++ escape reservedExtended (Keyword.expand p title false r.find) := by
    simp [writtenPattern, hliteral]
  have hlength :
      (Keyword.expand p title false r.find).length ≤ (r.writtenPattern p title).length := by
    rw [hpattern, List.length_append]
    exact Nat.le_add_left_of_le (length_le_escape _ _)
  have hread := read_eq_ok (hpattern ▸ r.sequence_yields _ (by omega))
  simp only [Expression.read, hread, bind, Except.bind, pattern?_inSequence]
  rfl

-- -----------------------------------------------------------------------------------------
-- What a literal rule does
-- -----------------------------------------------------------------------------------------

/-- Effect and parts so far, when pieces with the same replacement for every match are added. -/
theorem foldl_pieces (new : Text) {step : RuleEffect × List Text → Piece → RuleEffect × List Text}
    (hkept : ∀ e parts t, step (e, parts) (.kept t) = (e, t :: parts))
    (hhit : ∀ e parts m, step (e, parts) (.hit m) =
      ({ e with first := e.first.or (some (m.text, new)), count := e.count + 1 }, new :: parts))
    (pieces : List Piece) (e : RuleEffect) (parts : List Text) :
    pieces.foldl step (e, parts) =
      ({ e with
          first := e.first.or (((hits pieces).map (·.text)).head?.map fun before => (before, new))
          count := e.count + ((hits pieces).map (·.text)).length },
        (pieces.map fun | .kept t => t | .hit _ => new).reverse ++ parts) := by
  induction pieces generalizing e parts with
  | nil => simp [hits]
  | cons piece pieces ih =>
    cases piece with
    | kept t => simp [hkept, ih, hits]
    | hit m => simp [hhit, ih, hits, Nat.add_assoc, Nat.add_comm 1]

/-- Where every match gets the same replacement, all of them count and the first one is recorded. -/
theorem replaceMatches_eq {e : Expression} {template new : Text}
    (hnew : ∀ m, Template.expand (Template.groupText e.names m) template = new)
    (pieces : List Piece) :
    replaceMatches e template pieces = {
      text := pieces.flatMap fun | .kept t => t | .hit _ => new
      first := ((hits pieces).map (·.text)).head?.map fun before => (before, new)
      count := ((hits pieces).map (·.text)).length } := by
  rw [replaceMatches, foldl_pieces new (fun _ _ _ => rfl) fun _ _ m => by rw [← hnew m]]
  simp [List.flatMap]

/-- What the run of a rule does if its pattern is read as `x` and its template gives `new`. -/
theorem run_plain {x : Regex} {new : Text}
    (hread : Expression.read (r.writtenPattern p title) =
      .ok { searcher := .plain x, names := names })
    (hnew : ∀ m, Template.expand (Template.groupText names m) (r.template p title) = new)
    (index : Nat) (t : Text) :
    r.run p index title t = .ok {
      text := x.replaceAll (fun _ => new) t
      first := ((x.matches' t).map (·.text)).head?.map fun before => (before, new)
      count := ((x.matches' t).map (·.text)).length } := by
  rw [run, hread, matches_eq_hits]
  exact congrArg Except.ok (replaceMatches_eq hnew _)

theorem expand_template (hliteral : r.isRegex = false) (p : Profile) (title : Text)
    (groups : GroupText) :
    Template.expand groups (r.template p title) = Keyword.expand p title false r.replace := by
  rw [template, hliteral]
  exact Template.expand_literally groups _

/-- A case sensitive literal rule replaces every occurrence of what it finds. -/
theorem run_literal (hliteral : r.isRegex = false) (hcase : r.caseSensitive = true)
    (hfind : Keyword.expand p title false r.find ≠ []) (index : Nat) (t : Text) :
    let find := Keyword.expand p title false r.find
    let new := Keyword.expand p title false r.replace
    r.run p index title t = .ok {
      text := Text.replace find new t
      first := if find <:+: t then some (find, new) else none
      count := Text.occurrences find t } := by
  intro find new
  have hpattern : inOrder ((find.map r.patternFlags.spelling).map .char) = ofText find := by
    have hspelling : r.patternFlags.spelling = fun c => (· == c) := by
      funext c
      rw [Flags.spelling, patternFlags, hcase]
      rfl
    rw [hspelling, List.map_map]
    rfl
  have hread := read_writtenPattern hliteral p title
  rw [hpattern] at hread
  have hfirst : ((List.replicate (Text.occurrences find t) find).head?.map fun b => (b, new)) =
      if find <:+: t then some (find, new) else none := by
    have hpos : 0 < Text.occurrences find t ↔ find <:+: t := Text.occurrences_pos hfind t
    simp only [← hpos]
    cases Text.occurrences find t <;> rfl
  rw [run_plain hread (fun m => expand_template hliteral p title _), replaceAll_ofText hfind,
    matches_ofText hfind, List.length_replicate, hfirst]

/-- A literal rule that has nothing to find, whatever its flags, finds that in front of every
character and at the end. So it leaves the text as it is only if it puts nothing in its place. -/
theorem run_nothing (hliteral : r.isRegex = false)
    (hfind : Keyword.expand p title false r.find = []) (index : Nat) (t : Text) :
    let new := Keyword.expand p title false r.replace
    r.run p index title t = .ok {
      text := t.flatMap (fun c => new ++ [c]) ++ new
      first := some ([], new)
      count := t.length + 1 } := by
  intro new
  have hread := read_writtenPattern hliteral p title
  rw [hfind] at hread
  rw [run_plain (x := (ofText []).compile) hread (fun m => expand_template hliteral p title _),
    replaceAll_nothing, matches_nothing, List.length_replicate, List.head?_replicate]
  rfl

end Rule

/-- The outcome of one rule, by what it did first. -/
theorem RulesOutcome.record_first (r : Rule) (t text before after : Text) (count : Nat)
    (found : Prop) [Decidable found] :
    ({ text := t } : RulesOutcome).record r
        { text, first := if found then some (before, after) else none, count } = {
      text
      changed := decide (found ∧ before ≠ after)
      majorChange := decide (found ∧ before ≠ after) && !r.minor
      summary :=
        if ¬ (found ∧ before ≠ after) then {}
        else if after = [] then ReplacementSummary.pushRemoved {} before count
        else ReplacementSummary.pushReplaced {} before after count } := by
  by_cases hfound : found
  · by_cases hsame : before = after <;> simp [record, hfound, hsame]
  · simp [record, hfound]

namespace RuleList

theorem runAll_alone {l : RuleList} (hrules : l.rules = [r]) (hruns : r.runsIn phase = true)
    (hrun : r.run l.profile 0 title t = .ok effect) :
    l.runAll phase title t = ({ text := t } : RulesOutcome).record r effect := by
  simp [runAll, hrules, hruns, step, hrun]

/-- A case sensitive literal rule that is alone and from which nothing is hidden puts its
replacement in the place of every occurrence of what it finds, each counted once. -/
theorem apply_literal {l : RuleList} {r : Rule} (phase : Phase) (title t : Text)
    (hlinks : l.ignoreLinks = false) (hmore : l.ignoreMore = false) (hrules : l.rules = [r])
    (henabled : r.enabled = true) (hphase : r.afterFixes = (phase == .afterFixes))
    (hliteral : r.isRegex = false) (hcase : r.caseSensitive = true)
    (hfind : Keyword.expand l.profile title false r.find ≠ []) :
    let find := Keyword.expand l.profile title false r.find
    let new := Keyword.expand l.profile title false r.replace
    let parts := Text.cut find t
    let count := Text.occurrences find t
    let changed := find <:+: t ∧ find ≠ new
    Text.Divides find parts t ∧ parts.length = count + 1 ∧
      r.run l.profile 0 title t = .ok {
        text := Text.join new parts
        first := if find <:+: t then some (find, new) else none
        count } ∧
      l.apply phase title t = .ok {
        text := Text.join new parts
        changed := decide changed
        majorChange := decide changed && !r.minor
        summary :=
          if ¬ changed then {}
          else if new = [] then ReplacementSummary.pushRemoved {} find count
          else ReplacementSummary.pushReplaced {} find new count } := by
  intro find new parts count changed
  have hrun := Rule.run_literal hliteral hcase hfind 0 t
  refine ⟨Text.divides_cut hfind t, Text.length_cut hfind t, hrun, ?_⟩
  have hruns : r.runsIn phase = true := by
    have hne : r.find ≠ [] := by
      intro h
      rw [h] at hfind
      exact hfind (Keyword.expand_nil _ _ _)
    simp [Rule.runsIn, henabled, hphase, hne]
  rw [apply_shown hlinks hmore, runAll_alone hrules hruns hrun, RulesOutcome.record_first]
  rfl

/-- A rule that finds the title with a dot behind it and puts a dollar sign with a digit there. -/
def titleWithDot : Rule where
  find := "%%title%%.".toList
  replace := "$1".toList
  caseSensitive := true
  multiline := true

theorem apply_literal_titleWithDot :
    ∃ o, ({ profile := .englishWikipedia, rules := [titleWithDot] } : RuleList).apply .beforeFixes
        "A+".toList "A+. A+x A+.".toList = .ok o ∧
      o.text = "$1 A+x $1".toList ∧ o.changed = true ∧
      o.summary.text = "replaced: A+. → $1 (2)".toList := by
  have hfind : Keyword.expand .englishWikipedia "A+".toList false titleWithDot.find =
      "A+.".toList := by
    decide +kernel
  have hnew : Keyword.expand .englishWikipedia "A+".toList false titleWithDot.replace =
      "$1".toList := by
    decide +kernel
  obtain ⟨-, -, -, h⟩ :=
    apply_literal (l := { profile := .englishWikipedia, rules := [titleWithDot] }) .beforeFixes
      "A+".toList "A+. A+x A+.".toList rfl rfl rfl rfl rfl rfl rfl (by rw [hfind]; decide)
  simp only [hfind, hnew] at h
  refine ⟨_, h, ?_⟩
  decide +kernel

end RuleList

end Wikitext
