import Wikitext.Proofs.Rule.Regions
import Wikitext.Proofs.Summary

/-!
# Lists of rules one after the other

`apply_append`: where nothing is hidden from the rules, a list of rules does the
same as its two parts, the second on what the first leaves. Numbers of rules
are those of the whole list. It follows that a rule that cannot be used adds its
error and changes nothing else.
-/

namespace Wikitext

namespace RuleError

/-- The error of the same rule with `n` rules in front of the list. -/
def later (n : Nat) : RuleError → RuleError
  | .invalidPattern index pattern => .invalidPattern (n + index) pattern
  | .matching index => .matching (n + index)

end RuleError

namespace Rule

/-- The number of a rule shows in its errors only. -/
theorem run_later (r : Rule) (p : Profile) (n index : Nat) (title t : Text) :
    r.run p (n + index) title t = (r.run p index title t).mapError (.later n) := by
  unfold run
  cases Expression.read (r.writtenPattern p title) with
  | error _ => rfl
  | ok e =>
    dsimp only
    cases e.pieces? t <;> rfl

end Rule

namespace RulesOutcome

variable {o : RulesOutcome}

/-- What rules did in all, if `o` is what the first `n` of them did and `o'` what the others did
to the text that those left. -/
def followedBy (o : RulesOutcome) (n : Nat) (o' : RulesOutcome) : RulesOutcome where
  text := o'.text
  changed := o.changed || o'.changed
  majorChange := o.majorChange || o'.majorChange
  summary := o.summary.extend o'.summary
  errors := o.errors ++ o'.errors.map (.later n)

@[simp] theorem text_followedBy (o : RulesOutcome) (n : Nat) (o' : RulesOutcome) :
    (o.followedBy n o').text = o'.text := rfl

theorem followedBy_nothing (o : RulesOutcome) (n : Nat) :
    o.followedBy n { text := o.text } = o := by
  simp [followedBy, ReplacementSummary.extend_empty]

theorem followedBy_assoc_error (o : RulesOutcome) (n : Nat) (e : RuleError) (b : RulesOutcome) :
    (o.followedBy n { text := o.text, errors := [e] }).followedBy (n + 1) b =
      { o.followedBy n b with
        errors := o.errors ++ e.later n :: b.errors.map (.later (n + 1)) } := by
  simp [followedBy, ReplacementSummary.extend_empty]

theorem tidy_record (h : o.summary.Tidy) (rule : Rule) (effect : RuleEffect) :
    (o.record rule effect).summary.Tidy := by
  unfold record
  cases effect.first with
  | none => exact h
  | some first =>
    obtain ⟨before, after⟩ := first
    dsimp only
    split
    · exact h
    · dsimp only
      split
      · exact h.pushRemoved _ _
      · exact h.pushReplaced _ _ _

theorem record_followedBy (a : RulesOutcome) (n : Nat) (h : o.summary.Tidy) (rule : Rule)
    (effect : RuleEffect) :
    (a.followedBy n o).record rule effect = a.followedBy n (o.record rule effect) := by
  unfold record
  cases effect.first with
  | none => rfl
  | some first =>
    obtain ⟨before, after⟩ := first
    dsimp only
    split
    · rfl
    · cases hremoved : after.isEmpty <;>
        simp only [followedBy, Bool.or_true, Bool.or_assoc, Bool.false_eq_true, if_false, if_true,
          h.extend_pushRemoved, h.extend_pushReplaced]

end RulesOutcome

namespace RuleList

variable {l : RuleList} {phase : Phase}

-- -----------------------------------------------------------------------------------------
-- Runs of rules
-- -----------------------------------------------------------------------------------------

theorem tidy_step (title : Text) (h : o.summary.Tidy) (rule : Rule × Nat) :
    (l.step title o rule).summary.Tidy := by
  unfold step
  split
  · exact RulesOutcome.tidy_record h _ _
  · exact h

/-- A rule does to the outcome in all what it does to the outcome of the later rules. -/
theorem step_followedBy (title : Text) (a : RulesOutcome) (n : Nat) (h : o.summary.Tidy)
    (rule : Rule) (index : Nat) :
    l.step title (a.followedBy n o) (rule, n + index) =
      a.followedBy n (l.step title o (rule, index)) := by
  simp only [step, RulesOutcome.text_followedBy, Rule.run_later]
  cases rule.run l.profile index title o.text with
  | ok effect => exact RulesOutcome.record_followedBy a n h rule effect
  | error e => simp [Except.mapError, RulesOutcome.followedBy]

/-- By induction on the rules; what the later rules are numbered by does not matter. -/
theorem foldl_followedBy (title : Text) (a : RulesOutcome) (n : Nat) (rules : List (Rule × Nat))
    (h : o.summary.Tidy) :
    (rules.map fun r => (r.1, n + r.2)).foldl (l.step title) (a.followedBy n o) =
      a.followedBy n (rules.foldl (l.step title) o) := by
  induction rules generalizing o with
  | nil => rfl
  | cons r rules ih =>
    rw [List.map_cons, List.foldl_cons, List.foldl_cons, step_followedBy title a n h]
    exact ih (tidy_step title h r)

theorem runAll_append (l : RuleList) (first second : List Rule) (phase : Phase) (title t : Text) :
    let a := { l with rules := first }.runAll phase title t
    { l with rules := first ++ second }.runAll phase title t =
      a.followedBy first.length ({ l with rules := second }.runAll phase title a.text) := by
  intro a
  have hlater : (second.zipIdx first.length).filter (fun r => r.1.runsIn phase) =
      (second.zipIdx.filter fun r => r.1.runsIn phase).map fun r => (r.1, first.length + r.2) := by
    rw [List.zipIdx_eq_map_add, List.filter_map]
    rfl
  have hsecond := foldl_followedBy (l := l) (o := { text := a.text }) title a first.length
    (second.zipIdx.filter fun r => r.1.runsIn phase) ReplacementSummary.tidy_empty
  rw [RulesOutcome.followedBy_nothing] at hsecond
  simp only [runAll, List.zipIdx_append, List.filter_append, List.foldl_append, Nat.zero_add,
    hlater]
  exact hsecond

/-- A rule that cannot be used leaves the text as it is. -/
theorem runAll_error (hr : rule.runsIn phase = true)
    (he : rule.run l.profile 0 title t = .error e) :
    { l with rules := [rule] }.runAll phase title t = { text := t, errors := [e] } := by
  simp [runAll, hr, step, he]

-- -----------------------------------------------------------------------------------------
-- Nothing hidden
-- -----------------------------------------------------------------------------------------

theorem apply_shown (hlinks : l.ignoreLinks = false) (hmore : l.ignoreMore = false)
    (phase : Phase) (title t : Text) : l.apply phase title t = .ok (l.runAll phase title t) := by
  unfold apply
  cases hr : l.hasRulesFor phase with
  | false => simp [runAll_noRules hr]
  | true => simp [hlinks, hmore]

/-- Where nothing is hidden, rules come to an end, and a list of them does what its two parts do one
after the other. A rule in between that cannot be used adds its error in its place. -/
theorem apply_append (hlinks : l.ignoreLinks = false) (hmore : l.ignoreMore = false)
    (first second : List Rule) (phase : Phase) (title t : Text) :
    ∃ a b,
      { l with rules := first }.apply phase title t = .ok a ∧
      { l with rules := second }.apply phase title a.text = .ok b ∧
      { l with rules := first ++ second }.apply phase title t =
        .ok (a.followedBy first.length b) ∧
      ∀ rule e, rule.runsIn phase = true →
        rule.run l.profile first.length title a.text = .error e →
        { l with rules := first ++ rule :: second }.apply phase title t =
          .ok { a.followedBy first.length b with
            errors := a.errors ++ e :: b.errors.map (.later (first.length + 1)) } := by
  have happly : ∀ (rules : List Rule) (t : Text), { l with rules := rules }.apply phase title t =
      .ok ({ l with rules := rules }.runAll phase title t) := fun rules t =>
    apply_shown (l := { l with rules := rules }) hlinks hmore phase title t
  refine ⟨_, _, happly first t, happly second _, ?_, fun rule e hr he => ?_⟩
  · rw [happly, runAll_append]
  · have hnumber := rule.run_later l.profile first.length 0 title
      ({ l with rules := first }.runAll phase title t).text
    rw [Nat.add_zero, he] at hnumber
    cases hrun : rule.run l.profile 0 title ({ l with rules := first }.runAll phase title t).text with
    | ok effect => simp [hrun, Except.mapError] at hnumber
    | error e₀ =>
      obtain rfl : e = e₀.later first.length := by simpa [hrun, Except.mapError] using hnumber
      have hone := runAll_error (l := l) hr hrun
      rw [happly, List.append_cons, runAll_append, runAll_append, hone, List.length_append,
        List.length_singleton]
      exact congrArg Except.ok (RulesOutcome.followedBy_assoc_error _ _ _ _)

def color : Rule := { find := "colour".toList, replace := "color".toList }

def grey : Rule := { find := "gray".toList, replace := "grey".toList, minor := true }

/-- A rule with a group that is not closed. -/
def unclosed : Rule := { find := "(".toList, isRegex := true }

theorem unclosed_run (index : Nat) (t : Text) :
    unclosed.run .englishWikipedia index "Foo".toList t = .error (.invalidPattern index "(".toList) := by
  have hread : (Expression.read (unclosed.writtenPattern .englishWikipedia "Foo".toList)).toOption =
      none := by
    decide
  unfold Rule.run
  cases he : Expression.read (unclosed.writtenPattern .englishWikipedia "Foo".toList) with
  | ok e =>
    rw [he] at hread
    cases hread
  | error _ => rfl

/-- The two rules around one that cannot be used. -/
theorem apply_append_unclosed :
    ∃ o, ({ profile := .englishWikipedia, rules := [color] ++ unclosed :: [grey] } : RuleList).apply
        .beforeFixes "Foo".toList "colour gray".toList = .ok o ∧
      o.text = "color grey".toList ∧ o.errors = [.invalidPattern 1 "(".toList] := by
  have hcolor : (({ profile := .englishWikipedia, rules := [color] } : RuleList).apply .beforeFixes
      "Foo".toList "colour gray".toList).toOption.map (fun o => (o.text, o.errors)) =
        some ("color gray".toList, []) := by
    decide +kernel
  have hgrey : (({ profile := .englishWikipedia, rules := [grey] } : RuleList).apply .beforeFixes
      "Foo".toList "color gray".toList).toOption.map (fun o => (o.text, o.errors)) =
        some ("color grey".toList, []) := by
    decide +kernel
  obtain ⟨a, b, ha, hb, -, hr⟩ := apply_append (l := { profile := .englishWikipedia }) rfl rfl
    [color] [grey] .beforeFixes "Foo".toList "colour gray".toList
  simp only [ha, Except.toOption, Option.map_some, Option.some.injEq, Prod.mk.injEq] at hcolor
  rw [hcolor.1] at hb
  simp only [hb, Except.toOption, Option.map_some, Option.some.injEq, Prod.mk.injEq] at hgrey
  refine ⟨_, hr unclosed _ (by decide) (unclosed_run _ _), hgrey.1, ?_⟩
  rw [hcolor.2, hgrey.2]
  rfl

end RuleList

end Wikitext
