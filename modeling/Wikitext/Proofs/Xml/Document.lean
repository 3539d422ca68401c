import Wikitext.Proofs.Xml.Tag

/-!
# Written documents

`Written es t`: the bytes `t` are the events `es` as they are written, one behind the other.
`events_written`: the events of such a document are these, as long as every end tag is in its place.
Between the tags stands character data, in which references may stand for characters
(`unescape?_spells`).
-/

namespace Wikitext.Xml

open Text (takeWhile_append_stop dropWhile_append_stop)

-- -----------------------------------------------------------------------------------------
-- Character data
-- -----------------------------------------------------------------------------------------

/-- The first text says the second, with references for some of its characters. -/
inductive Spells : Text → Text → Prop
  | plain : '&' ∉ t → Spells t t
  | reference : '&' ∉ front → (∀ d ∈ inside, d ≠ '&' ∧ d ≠ ';') → referenced? inside = some c →
      Spells raw t → Spells (front ++ '&' :: (inside ++ ';' :: raw)) (front ++ c :: t)

/-- Bytes that say a text. -/
def Says (raw : Bytes) (t : Text) : Prop := ∃ s, raw = Text.toBytes s ∧ Spells s t

theorem unescape?_plain (h : '&' ∉ t) : unescape? t = some t := by
  have htake : t.takeWhile (· != '&') = t :=
    List.takeWhile_eq_self_iff.mpr fun c hc => bne_iff_ne.mpr fun hand => h (hand ▸ hc)
  rw [unescape?]
  split
  · rw [htake]
  · rename_i hdrop
    rw [htake, List.drop_length] at hdrop
    cases hdrop

theorem unescape?_reference (hfront : '&' ∉ front) (hin : ∀ d ∈ inside, d ≠ '&' ∧ d ≠ ';')
    (hc : referenced? inside = some c) (t : Text) :
    unescape? (front ++ '&' :: (inside ++ ';' :: t)) = (unescape? t).map (front ++ c :: ·) := by
  have hplain : (front ++ '&' :: (inside ++ ';' :: t)).takeWhile (· != '&') = front := by
    refine takeWhile_append_stop (fun d hd => bne_iff_ne.mpr fun hand => hfront (hand ▸ hd)) ?_
    rintro d ⟨⟩
    rfl
  have hinside : (inside ++ ';' :: t).takeWhile (fun c => c != '&' && c != ';') = inside := by
    refine takeWhile_append_stop (fun d hd => by simp [hin d hd]) ?_
    rintro d ⟨⟩
    rfl
  rw [unescape?]
  split
  · rename_i hdrop
    rw [hplain, List.drop_left] at hdrop
    cases hdrop
  · rename_i hdrop
    rw [hplain, List.drop_left] at hdrop
    cases hdrop
    dsimp only
    split
    · rename_i hrest
      rw [hinside, List.drop_left] at hrest
      cases hrest
      rw [hinside, hplain, hc]
      cases unescape? t <;> rfl
    · rename_i hrest
      rw [hinside, List.drop_left] at hrest
      exact absurd rfl (hrest _)

theorem unescape?_spells (h : Spells raw t) : unescape? raw = some t := by
  induction h with
  | plain hand => exact unescape?_plain hand
  | reference hfront hin hc _ ih => rw [unescape?_reference hfront hin hc, ih, Option.map_some]

/-- White space is character data. -/
theorem Blank.said (h : Blank space) : ∃ t, Says space t := by
  have hchars : ∀ b ∈ space, Char.ofNat b.toNat ≠ '&' ∧
      String.utf8EncodeChar (Char.ofNat b.toNat) = [b] := by
    intro b hb
    have hb := h b hb
    simp only [isSpace, Bool.or_eq_true, beq_iff_eq] at hb
    obtain ((rfl | rfl) | rfl) | rfl := hb <;> decide
  refine ⟨space.map fun b => Char.ofNat b.toNat, _, ?_, .plain ?_⟩
  · clear h
    induction space with
    | nil => rfl
    | cons b space ih =>
      rw [List.forall_mem_cons] at hchars
      rw [List.map_cons, Text.toBytes, List.flatMap_cons, hchars.1.2, ← Text.toBytes, ← ih hchars.2]
      rfl
  · intro hand
    obtain ⟨b, hb, hand⟩ := List.mem_map.mp hand
    exact (hchars b hb).1 hand

-- -----------------------------------------------------------------------------------------
-- Events
-- -----------------------------------------------------------------------------------------

/-- The mark stands nowhere in the text and the mark behind it but at the end. -/
def EndsFirst (mark raw : Bytes) : Prop := ∀ n < raw.length, ¬ mark <+: (raw ++ mark).drop n

instance : Decidable (EndsFirst mark raw) :=
  inferInstanceAs (Decidable (∀ n < raw.length, ¬ mark <+: (raw ++ mark).drop n))

/-- The event can be written. Documents with a document type are left out. -/
def Event.Sound : Event → Prop
  | .start tag | .empty tag => ∃ as, tag.HasAttributes as
  | .stop name => IsName name
  | .text raw => raw ≠ [] ∧ 0x3C ∉ raw
  | .characterData raw => EndsFirst (ascii "]]>") raw
  | .comment raw => EndsFirst (ascii "-->") raw
  | .instruction raw => raw.head? ≠ some 0x3E ∧ EndsFirst (ascii "?>") raw
  | .docType _ => False

/-- The event as it is written, with white space behind the name of an end tag. -/
def Event.bytes (space : Bytes) : Event → Bytes
  | .start tag => ascii "<" ++ tag.name ++ tag.inside ++ ascii ">"
  | .empty tag => ascii "<" ++ tag.name ++ tag.inside ++ ascii "/>"
  | .stop name => ascii "</" ++ name ++ space ++ ascii ">"
  | .text raw => raw
  | .characterData raw => ascii "<![CDATA[" ++ raw ++ ascii "]]>"
  | .comment raw => ascii "<!--" ++ raw ++ ascii "-->"
  | .instruction raw => ascii "<?" ++ raw ++ ascii "?>"
  | .docType raw => ascii "<!DOCTYPE" ++ raw ++ ascii ">"

def Event.isText : Event → Bool
  | .text _ => true
  | _ => false

/-- Events as they are written. A text goes up to the next angle bracket. -/
inductive Written : List Event → Bytes → Prop
  | nil : Written [] []
  | cons {e : Event} {space t : Bytes} : e.Sound → Blank space →
      (e.isText = true → ∀ b ∈ t.head?, b = 0x3C) → Written es t →
      Written (e :: es) (e.bytes space ++ t)

theorem cutAt?_append (h : EndsFirst mark raw) (hm : mark ≠ []) (rest : Bytes) :
    cutAt? mark (raw ++ (mark ++ rest)) = some (raw, rest) := by
  induction raw with
  | nil =>
    obtain ⟨b, m, rfl⟩ := List.exists_cons_of_ne_nil hm
    simp [cutAt?]
  | cons b raw ih =>
    have hhere : ¬ mark <+: b :: (raw ++ (mark ++ rest)) := by
      intro hp
      have hwhole : b :: raw ++ mark <+: b :: (raw ++ (mark ++ rest)) := by
        rw [← List.append_assoc, ← List.cons_append]
        exact List.prefix_append _ rest
      refine h 0 (Nat.succ_pos _) (List.prefix_of_prefix_length_le hp hwhole ?_)
      simp only [List.drop_zero, List.length_append, Nat.le_add_left]
    have hthere : EndsFirst mark raw := fun n hn => h (n + 1) (Nat.succ_lt_succ hn)
    have hp : mark.isPrefixOf (b :: (raw ++ (mark ++ rest))) = false := by
      simpa [← List.isPrefixOf_iff_prefix] using hhere
    simp [cutAt?, hp, ih hthere]

theorem start?_written {tag : Tag} (h : tag.HasAttributes as) (rest : Bytes) :
    start? (tag.name ++ tag.inside ++ 0x3E :: rest) = some (.start tag, rest) := by
  have hlast : (tag.name ++ tag.inside).getLast? ≠ some 0x2F := by
    intro hlast
    rw [List.getLast?_append] at hlast
    cases hinside : tag.inside.getLast? with
    | some b =>
      rw [hinside] at hlast
      exact h.written.getLast b hinside (Option.some.inj hlast)
    | none =>
      rw [hinside, Option.none_or] at hlast
      exact h.name.2 _ (List.mem_of_mem_getLast? hlast) (by decide)
  have hlast : ((tag.name ++ tag.inside).getLast? == some 0x2F) = false := by simpa using hlast
  simp only [start?, cutTag?_passed h.passed, Option.map_some, hlast, Bool.false_eq_true, ↓reduceIte,
    ofInside_written h]

theorem empty?_written {tag : Tag} (h : tag.HasAttributes as) (rest : Bytes) :
    start? (tag.name ++ tag.inside ++ 0x2F :: 0x3E :: rest) = some (.empty tag, rest) := by
  have hslash : Passed (tag.name ++ tag.inside ++ [0x2F]) :=
    h.passed.append (passed_cons (by decide) (by decide) passed_nil)
  have hcut := cutTag?_passed hslash rest
  rw [List.append_assoc, List.singleton_append] at hcut
  simp only [start?, hcut, Option.map_some, List.getLast?_concat, beq_self_eq_true, ↓reduceIte,
    List.dropLast_concat, ofInside_written h]

theorem stop?_written (hn : IsName name) (hs : Blank space) (rest : Bytes) :
    stop? (name ++ space ++ 0x3E :: rest) = some (.stop name, rest) := by
  have hname : ((name ++ space).reverse.dropWhile isSpace).reverse = name := by
    rw [List.reverse_append, dropWhile_append_stop (fun b hb => hs b (List.mem_reverse.mp hb))
      (fun b hb => hn.isSpace (List.mem_reverse.mp (List.mem_of_mem_head? hb))), List.reverse_reverse]
  simp only [stop?, cutTag?_passed (hn.passed.append hs.passed), Option.map_some, hname,
    List.isEmpty_iff, hn.1, ↓reduceIte]

/-- What is behind the angle bracket of a name is neither a declaration nor an end tag. -/
theorem markup?_name (hn : IsName name) (t : Bytes) : markup? (name ++ t) = start? (name ++ t) := by
  obtain ⟨b, k, rfl⟩ := List.exists_cons_of_ne_nil hn.1
  have hb := hn.2 b List.mem_cons_self
  have hbang : b ≠ 0x21 := fun h => hb (h ▸ by decide)
  have hquestion : b ≠ 0x3F := fun h => hb (h ▸ by decide)
  have hslash : b ≠ 0x2F := fun h => hb (h ▸ by decide)
  simp [markup?, hbang, hquestion, hslash]

theorem comment?_written (h : EndsFirst (ascii "-->") raw) (rest : Bytes) :
    bang? (ascii "--" ++ (raw ++ (ascii "-->" ++ rest))) = some (.comment raw, rest) := by
  have hdash : (ascii "-").isPrefixOf (ascii "--" ++ (raw ++ (ascii "-->" ++ rest))) = true := rfl
  have hdashes : (ascii "--").isPrefixOf (ascii "--" ++ (raw ++ (ascii "-->" ++ rest))) = true := rfl
  have hdrop : (ascii "--" ++ (raw ++ (ascii "-->" ++ rest))).drop 2 =
      raw ++ (ascii "-->" ++ rest) := rfl
  simp only [bang?, hdash, hdashes, hdrop, ↓reduceIte, cutAt?_append h (by decide), Option.map_some]

theorem characterData?_written (h : EndsFirst (ascii "]]>") raw) (rest : Bytes) :
    bang? (ascii "[CDATA[" ++ (raw ++ (ascii "]]>" ++ rest))) = some (.characterData raw, rest) := by
  have hdash : (ascii "-").isPrefixOf (ascii "[CDATA[" ++ (raw ++ (ascii "]]>" ++ rest))) = false :=
    rfl
  have hopen : (ascii "[").isPrefixOf (ascii "[CDATA[" ++ (raw ++ (ascii "]]>" ++ rest))) = true := rfl
  have hmark : (ascii "[CDATA[").isPrefixOf (ascii "[CDATA[" ++ (raw ++ (ascii "]]>" ++ rest))) =
      true := rfl
  have hdrop : (ascii "[CDATA[" ++ (raw ++ (ascii "]]>" ++ rest))).drop 7 =
      raw ++ (ascii "]]>" ++ rest) := rfl
  simp only [bang?, hdash, hopen, hmark, hdrop, Bool.false_eq_true, ↓reduceIte,
    cutAt?_append h (by decide), Option.map_some]

theorem instruction?_written (hhead : raw.head? ≠ some 0x3E) (h : EndsFirst (ascii "?>") raw)
    (rest : Bytes) : instruction? (raw ++ (ascii "?>" ++ rest)) = some (.instruction raw, rest) := by
  have hhead : ((raw ++ (ascii "?>" ++ rest)).head? == some 0x3E) = false := by
    cases raw with
    | nil => rfl
    | cons b raw => simpa using hhead
  simp only [instruction?, hhead, Bool.false_eq_true, ↓reduceIte, cutAt?_append h (by decide),
    Option.map_some]

/-- Markup is written in angle brackets and read behind the first one. -/
theorem markup?_written {e : Event} (he : e.Sound) (hs : Blank space) (htext : e.isText = false)
    (rest : Bytes) : ∃ t, e.bytes space ++ rest = 0x3C :: t ∧ markup? t = some (e, rest) := by
  have hless : ascii "<" = [0x3C] := rfl
  have hmore : ascii ">" = [0x3E] := rfl
  have hslash : ascii "/>" = [0x2F, 0x3E] := rfl
  have hstop : ascii "</" = [0x3C, 0x2F] := rfl
  cases e with
  | start tag =>
    obtain ⟨as, h⟩ := he
    refine ⟨tag.name ++ tag.inside ++ 0x3E :: rest, by simp [Event.bytes, hless, hmore], ?_⟩
    rw [List.append_assoc, markup?_name h.name, ← List.append_assoc, start?_written h]
  | empty tag =>
    obtain ⟨as, h⟩ := he
    refine ⟨tag.name ++ tag.inside ++ 0x2F :: 0x3E :: rest, by simp [Event.bytes, hless, hslash], ?_⟩
    rw [List.append_assoc, markup?_name h.name, ← List.append_assoc, empty?_written h]
  | stop name =>
    refine ⟨0x2F :: (name ++ space ++ 0x3E :: rest), by simp [Event.bytes, hstop, hmore], ?_⟩
    exact stop?_written he hs rest
  | text raw => cases htext
  | comment raw =>
    have hopen : ascii "<!--" = 0x3C :: 0x21 :: ascii "--" := rfl
    refine ⟨0x21 :: (ascii "--" ++ (raw ++ (ascii "-->" ++ rest))), by simp [Event.bytes, hopen], ?_⟩
    exact comment?_written he rest
  | characterData raw =>
    have hopen : ascii "<![CDATA[" = 0x3C :: 0x21 :: ascii "[CDATA[" := rfl
    refine ⟨0x21 :: (ascii "[CDATA[" ++ (raw ++ (ascii "]]>" ++ rest))), by simp [Event.bytes, hopen], ?_⟩
    exact characterData?_written he rest
  | instruction raw =>
    have hopen : ascii "<?" = [0x3C, 0x3F] := rfl
    refine ⟨0x3F :: (raw ++ (ascii "?>" ++ rest)), by simp [Event.bytes, hopen], ?_⟩
    exact instruction?_written he.1 he.2 rest
  | docType raw => exact he.elim

-- -----------------------------------------------------------------------------------------
-- Documents
-- -----------------------------------------------------------------------------------------

/-- The equation of `eventsFrom` without what its termination needs. -/
theorem eventsFrom_eq (opened : List Bytes) (t : Bytes) : eventsFrom opened t =
    let raw := t.takeWhile (· != 0x3C)
    let front := if raw.isEmpty then [] else [Event.text raw]
    match t.drop raw.length with
    | [] => ⟨front, true⟩
    | _ :: t =>
      match markup? t with
      | none => ⟨front, false⟩
      | some (e, rest) =>
        match openAfter? opened e with
        | none => ⟨front, false⟩
        | some opened =>
          let others := eventsFrom opened rest
          { others with events := front ++ e :: others.events } := by
  rw [eventsFrom]
  split
  · rename_i hdrop
    simp only [hdrop]
  · rename_i hdrop
    simp only [hdrop]
    split
    · rename_i hmarkup
      simp only [hmarkup]
    · rename_i e rest hmarkup
      cases hopen : openAfter? opened e <;> simp only [hmarkup, hopen]

theorem eventsFrom_nil (opened : List Bytes) : eventsFrom opened [] = ⟨[], true⟩ := by
  rw [eventsFrom_eq]
  rfl

theorem eventsFrom_markup (h : markup? t = some (e, rest)) (ho : openAfter? opened e = some opened') :
    eventsFrom opened (0x3C :: t) =
      ⟨e :: (eventsFrom opened' rest).events, (eventsFrom opened' rest).sound⟩ := by
  rw [eventsFrom_eq]
  simp [h, ho]

theorem eventsFrom_text (hne : raw ≠ []) (hraw : 0x3C ∉ raw) (ht : ∀ b ∈ t.head?, b = 0x3C)
    (opened : List Bytes) :
    eventsFrom opened (raw ++ t) =
      ⟨.text raw :: (eventsFrom opened t).events, (eventsFrom opened t).sound⟩ := by
  have htake : (raw ++ t).takeWhile (· != 0x3C) = raw :=
    takeWhile_append_stop (fun b hb => bne_iff_ne.mpr fun hlt => hraw (hlt ▸ hb)) fun b hb => by
      simp [ht b hb]
  have htake' : t.takeWhile (· != 0x3C) = [] := by
    cases t with
    | nil => rfl
    | cons b t => simp [ht b rfl]
  rw [eventsFrom_eq opened (raw ++ t), eventsFrom_eq opened t]
  simp only [htake, htake', List.drop_left, List.length_nil, List.drop_zero, List.isEmpty_iff, hne,
    ↓reduceIte]
  repeat' split
  all_goals rfl

/-- The elements that are open after some events; the one opened last is the first. -/
def openAfterAll? (opened : List Bytes) (es : List Event) : Option (List Bytes) :=
  es.foldlM openAfter? opened

/-- Written events are read as these, and then what is behind them. -/
theorem eventsFrom_append (h : Written es t) (ho : openAfterAll? opened es = some opened')
    (hu : ∀ b ∈ u.head?, b = 0x3C) :
    eventsFrom opened (t ++ u) =
      ⟨es ++ (eventsFrom opened' u).events, (eventsFrom opened' u).sound⟩ := by
  induction h generalizing opened with
  | nil =>
    cases ho
    rfl
  | @cons es e space t he hs htext _ ih =>
    obtain ⟨opened₁, ho₁, ho⟩ : ∃ opened₁, openAfter? opened e = some opened₁ ∧
        openAfterAll? opened₁ es = some opened' := by
      simpa [openAfterAll?, Option.bind_eq_some_iff] using ho
    rw [List.append_assoc]
    cases htype : e.isText with
    | true =>
      cases e with
      | text raw =>
        cases ho₁
        have hnext : ∀ b ∈ (t ++ u).head?, b = 0x3C := by
          cases t with
          | nil => exact hu
          | cons b t => exact htext rfl
        rw [Event.bytes, eventsFrom_text he.1 he.2 hnext, ih ho]
        rfl
      | _ => cases htype
    | false =>
      obtain ⟨v, hv, hmarkup⟩ := markup?_written he hs htype (t ++ u)
      rw [hv, eventsFrom_markup hmarkup ho₁, ih ho]
      rfl

theorem eventsFrom_written (h : Written es t) (ho : openAfterAll? opened es = some opened') :
    eventsFrom opened t = ⟨es, true⟩ := by
  have hread := eventsFrom_append h ho (u := []) (by simp)
  rwa [List.append_nil, eventsFrom_nil, List.append_nil] at hread

/-- A document is read as the events that it is written as. -/
theorem events_written (h : Written es t) (ho : openAfterAll? [] es = some opened)
    (hmark : ¬ byteOrderMark <+: t) : events t = ⟨es, true⟩ := by
  have hmark : byteOrderMark.isPrefixOf t = false := by
    simpa [← List.isPrefixOf_iff_prefix] using hmark
  rw [events, hmark]
  exact eventsFrom_written h ho

end Wikitext.Xml
