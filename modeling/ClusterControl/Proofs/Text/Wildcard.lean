import ClusterControl.Proofs.Text.Items
import ClusterControl.Text.Wildcard
import Mathlib.Logic.Function.Iterate

/-!
What a pattern accepts: the texts that its stars can be filled to make. A scan from left to right that
comes back to its last star, and never to an earlier one, ends and finds out the same.
-/

namespace ClusterControl.Wildcard

/-- The text that a pattern becomes when the star at each place is replaced by what fills it. -/
def fill (filling : Nat → List Char) (pattern : List Char) : List Char :=
  (pattern.mapIdx fun i c => if c = '*' then filling i else [c]).flatten

/-- The stars of the pattern can be filled so that it becomes the text. -/
def Covers (pattern text : List Char) : Prop :=
  ∃ filling, fill filling pattern = text

variable {pattern text literal piece rest : List Char} {pieces : List (List Char)} {c d : Char}

theorem fill_cons (filling : Nat → List Char) : fill filling (c :: pattern) =
    (if c = '*' then filling 0 else [c]) ++ fill (fun i => filling (i + 1)) pattern := by
  simp only [fill, List.mapIdx_cons, List.flatten_cons]

@[simp] theorem covers_nil : Covers [] text ↔ text = [] := by
  constructor
  · rintro ⟨_, rfl⟩
    rfl
  · rintro rfl
    exact ⟨fun _ => [], rfl⟩

theorem covers_star : Covers ('*' :: pattern) text ↔ ∃ rest, rest <:+ text ∧ Covers pattern rest := by
  constructor
  · rintro ⟨filling, rfl⟩
    rw [fill_cons, if_pos rfl]
    exact ⟨_, List.suffix_append _ _, _, rfl⟩
  · rintro ⟨_, ⟨skipped, rfl⟩, filling, rfl⟩
    refine ⟨fun | 0 => skipped | i + 1 => filling i, ?_⟩
    rw [fill_cons, if_pos rfl]

theorem covers_cons (hc : c ≠ '*') :
    Covers (c :: pattern) text ↔ ∃ rest, text = c :: rest ∧ Covers pattern rest := by
  constructor
  · rintro ⟨filling, rfl⟩
    rw [fill_cons, if_neg hc]
    exact ⟨_, rfl, _, rfl⟩
  · rintro ⟨_, rfl, filling, rfl⟩
    refine ⟨fun i => filling (i - 1), ?_⟩
    rw [fill_cons, if_neg hc]
    rfl

theorem covers_append (hl : '*' ∉ literal) :
    Covers (literal ++ pattern) text ↔ ∃ rest, text = literal ++ rest ∧ Covers pattern rest := by
  induction literal generalizing text with
  | nil => simp
  | cons c literal ih =>
      rw [List.mem_cons, not_or] at hl
      rw [List.cons_append, covers_cons (Ne.symm hl.1)]
      constructor
      · rintro ⟨_, rfl, h⟩
        obtain ⟨rest, rfl, hr⟩ := (ih hl.2).1 h
        exact ⟨rest, rfl, hr⟩
      · rintro ⟨rest, rfl, h⟩
        exact ⟨_, rfl, (ih hl.2).2 ⟨rest, rfl, h⟩⟩

theorem covers_literal (hl : '*' ∉ literal) : Covers literal text ↔ text = literal := by
  have h : Covers (literal ++ []) text ↔ ∃ rest, text = literal ++ rest ∧ Covers [] rest := covers_append hl
  simpa using h

theorem covers_append_left (hl : '*' ∉ literal) :
    Covers (literal ++ pattern) (literal ++ text) ↔ Covers pattern text := by
  rw [covers_append hl]
  constructor
  · rintro ⟨rest, he, h⟩
    rwa [List.append_cancel_left he]
  · exact fun h => ⟨text, rfl, h⟩

theorem covers_empty : Covers pattern [] ↔ ∀ c ∈ pattern, c = '*' := by
  induction pattern with
  | nil => simp
  | cons c pattern ih =>
      by_cases hc : c = '*'
      · subst hc
        simp [covers_star, ih]
      · simp [covers_cons hc, hc]

theorem covers_suffix (h : Covers ('*' :: pattern) rest) (hs : rest <:+ text) : Covers ('*' :: pattern) text := by
  obtain ⟨last, hl, h⟩ := covers_star.1 h
  exact covers_star.2 ⟨last, hl.trans hs, h⟩

theorem not_covers_cons (hd : ∀ d ∈ pattern.head?, d ≠ '*' ∧ d ≠ c) : ¬ Covers pattern (c :: text) := by
  cases pattern with
  | nil => simp
  | cons d pattern =>
      obtain ⟨hs, hc⟩ := hd d rfl
      rw [covers_cons hs]
      rintro ⟨_, he, _⟩
      exact hc (List.cons.inj he).1.symm

/-- A star that stands for nothing in vain stands for the next character too. -/
theorem covers_star_cons (h : ¬ Covers pattern (c :: text)) :
    Covers ('*' :: pattern) (c :: text) ↔ Covers ('*' :: pattern) text := by
  constructor
  · intro hc
    obtain ⟨rest, hr, hp⟩ := covers_star.1 hc
    rcases List.suffix_cons_iff.1 hr with rfl | hr
    · exact absurd hp h
    · exact covers_star.2 ⟨rest, hr, hp⟩
  · exact fun hc => covers_suffix hc (List.suffix_cons c text)

/-- Once the literal after a star is found, all that matters is the star after it: whatever the first star
could stand for beyond that, the second one can. -/
theorem covers_next_star (hl : '*' ∉ literal) :
    Covers ('*' :: (literal ++ '*' :: pattern)) (literal ++ text) ↔ Covers ('*' :: pattern) text := by
  constructor
  · intro h
    obtain ⟨_, hr, hp⟩ := covers_star.1 h
    obtain ⟨rest, rfl, hp'⟩ := (covers_append hl).1 hp
    refine covers_suffix hp' (List.suffix_of_suffix_length_le ((List.suffix_append _ _).trans hr)
      (List.suffix_append _ _) ?_)
    have hlen := hr.length_le
    simp only [List.length_append] at hlen
    omega
  · exact fun h => covers_star.2 ⟨_, List.suffix_rfl, (covers_append_left hl).2 h⟩

theorem covers_star_literal (hl : '*' ∉ literal) :
    Covers ('*' :: (literal ++ pattern)) literal ↔ ∀ c ∈ pattern, c = '*' := by
  have he : Covers (literal ++ pattern) (literal ++ []) ↔ Covers pattern [] := covers_append_left hl
  rw [← covers_empty, ← he, List.append_nil]
  constructor
  · intro h
    obtain ⟨_, hr, hp⟩ := covers_star.1 h
    obtain ⟨rest, rfl, _⟩ := (covers_append hl).1 hp
    have hlen := hr.length_le
    simp only [List.length_append] at hlen
    obtain rfl : rest = [] := List.eq_nil_of_length_eq_zero (by omega)
    rwa [List.append_nil] at hp
  · exact fun h => covers_star.2 ⟨literal, List.suffix_rfl, h⟩

section Scan

/-- Where a scan stands: what is left of the pattern and of the text, and, if it passed a star, what follows
the last one and what was left of the text when it went on from there. -/
structure Scan where
  pattern : List Char
  text : List Char
  star : Option (List Char × List Char)

inductive Search
  | scanning (scan : Scan)
  | answered (answer : Bool)

namespace Scan

def start (pattern text : List Char) : Scan :=
  ⟨pattern, text, none⟩

/-- A star is passed at once, and a character with its like. Else the last star takes one more character. -/
def turn (s : Scan) : Search :=
  match s.text with
  | [] => .answered (s.pattern.all (· = '*'))
  | c :: text =>
    if s.pattern.head? = some '*' then .scanning ⟨s.pattern.tail, s.text, some (s.pattern.tail, s.text)⟩
    else if s.pattern.head? = some c then .scanning ⟨s.pattern.tail, text, s.star⟩
    else match s.star with
      | some (after, tried) => .scanning ⟨after, tried.tail, some (after, tried.tail)⟩
      | none => .answered false

inductive Turns : Scan → Search → Prop
  | ended (pattern : List Char) (star : Option (List Char × List Char)) :
      Turns ⟨pattern, [], star⟩ (.answered (pattern.all (· = '*')))
  | star (pattern : List Char) (c : Char) (text : List Char) (star : Option (List Char × List Char)) :
      Turns ⟨'*' :: pattern, c :: text, star⟩ (.scanning ⟨pattern, c :: text, some (pattern, c :: text)⟩)
  | like (pattern : List Char) (c : Char) (hc : c ≠ '*') (text : List Char)
      (star : Option (List Char × List Char)) :
      Turns ⟨c :: pattern, c :: text, star⟩ (.scanning ⟨pattern, text, star⟩)
  | back (pattern : List Char) (c : Char) (text after tried : List Char)
      (hd : ∀ d ∈ pattern.head?, d ≠ '*' ∧ d ≠ c) :
      Turns ⟨pattern, c :: text, some (after, tried)⟩ (.scanning ⟨after, tried.tail, some (after, tried.tail)⟩)
  | lost (pattern : List Char) (c : Char) (text : List Char) (hd : ∀ d ∈ pattern.head?, d ≠ '*' ∧ d ≠ c) :
      Turns ⟨pattern, c :: text, none⟩ (.answered false)

theorem turns_turn (s : Scan) : s.Turns s.turn := by
  obtain ⟨pattern, text, star⟩ := s
  cases text with
  | nil => exact .ended pattern star
  | cons c text =>
      unfold turn
      dsimp only
      split
      case isTrue hs =>
        obtain ⟨pattern, rfl⟩ := List.head?_eq_some_iff.1 hs
        exact .star pattern c text star
      case isFalse hs =>
        split
        case isTrue hc =>
          obtain ⟨pattern, rfl⟩ := List.head?_eq_some_iff.1 hc
          exact .like pattern c (fun he => hs (congrArg some he)) text star
        case isFalse hc =>
          have hd : ∀ d ∈ pattern.head?, d ≠ '*' ∧ d ≠ c := by
            rintro d hd
            refine ⟨?_, ?_⟩
            · rintro rfl
              exact hs hd
            · rintro rfl
              exact hc hd
          cases star with
          | none => exact .lost pattern c text hd
          | some last => exact .back pattern c text last.1 last.2 hd

/-- To cover the whole comes down to covering what is left, from the last star on if there is one. Between
that star and the place reached in the pattern stands a literal that was found in the text. -/
def Sound (whole : Prop) (s : Scan) : Prop :=
  match s.star with
  | none => whole ↔ Covers s.pattern s.text
  | some (after, tried) => (whole ↔ Covers ('*' :: after) tried) ∧
      ∃ literal, '*' ∉ literal ∧ after = literal ++ s.pattern ∧ tried = literal ++ s.text

variable {whole : Prop} {s next : Scan} {search : Search} {found : Bool}

theorem Turns.sound (h : s.Turns search) (hs : s.Sound whole) (he : search = .scanning next) :
    next.Sound whole := by
  cases h with
  | ended | lost => cases he
  | star pattern c text star =>
      cases he
      cases star with
      | none => exact ⟨hs, [], by simp, rfl, rfl⟩
      | some last =>
          obtain ⟨hw, literal, hl, ha, ht⟩ := hs
          rw [ha, ht, covers_next_star hl] at hw
          exact ⟨hw, [], by simp, rfl, rfl⟩
  | like pattern c hc text star =>
      cases he
      cases star with
      | none =>
          have hl : '*' ∉ [c] := by simpa using hc.symm
          exact hs.trans (covers_append_left hl)
      | some last =>
          obtain ⟨hw, literal, hl, ha, ht⟩ := hs
          refine ⟨hw, literal ++ [c], ?_, by simpa using ha, by simpa using ht⟩
          simpa [hl] using hc.symm
  | back pattern c text after tried hd =>
      cases he
      obtain ⟨hw, literal, hl, ha, ht⟩ := hs
      obtain rfl : after = literal ++ pattern := ha
      obtain rfl : tried = literal ++ c :: text := ht
      refine ⟨?_, [], by simp, rfl, rfl⟩
      -- the literal brings the scan to the same place, where it goes no further
      have hn : ¬ Covers (literal ++ pattern) (literal ++ c :: text) := by
        rw [covers_append_left hl]
        exact not_covers_cons hd
      obtain ⟨first, rest, hf⟩ : ∃ first rest, literal ++ c :: text = first :: rest :=
        List.exists_cons_of_ne_nil (by simp)
      rw [hf] at hn hw ⊢
      exact hw.trans (covers_star_cons hn)

theorem Turns.answer (h : s.Turns search) (hs : s.Sound whole) (he : search = .answered found) :
    found = true ↔ whole := by
  cases h with
  | star | like | back => cases he
  | ended pattern star =>
      cases he
      rw [List.all_eq_true]
      simp only [decide_eq_true_eq]
      cases star with
      | none => exact (hs.trans covers_empty).symm
      | some last =>
          obtain ⟨hw, literal, hl, ha, ht⟩ := hs
          rw [ha, ht, List.append_nil, covers_star_literal hl] at hw
          exact hw.symm
  | lost pattern c text hd =>
      cases he
      simpa using fun hw => not_covers_cons hd (hs.1 hw)

/-- What a scan may yet do: pass stars, go on from the last of them elsewhere, compare characters. -/
def left (s : Scan) : Nat × Nat × Nat :=
  match s.star with
  | none => (s.pattern.length, 0, s.text.length)
  | some (after, tried) => (after.length, tried.length, s.text.length)

/-- Pattern and text may both go back, but then there is less text for the last star, and a later star leaves
less of the pattern. -/
theorem Turns.left_lt (h : s.Turns search) (hs : s.Sound whole) (he : search = .scanning next) :
    WellFoundedRelation.rel next.left s.left := by
  cases h with
  | ended | lost => cases he
  | star pattern c text star =>
      cases he
      refine Prod.Lex.left _ _ ?_
      cases star with
      | none => exact Nat.lt_succ_self _
      | some last =>
          obtain ⟨_, literal, _, ha, _⟩ := hs
          have hlen := congrArg List.length ha
          simp only [List.length_append, List.length_cons] at hlen
          show pattern.length < last.1.length
          omega
  | like pattern c hc text star =>
      cases he
      cases star with
      | none => exact Prod.Lex.left _ _ (Nat.lt_succ_self _)
      | some last => exact Prod.Lex.right _ (Prod.Lex.right _ (Nat.lt_succ_self _))
  | back pattern c text after tried hd =>
      cases he
      obtain ⟨_, literal, _, _, ht⟩ := hs
      refine Prod.Lex.right _ (Prod.Lex.left _ _ ?_)
      have hlen := congrArg List.length ht
      simp only [List.length_append, List.length_cons] at hlen
      rw [List.length_tail]
      show tried.length - 1 < tried.length
      omega

theorem sound_start (pattern text : List Char) : (start pattern text).Sound (Covers pattern text) :=
  Iff.rfl

end Scan

/-- A search that has its answer keeps it. -/
def Search.next : Search → Search
  | scanning scan => scan.turn
  | answered answer => .answered answer

/-- A scan ends, and answers whether the pattern covers the text. -/
theorem Scan.Sound.answers {whole : Prop} {s : Scan} (hs : s.Sound whole) :
    ∃ turns found, Search.next^[turns] (.scanning s) = .answered found ∧ (found = true ↔ whole) := by
  have ht := s.turns_turn
  cases hn : s.turn with
  | answered found => exact ⟨1, found, hn, ht.answer hs hn⟩
  | scanning next =>
      obtain ⟨turns, found, hf, hw⟩ := (ht.sound hs hn).answers
      refine ⟨turns + 1, found, ?_, hw⟩
      rw [Function.iterate_succ_apply, Search.next, hn, hf]
termination_by s.left
decreasing_by exact ht.left_lt hs hn

end Scan

section Pieces

theorem after?_eq_some (h : after? piece text = some rest) :
    piece ++ rest <:+ text ∧ ∀ later, piece ++ later <:+ text → later <:+ rest := by
  induction text with
  | nil =>
      rw [after?] at h
      split at h
      case isTrue hp =>
        cases h
        obtain rfl : piece = [] := List.isEmpty_iff.1 hp
        exact ⟨List.suffix_rfl, fun later hl => hl⟩
      case isFalse => cases h
  | cons c text ih =>
      rw [after?] at h
      split at h
      case isTrue hp =>
        obtain ⟨found, hf⟩ := List.isPrefixOf_iff_prefix.1 hp
        rw [← hf, List.drop_left] at h
        cases h
        rw [← hf]
        refine ⟨List.suffix_rfl, fun later hl => ?_⟩
        refine List.suffix_of_suffix_length_le ((List.suffix_append _ _).trans hl) (List.suffix_append _ _) ?_
        have hlen := hl.length_le
        simp only [List.length_append] at hlen
        omega
      case isFalse hp =>
        obtain ⟨hr, hl⟩ := ih h
        refine ⟨hr.trans (List.suffix_cons c text), fun later hs => ?_⟩
        rcases List.suffix_cons_iff.1 hs with he | hs
        · exact absurd (List.isPrefixOf_iff_prefix.2 ⟨later, he⟩) hp
        · exact hl later hs

theorem after?_eq_none (h : after? piece text = none) (rest : List Char) : ¬ piece ++ rest <:+ text := by
  intro hs
  induction text with
  | nil =>
      rw [after?] at h
      split at h
      case isTrue => cases h
      case isFalse hp =>
        have he := List.suffix_nil.1 hs
        simp only [List.append_eq_nil_iff] at he
        exact hp (List.isEmpty_iff.2 he.1)
  | cons c text ih =>
      rw [after?] at h
      split at h
      case isTrue => cases h
      case isFalse hp =>
        rcases List.suffix_cons_iff.1 hs with he | hs
        · exact hp (List.isPrefixOf_iff_prefix.2 ⟨rest, he⟩)
        · exact ih h hs

/-- The pattern of pieces before each of which there is a star. -/
def starred (pieces : List (List Char)) : List Char :=
  pieces.flatMap fun piece => '*' :: piece

theorem starred_cons : starred (piece :: pieces) = '*' :: (piece ++ starred pieces) := rfl

theorem append_starred_of_split {first : List Char} (h : Text.split '*' pattern = first :: pieces) :
    first ++ starred pieces = pattern := by
  induction pattern generalizing first pieces with
  | nil =>
      cases h
      rfl
  | cons c pattern ih =>
      rw [Text.split] at h
      split at h
      case isTrue hc =>
        cases h
        cases hs : Text.split '*' pattern with
        | nil => exact absurd hs (Text.split_ne_nil _ _)
        | cons second pieces => rw [List.nil_append, starred_cons, ih hs, hc]
      case isFalse hc =>
        split at h
        case h_1 hs => exact absurd hs (Text.split_ne_nil _ _)
        case h_2 second pieces hs =>
          cases h
          rw [List.cons_append, ih hs]

theorem endsWithPieces_iff (hn : pieces ≠ []) (hp : ∀ piece ∈ pieces, '*' ∉ piece) :
    endsWithPieces pieces text = true ↔ Covers (starred pieces) text := by
  induction pieces generalizing text with
  | nil => exact absurd rfl hn
  | cons piece pieces ih =>
      obtain ⟨hl, hp⟩ := List.forall_mem_cons.1 hp
      rw [starred_cons, covers_star]
      simp only [covers_append hl]
      cases pieces with
      | nil =>
          rw [endsWithPieces, List.isSuffixOf_iff_suffix]
          constructor
          · exact fun hs => ⟨piece, hs, [], (List.append_nil piece).symm, covers_nil.2 rfl⟩
          · rintro ⟨_, hs, rest, rfl, hr⟩
            rwa [covers_nil.1 hr, List.append_nil] at hs
      | cons second pieces =>
          rw [endsWithPieces]
          · cases ha : after? piece text with
            | none =>
                simp only [Bool.false_eq_true, false_iff]
                rintro ⟨_, hs, rest, rfl, _⟩
                exact after?_eq_none ha rest hs
            | some rest =>
                obtain ⟨hs, hlater⟩ := after?_eq_some ha
                rw [ih (List.cons_ne_nil _ _) hp]
                constructor
                · exact fun hc => ⟨_, hs, rest, rfl, hc⟩
                · -- after a later place of the piece there is less text for the next star
                  rintro ⟨_, hs', later, rfl, hc⟩
                  exact covers_suffix hc (hlater later hs')
          · exact List.cons_ne_nil _ _

theorem acceptsChars_iff : acceptsChars pattern text = true ↔ Covers pattern text := by
  have hstar := @Text.not_mem_of_mem_split '*' pattern
  unfold acceptsChars
  cases hs : Text.split '*' pattern with
  | nil => exact absurd hs (Text.split_ne_nil _ _)
  | cons first pieces =>
      have hfirst := hstar (hs ▸ List.mem_cons_self)
      rw [← append_starred_of_split hs]
      cases pieces with
      | nil =>
          rw [starred, List.flatMap_nil, List.append_nil, covers_literal hfirst]
          simp [eq_comm]
      | cons second pieces =>
          have hpieces : ∀ piece ∈ second :: pieces, '*' ∉ piece :=
            fun piece hm => hstar (hs ▸ List.mem_cons_of_mem first hm)
          rw [covers_append hfirst, Bool.and_eq_true, List.isPrefixOf_iff_prefix,
            endsWithPieces_iff (List.cons_ne_nil _ _) hpieces]
          constructor
          · rintro ⟨⟨rest, rfl⟩, hc⟩
            rw [List.drop_left] at hc
            exact ⟨rest, rfl, hc⟩
          · rintro ⟨rest, rfl, hc⟩
            rw [List.drop_left]
            exact ⟨List.prefix_append _ _, hc⟩

theorem accepts_iff {pattern text : String} :
    accepts pattern text = true ↔ Covers pattern.toList text.toList :=
  acceptsChars_iff

end Pieces

/-- A pattern accepts the texts that filling its stars makes of it, and no others; and a scan from left to
right, which always ends, finds out the same. -/
theorem accepts_exactly (pattern text : String) :
    (accepts pattern text = true ↔ Covers pattern.toList text.toList) ∧
      ∃ turns, Search.next^[turns] (.scanning (.start pattern.toList text.toList)) =
        .answered (accepts pattern text) := by
  refine ⟨accepts_iff, ?_⟩
  obtain ⟨turns, found, hf, hw⟩ := (Scan.sound_start pattern.toList text.toList).answers
  rw [← accepts_iff, Bool.coe_iff_coe] at hw
  exact ⟨turns, hw ▸ hf⟩

end ClusterControl.Wildcard
