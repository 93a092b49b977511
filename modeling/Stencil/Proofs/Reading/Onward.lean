import Stencil.Proofs.Reading.Steps

/-!
# Readers go onward

What a reader leaves is the end of its text (`Reader.Onward`), so it stays inside the text and takes
what it takes from the front. A string that is never closed is no exception: reading goes back to
its opening quote, but not before it.

A loop is told by its rounds (`Loop`). `Loop.within` runs it for a number of rounds, and has no
result if it is not over by then. Where every round that is not the last one takes a character, the
loop is over within one round more than the text has characters (`Loop.ends_of_rounds`).
-/

namespace Stencil

namespace Reader

variable {α β : Type}

/-- What a reader leaves is the end of its text. -/
def Onward (x : Reader α) : Prop :=
  ∀ s, (x.run s).2 <:+ s

/-- A result that is there leaves the text as it is. -/
lemma Onward.pure (a : α) : (pure a : Reader α).Onward :=
  fun s => List.suffix_refl s

/-- Two steps go onward if each of them does. -/
lemma Onward.bind {x : Reader α} {f : α → Reader β} (hx : x.Onward) (hf : ∀ a, (f a).Onward) :
    (x >>= f).Onward :=
  fun s => (hf _ _).trans (hx s)

/-- What is made of a result does not change what is left. -/
lemma Onward.map {x : Reader α} (hx : x.Onward) (f : α → β) : (f <$> x).Onward :=
  hx

/-- A choice goes onward if both sides of it do. -/
lemma Onward.ite {c : Prop} [Decidable c] {x y : Reader α} (hthen : x.Onward) (helse : y.Onward) :
    (if c then x else y).Onward := by
  by_cases hc : c
  · rw [if_pos hc]
    exact hthen
  · rw [if_neg hc]
    exact helse

/-- A look at the next character goes onward. -/
lemma onward_peek? : peek?.Onward :=
  fun s => List.suffix_refl s

/-- A look for the end goes onward. -/
lemma onward_atEnd : atEnd.Onward :=
  fun s => List.suffix_refl s

/-- A look at what comes next goes onward. -/
lemma onward_isAt (t : List Char) : (isAt t).Onward :=
  fun s => List.suffix_refl s

/-- Skipping characters goes onward. -/
lemma onward_skip (n : Nat) : (skip n).Onward :=
  fun s => List.drop_suffix n s

/-- Taking a text that may come next goes onward. -/
lemma onward_eat (t : List Char) : (eat t).Onward := by
  intro s
  rw [run_eat]
  split
  · exact List.drop_suffix _ s
  · exact List.suffix_refl s

/-- Taking a keyword goes onward. -/
lemma onward_keyword (w : List Char) : (keyword w).Onward := by
  intro s
  unfold keyword
  dsimp only
  split
  · exact List.drop_suffix _ s
  · exact List.suffix_refl s

/-- Taking characters of a kind goes onward. -/
lemma onward_takeWhile (p : Char → Bool) : (takeWhile p).Onward :=
  fun _ => List.dropWhile_suffix p

/-- Dropping blanks goes onward. -/
lemma onward_blanks : blanks.Onward :=
  fun _ => List.dropWhile_suffix Text.isBlank

/-- Taking a word goes onward. -/
lemma onward_word : word.Onward :=
  (onward_takeWhile Text.isWordChar).map String.ofList

/-- Going up to the end of a tag goes onward. -/
lemma onward_toClose : toClose.Onward := by
  intro s
  rw [run_toClose]
  induction s with
  | nil => exact List.suffix_refl []
  | cons c s ih =>
    rw [Delimiter.fromClose]
    split
    · exact List.suffix_refl _
    · exact ih.trans (List.suffix_cons c s)

/-- Going past the end of a tag goes onward. -/
lemma onward_pastClose : pastClose.Onward :=
  onward_toClose.bind fun _ => onward_skip _

/-- Behind a quoted text there is an end of what was there. -/
lemma quotedText?_suffix {quote : Char} {s : List Char} {p : List Char × List Char}
    (h : quotedText? quote s = some p) : p.2 <:+ s := by
  fun_induction quotedText? quote s generalizing p with
  | case1 => contradiction
  | case2 =>
    cases h
    exact List.suffix_cons _ _
  | case3 => contradiction
  | case4 d s =>
    cases h
    exact List.suffix_cons _ _
  | case5 d s _ ih =>
    obtain ⟨q, hq, rfl⟩ := Option.map_eq_some_iff.mp h
    exact (ih hq).trans ((List.suffix_cons d s).trans (List.suffix_cons _ _))
  | case6 c d s _ _ ih =>
    obtain ⟨q, hq, rfl⟩ := Option.map_eq_some_iff.mp h
    exact (ih hq).trans (List.suffix_cons c _)

/-- A string that is never closed leaves all that follows its quote. -/
lemma onward_quotedText (quote : Char) : (quotedText quote).Onward := by
  intro s
  unfold quotedText
  dsimp only
  split
  · case h_1 p h => exact quotedText?_suffix h
  · exact List.suffix_refl s

/-- Reading a numeral goes onward. -/
lemma onward_numeral : numeral.Onward := by
  refine (onward_eat _).bind fun minus => (onward_takeWhile _).bind fun whole => ?_
  refine (onward_eat _).bind fun point => ?_
  cases point with
  | true => exact (onward_takeWhile _).bind fun fraction => .ite (.pure _) (.pure _)
  | false => exact (Onward.pure []).bind fun fraction => .ite (.pure _) (.pure _)

/-- Reading the segments of a path goes onward. -/
lemma onward_segments : segments.Onward := by
  intro s
  change (segmentsFrom s).2 <:+ s
  fun_induction segmentsFrom s with
  | case1 s more ih => exact (ih.trans (List.dropWhile_suffix _)).trans (List.suffix_cons '.' s)
  | case2 s => exact List.suffix_refl s

end Reader

/-- How a round of a loop comes out: another round follows, or the loop is over. -/
inductive Round (σ ρ : Type)
  | again (state : σ)
  | done (result : ρ)

/-- A loop over a text: one round of it, from what the rounds before have come to. -/
abbrev Loop (σ ρ : Type) := σ → Reader (Round σ ρ)

namespace Loop

variable {σ ρ : Type}

/-- The result of a loop and the text that it leaves, if it is over within a number of rounds. -/
def within (loop : Loop σ ρ) : Nat → σ → List Char → Option (ρ × List Char)
  | 0, _, _ => none
  | n + 1, a, s =>
    match (loop a).run s with
    | (.again b, r) => loop.within n b r
    | (.done p, r) => some (p, r)

/-- A loop ends with the results of a function. Each of its rounds goes onward, and strictly so if
another one follows; hence the number of its rounds is at most one more than that of the characters
of the text. -/
structure Ends (loop : Loop σ ρ) (f : σ → List Char → ρ × List Char) : Prop where
  onward : ∀ a, (loop a).Onward
  advances : ∀ a s b r, (loop a).run s = (.again b, r) → r.length < s.length
  within_eq : ∀ a s n, s.length < n → loop.within n a s = some (f a s)

/-- What a round on `s` may come to in a loop that ends with the results of `f` and is to end with
`p`: a shorter text on which `f` comes to `p`, or `p` itself. -/
def Leads (f : σ → List Char → ρ × List Char) (s : List Char) (p : ρ × List Char) :
    Round σ ρ × List Char → Prop
  | (.again b, r) => r.length < s.length ∧ f b r = p
  | (.done q, r) => (q, r) = p

variable {loop : Loop σ ρ} {f : σ → List Char → ρ × List Char}

/-- Rounds that lead to the results of a function end with them. -/
theorem ends_of_rounds (honward : ∀ a, (loop a).Onward)
    (h : ∀ a s, Leads f s (f a s) ((loop a).run s)) : loop.Ends f where
  onward := honward
  advances := by
    intro a s b r hround
    have hleads := h a s
    rw [hround] at hleads
    exact hleads.1
  within_eq := by
    intro a s n hn
    induction n generalizing a s with
    | zero => exact absurd hn (Nat.not_lt_zero _)
    | succ n ih =>
      have hleads := h a s
      rw [within]
      cases hround : (loop a).run s with
      | mk round r =>
        rw [hround] at hleads
        cases round with
        | again b =>
          obtain ⟨hlt, heq⟩ := hleads
          dsimp only
          rw [ih b r (by omega), heq]
        | done p => exact congrArg some hleads

/-- What a loop leaves is the end of the text if its rounds go onward. -/
lemma within_suffix (honward : ∀ a, (loop a).Onward) {n : Nat} {a : σ} {s : List Char}
    {p : ρ × List Char} (h : loop.within n a s = some p) : p.2 <:+ s := by
  induction n generalizing a s with
  | zero => contradiction
  | succ n ih =>
    have hround := honward a s
    rw [within] at h
    split at h
    · case h_1 b r heq =>
      rw [heq] at hround
      exact (ih h).trans hround
    · case h_2 q r heq =>
      rw [heq] at hround
      cases h
      exact hround

/-- So is what a function leaves if a loop ends with its results. -/
lemma Ends.suffix (h : loop.Ends f) (a : σ) (s : List Char) : (f a s).2 <:+ s :=
  within_suffix h.onward (h.within_eq a s _ (Nat.lt_succ_self _))

end Loop

end Stencil
