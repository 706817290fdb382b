import TintedText.Proofs.Cutting

/-!
# The grammar of patterns

A pattern is cut into slices, one for each segment: a plain run holds no opening mark, a literal is
two of them, and a bracket goes from one to the first closing mark and is not empty. With no two
plain runs side by side such a cut is unique, and `tokenize` finds it exactly when there is one.
-/
namespace TintedText

namespace Segment

def isPlain : Segment → Bool
  | plain _ => true
  | literal _ | bracketed _ => false

/-- The slice of a pattern is one that the segment stands for, brackets going from `l` to `r`. -/
def Fits (l r : Char) (slice : List Char) (segment : Segment) : Prop :=
  (slice.length : Int) = segment.sourceLength ∧
    match segment with
    | plain length => 1 ≤ length ∧ l ∉ slice
    | literal mark => slice = [l, l] ∧ mark = [l]
    | bracketed content =>
      slice = l :: content ++ [r] ∧ content ≠ [] ∧ r ∉ content ∧ content.head? ≠ some l

end Segment

/-- The pattern is the slices of the segments one after another, no two plain runs side by side. -/
def IsParse (l r : Char) (pattern : List Char) (segments : List Segment) : Prop :=
  ∃ slices : List (List Char), slices.flatten = pattern ∧
    List.Forall₂ (Segment.Fits l r) slices segments ∧
    segments.IsChain fun first second => ¬ (first.isPlain = true ∧ second.isPlain = true)

namespace Cuts

variable {marks : Delimiters} {rest used : List Char} {segments : List Segment}

/-- What a plain run is cut from starts with no opening mark. -/
lemma head_of_isPlain {segment : Segment} (h : Cuts marks rest used (segment :: segments))
    (hplain : segment.isPlain = true) : ∃ c ∈ used.head?, marks.opens c = false := by
  cases h with
  | @plain run used segments ne clear ends cuts =>
    obtain ⟨c, run, rfl⟩ := List.exists_cons_of_ne_nil ne
    exact ⟨c, rfl, clear c (by simp)⟩
  | literal | bracketed => cases hplain

lemma isParse {l r : Char} (h : Cuts (.ofChars l r) [] used segments) :
    IsParse l r used segments := by
  induction h with
  | done => exact ⟨[], rfl, .nil, .nil⟩
  | @plain run used segments ne clear ends cuts ih =>
    obtain ⟨slices, rfl, hfits, hchain⟩ := ih
    have hclear : l ∉ run := Delimiters.forall_opens_iff.mp clear
    have hpos := List.length_pos_iff.mpr ne
    refine ⟨run :: slices, rfl, .cons ⟨rfl, by omega, hclear⟩ hfits, ?_⟩
    refine List.isChain_cons.mpr ⟨fun segment hsegment hboth => ?_, hchain⟩
    -- a plain run would have gone on over a second one
    obtain ⟨segments, rfl⟩ := List.head?_eq_some_iff.mp hsegment
    obtain ⟨c, hc, hopens⟩ := cuts.head_of_isPlain hboth.2
    rw [List.append_nil] at ends
    simp [ends c hc] at hopens
  | @literal first second used segments opens again _ ih =>
    obtain ⟨slices, rfl, hfits, hchain⟩ := ih
    obtain rfl : l = first := by simpa using opens
    obtain rfl : l = second := by simpa using again
    exact ⟨[l, l] :: slices, rfl, .cons ⟨rfl, rfl, rfl⟩ hfits,
      List.isChain_cons.mpr ⟨fun _ _ hboth => (by cases hboth.1), hchain⟩⟩
  | @bracketed mark close content used segments opens ne single inside closes _ ih =>
    obtain ⟨slices, rfl, hfits, hchain⟩ := ih
    obtain rfl : l = mark := by simpa using opens
    obtain rfl : r = close := by simpa using closes
    have hinside : r ∉ content := Delimiters.forall_closes_iff.mp inside
    have hsingle : content.head? ≠ some l := Delimiters.head_opens_iff.mp single
    refine ⟨(l :: content ++ [r]) :: slices, by simp, .cons ⟨?_, rfl, ne, hinside, hsingle⟩ hfits,
      List.isChain_cons.mpr ⟨fun _ _ hboth => (by cases hboth.1), hchain⟩⟩
    simp [Segment.sourceLength]
    omega

end Cuts

/-- Slices that start with no plain run start with the opening mark. -/
lemma head_of_fits {l r : Char} {slices : List (List Char)} {segments : List Segment}
    (h : List.Forall₂ (Segment.Fits l r) slices segments)
    (hplain : ∀ segment ∈ segments.head?, segment.isPlain = false) :
    ∀ c ∈ slices.flatten.head?, c = l := by
  cases h with
  | nil => simp
  | @cons slice segment slices segments hfit hrest =>
    have hkind := hplain segment rfl
    cases segment with
    | plain length => cases hkind
    | literal mark => simp [hfit.2.1]
    | bracketed content => simp [hfit.2.1]

/-- The slices of a parse are the cuts of the text. -/
lemma cuts_of_fits {l r : Char} {slices : List (List Char)} {segments : List Segment}
    (h : List.Forall₂ (Segment.Fits l r) slices segments)
    (hchain : segments.IsChain fun first second =>
      ¬ (first.isPlain = true ∧ second.isPlain = true)) :
    Cuts (.ofChars l r) [] slices.flatten segments := by
  induction h with
  | nil => exact .done
  | @cons slice segment slices segments hfit hrest ih =>
    obtain ⟨hnext, hchain⟩ := List.isChain_cons.mp hchain
    have hcuts := ih hchain
    rw [List.flatten_cons]
    cases segment with
    | plain length =>
      obtain ⟨hlength, hpos, hclear⟩ := hfit
      simp only [Segment.sourceLength] at hlength
      subst hlength
      have hends := head_of_fits hrest fun segment hsegment => by
        simpa [Segment.isPlain] using hnext segment hsegment
      refine .plain (List.length_pos_iff.mp (by omega)) (Delimiters.forall_opens_iff.mpr hclear)
        (fun c hc => ?_) hcuts
      rw [List.append_nil] at hc
      simp [hends c hc]
    | literal mark =>
      obtain ⟨-, rfl, rfl⟩ := hfit
      exact .literal (by simp) (by simp) hcuts
    | bracketed content =>
      obtain ⟨-, rfl, hne, hinside, hsingle⟩ := hfit
      have h : Cuts (.ofChars l r) [] (l :: (content ++ r :: slices.flatten))
          (.bracketed content :: segments) :=
        .bracketed (by simp) hne (Delimiters.head_opens_iff.mpr hsingle)
          (Delimiters.forall_closes_iff.mpr hinside) (by simp) hcuts
      simpa using h

theorem cuts_iff_isParse {l r : Char} {pattern : List Char} {segments : List Segment} :
    Cuts (.ofChars l r) [] pattern segments ↔ IsParse l r pattern segments := by
  refine ⟨Cuts.isParse, ?_⟩
  rintro ⟨slices, rfl, hfits, hchain⟩
  exact cuts_of_fits hfits hchain

lemma tokenize_eq_ok_iff {l r : Char} {pattern : List Char} {segments : List Segment} :
    tokenize (.ofChars l r) pattern = .ok segments ↔ IsParse l r pattern segments :=
  tokenizeFrom_eq_ok_iff.trans cuts_iff_isParse

/-- The reader accepts exactly the patterns that have a parse, and answers with their only one. -/
theorem tokenize_accepts (l r : Char) (pattern : List Char) (segments : List Segment) :
    (tokenize (.ofChars l r) pattern = .ok segments ↔ IsParse l r pattern segments) ∧
    (IsParse l r pattern segments →
      (segments.map Segment.sourceLength).sum = pattern.length ∧
        ∀ other, IsParse l r pattern other → other = segments) := by
  refine ⟨tokenize_eq_ok_iff, fun h => ⟨?_, fun other hother => ?_⟩⟩
  · rw [← covered_eq_sum]
    exact (cuts_iff_isParse.mpr h).covered_eq
  · have hread := tokenize_eq_ok_iff.mpr h
    rw [tokenize_eq_ok_iff.mpr hother] at hread
    exact Except.ok.inj hread

end TintedText
