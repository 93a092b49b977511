import Stencil.Proofs.Limits.Template

/-!
# Templates that fit

A template fits in its limits if nothing in its tree tells of a cut: no text and no string literal
stands for what is too deep, and no text for a loop without `as`, which may be one whose source was
cut off. Every guard against depth leaves one of these where it takes effect, so a template that
fits is read alike with all deeper limits (`parse_eq_of_fits`). Two limits that it fits in,
whichever is the deeper one, give one tree (`parse_eq_of_fits_both`).
-/

namespace Stencil

namespace Template

/-- Whether nothing in a tree tells that a part of it was too deep. -/
def fits (template : Template) : Bool :=
  !anyNodes isCutText isTooDeep template.nodes

/-- More levels, at any limit for the length, change nothing about a tree that fits. The limit for
the length is met before any level is counted, so with it in force both trees are one message. -/
lemma parse_deeper (limits : Limits) {depth : Nat} (h : limits.depth ≤ depth) (s : String) :
    parse { limits with depth } s = parse limits s ∨ (parse limits s).fits = false := by
  by_cases hlength : (limits.length.any fun n => n < s.utf8ByteSize) = true
  · left
    rw [parse, if_pos hlength, parse, if_pos hlength]
  · have hdeeper : parse { limits with depth } s = parse ⟨depth, none⟩ s :=
      parse_of_not_long hlength
    rw [hdeeper, parse_of_not_long hlength]
    refine (parse_depth_widens h s).imp_right fun hcut => ?_
    rw [fits, hcut]
    rfl

/-- All depths that a template fits in give one tree. -/
theorem parse_eq_of_fits_both {limits : Limits} {depth : Nat} {s : String}
    (h : (parse limits s).fits = true) (hother : (parse { limits with depth } s).fits = true) :
    parse { limits with depth } s = parse limits s := by
  obtain hle | hle := Nat.le_total limits.depth depth
  · obtain heq | hcut := parse_deeper limits hle s
    · exact heq
    · rw [h] at hcut
      contradiction
  · obtain heq | hcut := parse_deeper { limits with depth } hle s
    · exact heq.symm
    · rw [hother] at hcut
      contradiction

/-- A template that fits in its limits is read alike with every deeper limit. -/
theorem parse_eq_of_fits {limits : Limits} {s : String} (h : (parse limits s).fits = true)
    {depth : Nat} (hdepth : limits.depth ≤ depth) :
    parse { limits with depth } s = parse limits s := by
  obtain heq | hcut := parse_deeper limits hdepth s
  · exact heq
  · rw [h] at hcut
    contradiction

/-- A loop over the result of a call. -/
def callLoop : String :=
  "\x7b\x7b#each f(a) as x\x7d\x7d\x7b\x7b x \x7d\x7d\x7b\x7b/each\x7d\x7d"

/-- The loop over a call fits in two levels. In one it does not: the argument is cut off, and the
source is dropped with its loop. -/
theorem parse_eq_of_fits_callLoop :
    (parse ⟨2, some 40⟩ callLoop).fits = true ∧ (parse ⟨1, some 40⟩ callLoop).fits = false ∧
      parse ⟨64, some 40⟩ callLoop = parse ⟨2, some 40⟩ callLoop := by
  have hfits : (parse ⟨2, some 40⟩ callLoop).fits = true := by decide +kernel
  have hdeeper : 2 ≤ 64 := by decide
  exact ⟨hfits, by decide +kernel, parse_eq_of_fits hfits hdeeper⟩

end Template

end Stencil
