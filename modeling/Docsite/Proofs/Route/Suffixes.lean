/-
**Queries and fragments do not count.**

The normal form of a path does not depend on its query and fragment. Neither does the normal form of what
is put below the base URL, whether the query and the fragment are cut off before or after that. The one
exception is the base URL without its last slash: with a query behind it, it is not known as the base URL.

* `normalize_congr`: the normal form is one of the path alone.
* `normalize_withBaseUrl_cutSuffixes`: cutting first or last gives the same normal form.
-/

import Mathlib.Data.List.TakeWhile
import Docsite.Proofs.Route.Prefixing

namespace Docsite.Route

variable {baseUrl path target : String}

/-! ## Cutting -/

@[simp] theorem toList_cutSuffixes (target : String) :
    (cutSuffixes target).toList = target.toList.takeWhile (!Url.endsPath ·) :=
  String.toList_ofList

/-- What is cut once is cut. -/
theorem cutSuffixes_idem (target : String) : cutSuffixes (cutSuffixes target) = cutSuffixes target := by
  rw [← String.toList_inj, toList_cutSuffixes, toList_cutSuffixes]
  exact List.takeWhile_eq_self_iff.mpr fun _ => List.mem_takeWhile_imp

/-- The path of a target stands in front of it. -/
theorem cutSuffixes_front (target : String) : (cutSuffixes target).toList <+: target.toList := by
  rw [toList_cutSuffixes]
  exact List.takeWhile_prefix _

/-- Whatever stands behind a query or a fragment is cut off with it. -/
theorem cutSuffixes_of_front {front : String} (ends : ∃ c ∈ front.toList, Url.endsPath c = true)
    (isFront : front.toList <+: target.toList) : cutSuffixes target = cutSuffixes front := by
  obtain ⟨back, spelled⟩ := isFront
  rw [← String.toList_inj, toList_cutSuffixes, toList_cutSuffixes, ← spelled, List.takeWhile_append,
    if_neg]
  intro whole
  obtain ⟨c, member, isEnd⟩ := ends
  have same := (List.takeWhile_prefix (!Url.endsPath ·)).eq_of_length whole
  have stays := List.takeWhile_eq_self_iff.mp same c member
  rw [isEnd] at stays
  cases stays

/-- Nothing is cut off from a front without query and fragment. -/
theorem cutSuffixes_append {front back : String}
    (noEnd : ∀ c ∈ front.toList, Url.endsPath c = false) :
    cutSuffixes (front ++ back) = front ++ cutSuffixes back := by
  rw [← String.toList_inj, toList_cutSuffixes, String.toList_append, String.toList_append,
    toList_cutSuffixes]
  exact List.takeWhile_append_of_pos fun c member => by rw [noEnd c member]; rfl

/-- A query or a fragment is cut off as a whole. -/
theorem cutSuffixes_tail {tail : String} (isTail : ∀ c ∈ tail.toList.head?, c = '?' ∨ c = '#') :
    cutSuffixes tail = "" := by
  rw [← String.toList_inj, toList_cutSuffixes]
  cases spelled : tail.toList with
  | nil => rfl
  | cons c rest =>
    have ends : Url.endsPath c = true := by
      rcases isTail c (by rw [spelled]; rfl) with rfl | rfl <;> rfl
    rw [List.takeWhile_cons, ends]
    rfl

/-- Slashes in front may go before or after the query and the fragment. -/
theorem cutSuffixes_trimStartOf (target : String) :
    cutSuffixes (Text.trimStartOf '/' target) = Text.trimStartOf '/' (cutSuffixes target) := by
  suffices onChars : ∀ cs : List Char, (cs.dropWhile (· == '/')).takeWhile (!Url.endsPath ·) =
      (cs.takeWhile (!Url.endsPath ·)).dropWhile (· == '/') by
    rw [cutSuffixes, Text.trimStartOf, Text.trimStartOf, String.toList_ofList, onChars,
      toList_cutSuffixes]
  intro cs
  induction cs with
  | nil => rfl
  | cons c rest ih =>
    by_cases slash : c = '/'
    · subst slash
      exact ih
    · have stays : (c == '/') = false := beq_eq_false_iff_ne.mpr slash
      rw [List.dropWhile_cons, stays, if_neg Bool.false_ne_true, List.takeWhile_cons]
      split
      · rw [List.dropWhile_cons, stays, if_neg Bool.false_ne_true]
      · rfl

/-- **The normal form is one of the path alone.** -/
theorem normalize_congr (same : cutSuffixes path = cutSuffixes target) :
    normalize path = normalize target := by
  rw [normalize, normalize, normalChars, normalChars, same]

/-! ## Below the base URL -/

/-- A target is put below the base URL with its query and fragment or without them, to the same
effect. -/
theorem cutSuffixes_withBaseUrl (noEnd : ∀ c ∈ baseUrl.toList, Url.endsPath c = false)
    (notBase : cutSuffixes target = Text.trimEndOf '/' baseUrl → cutSuffixes target = target) :
    cutSuffixes (withBaseUrl baseUrl target) =
      cutSuffixes (withBaseUrl baseUrl (cutSuffixes target)) := by
  by_cases starts : Text.startsWith baseUrl target = true
  · obtain ⟨back, spelled⟩ := List.isPrefixOf_iff_prefix.mp starts
    have asText : target = baseUrl ++ String.ofList back := by
      rw [← String.toList_inj, ← spelled]
      simp
    have cutStarts : Text.startsWith baseUrl (cutSuffixes target) = true := by
      refine List.isPrefixOf_iff_prefix.mpr ?_
      rw [asText, cutSuffixes_append noEnd, String.toList_append]
      exact List.prefix_append _ _
    rw [withBaseUrl, if_pos starts, withBaseUrl, if_pos cutStarts, cutSuffixes_idem]
  · have cutElsewhere : ¬ Text.startsWith baseUrl (cutSuffixes target) = true := fun cutStarts =>
      starts (List.isPrefixOf_iff_prefix.mpr
        ((List.isPrefixOf_iff_prefix.mp cutStarts).trans (cutSuffixes_front target)))
    by_cases isBase : cutSuffixes target = Text.trimEndOf '/' baseUrl
    · rw [notBase isBase]
    · have otherTarget : target ≠ Text.trimEndOf '/' baseUrl := by
        rintro rfl
        refine isBase ?_
        rw [← String.toList_inj, toList_cutSuffixes, List.takeWhile_eq_self_iff]
        intro c member
        rw [Text.toList_trimEndOf] at member
        rw [noEnd c ((List.rdropWhile_prefix (· == '/') baseUrl.toList).subset member)]
        rfl
      rw [withBaseUrl, if_neg starts, if_neg (by rwa [beq_iff_eq]), withBaseUrl,
        if_neg cutElsewhere, if_neg (by rwa [beq_iff_eq]), cutSuffixes_append noEnd,
        cutSuffixes_append noEnd, cutSuffixes_trimStartOf, cutSuffixes_trimStartOf,
        cutSuffixes_idem]

/-- **Cutting first or last gives the same normal form,** unless the path is the base URL without its
last slash and something was cut off behind it. -/
theorem normalize_withBaseUrl_cutSuffixes
    (notBase : cutSuffixes target = Text.trimEndOf '/' baseUrl → cutSuffixes target = target) :
    normalize (withBaseUrl baseUrl target) = normalize (withBaseUrl baseUrl (cutSuffixes target)) := by
  by_cases ends : ∃ c ∈ baseUrl.toList, Url.endsPath c = true
  -- A base URL with a query or a fragment of its own hides whatever is put below it.
  · rw [normalize_congr (cutSuffixes_of_front ends (prefix_withBaseUrl baseUrl target)),
      ← normalize_congr (cutSuffixes_of_front ends (prefix_withBaseUrl baseUrl _))]
  · have noEnd : ∀ c ∈ baseUrl.toList, Url.endsPath c = false := fun c member =>
      Bool.eq_false_iff.mpr fun isEnd => ends ⟨c, member, isEnd⟩
    exact normalize_congr (cutSuffixes_withBaseUrl noEnd notBase)

end Docsite.Route
