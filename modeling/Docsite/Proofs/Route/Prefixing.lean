/-
**Paths below the base URL.**

Every path of a site ends up below its base URL, and it is put there once: what has the base URL in front
stays as it is, so nothing changes if a path is put there again. The base URL may be written without the
slashes at its end.

* `withBaseUrl_below`: what has the base URL in front stays as it is.
* `prefix_withBaseUrl`: whatever is put below the base URL has it in front.
* `withBaseUrl_lands`: where paths end up.
-/

import Docsite.Proofs.Text.Trim
import Docsite.Route.Basic

namespace Docsite.Route

variable {baseUrl path : String}

/-- **What has the base URL in front stays as it is.** -/
theorem withBaseUrl_below (below : baseUrl.toList <+: path.toList) :
    withBaseUrl baseUrl path = path := by
  have starts : Text.startsWith baseUrl path = true := List.isPrefixOf_iff_prefix.mpr below
  rw [withBaseUrl, if_pos starts]

/-- **Whatever is put below the base URL has it in front.** -/
theorem prefix_withBaseUrl (baseUrl path : String) :
    baseUrl.toList <+: (withBaseUrl baseUrl path).toList := by
  unfold withBaseUrl
  split
  · next starts => exact List.isPrefixOf_iff_prefix.mp starts
  · split
    · exact List.prefix_refl _
    · rw [String.toList_append]
      exact List.prefix_append _ _

/-- The base URL without the slashes at its end stands for the base URL. -/
theorem withBaseUrl_bare (baseUrl : String) :
    withBaseUrl baseUrl (Text.trimEndOf '/' baseUrl) = baseUrl := by
  by_cases below : baseUrl.toList <+: (Text.trimEndOf '/' baseUrl).toList
  · -- What is left of the base URL has all of it in front only if nothing was taken off.
    have front : (Text.trimEndOf '/' baseUrl).toList <+: baseUrl.toList := by
      rw [Text.toList_trimEndOf]
      exact List.rdropWhile_prefix _ _
    have whole : Text.trimEndOf '/' baseUrl = baseUrl :=
      String.toList_inj.mp (front.eq_of_length_le below.length_le)
    rw [withBaseUrl_below below, whole]
  · have startsNot : ¬ Text.startsWith baseUrl (Text.trimEndOf '/' baseUrl) = true :=
      mt List.isPrefixOf_iff_prefix.mp below
    rw [withBaseUrl, if_neg startsNot, if_pos (beq_self_eq_true _)]

/-- Any other path follows the base URL without the slashes in front of it. -/
theorem withBaseUrl_apart (apart : ¬ baseUrl.toList <+: path.toList)
    (notBare : path ≠ Text.trimEndOf '/' baseUrl) :
    withBaseUrl baseUrl path = baseUrl ++ Text.trimStartOf '/' path := by
  have startsNot : ¬ Text.startsWith baseUrl path = true := mt List.isPrefixOf_iff_prefix.mp apart
  rw [withBaseUrl, if_neg startsNot, if_neg (mt eq_of_beq notBare)]

/-- A path that does not start with a slash follows the base URL as it is. -/
theorem withBaseUrl_relative (rooted : baseUrl.toList.head? = some '/')
    (relative : path.toList.head? ≠ some '/') : withBaseUrl baseUrl path = baseUrl ++ path := by
  have noSlash : ∀ c ∈ path.toList.head?, c ≠ '/' := fun c first same => relative (same ▸ first)
  by_cases bare : path = Text.trimEndOf '/' baseUrl
  · -- What is left of the base URL starts with its first slash, unless nothing is left.
    have empty : path = "" := by
      rw [← String.toList_eq_nil_iff, ← List.head?_eq_none_iff, Option.eq_none_iff_forall_not_mem]
      intro c first
      have inBase : c ∈ baseUrl.toList.head? := by
        rw [bare, Text.toList_trimEndOf] at first
        exact Text.head?_dropEndWhile first
      rw [rooted] at inBase
      exact noSlash c first (Option.some.inj inBase).symm
    rw [bare, withBaseUrl_bare, ← bare, empty, String.append_empty]
  · have apart : ¬ baseUrl.toList <+: path.toList := by
      intro below
      have slash : ['/'] <+: baseUrl.toList := List.singleton_prefix_iff_head?_eq_some.mpr rooted
      exact relative (List.singleton_prefix_iff_head?_eq_some.mp (slash.trans below))
    rw [withBaseUrl_apart apart bare, Text.trimStartOf,
      Text.dropWhile_eq_self fun c first => beq_eq_false_iff_ne.mpr (noSlash c first),
      String.ofList_toList]

/-- **A path ends up below the base URL, and stays there.** Let the base URL start with a slash, whatever
stands at its end. Whatever a path is, it has the base URL in front when it is put below it, and putting it
there again changes nothing. A path that does not start with a slash follows the base URL as it is; one that
does, and neither has the base URL in front nor is the base URL without the slashes at its end, follows it
without the slashes in front. The base URL itself, with the slashes at its end or without them, leads to the
base URL. -/
theorem withBaseUrl_lands {baseUrl : String} (rooted : baseUrl.toList.head? = some '/') (path : String) :
    baseUrl.toList <+: (withBaseUrl baseUrl path).toList ∧
    withBaseUrl baseUrl (withBaseUrl baseUrl path) = withBaseUrl baseUrl path ∧
    (path.toList.head? ≠ some '/' → withBaseUrl baseUrl path = baseUrl ++ path) ∧
    (path.toList.head? = some '/' → ¬ baseUrl.toList <+: path.toList →
      path ≠ Text.trimEndOf '/' baseUrl →
      withBaseUrl baseUrl path = baseUrl ++ Text.trimStartOf '/' path) ∧
    withBaseUrl baseUrl baseUrl = baseUrl ∧
    withBaseUrl baseUrl (Text.trimEndOf '/' baseUrl) = baseUrl := by
  refine ⟨prefix_withBaseUrl baseUrl path, withBaseUrl_below (prefix_withBaseUrl baseUrl path),
    withBaseUrl_relative rooted, fun _ => withBaseUrl_apart, ?_, withBaseUrl_bare baseUrl⟩
  exact withBaseUrl_below (List.prefix_refl _)

/-- A base URL with two slashes at its end, a path that only shares its first letters with it, and a path
that does not start with a slash. -/
theorem withBaseUrl_lands_shared :
    "/oi//".toList.head? = some '/' ∧ withBaseUrl "/oi//" "//oi/x" = "/oi//" ++ "oi/x" ∧
      withBaseUrl "/oi//" ("/oi//" ++ "oi/x") = "/oi//" ++ "oi/x" ∧
      withBaseUrl "/oi//" "oi//" = "/oi//" ++ "oi//" ∧ withBaseUrl "/oi//" "/oi" = "/oi//" := by
  have rooted : "/oi//".toList.head? = some '/' := by decide
  have shared := withBaseUrl_lands rooted "//oi/x"
  have follows : withBaseUrl "/oi//" "//oi/x" = "/oi//" ++ "oi/x" :=
    shared.2.2.2.1 (by decide) (by decide) (by decide)
  have again := shared.2.1
  rw [follows] at again
  exact ⟨rooted, follows, again, (withBaseUrl_lands rooted "oi//").2.2.1 (by decide),
    (withBaseUrl_lands rooted "/oi").2.2.2.2.2⟩

end Docsite.Route
